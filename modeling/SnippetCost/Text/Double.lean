import SnippetCost.Text.Lower
import SnippetCost.Text.Number

/-!
# Texts of doubles

The texts that are read as numbers in double precision: ASCII digits, at most one point among them, a
sign in front and an exponent behind, or one of the words for what is infinite or not a number.
-/

namespace SnippetCost

/-- Whether a text is one or more ASCII digits. -/
structure IsDigits (t : Text) : Prop where
  ne_nil : t ≠ []
  isAsciiDigit : ∀ c ∈ t, isAsciiDigit c

namespace Double

/-- Whether a text is a sign, or empty. -/
def IsSign (t : Text) : Prop :=
  t = [] ∨ t = ['+'] ∨ t = ['-']

/-- Whether a text is digits, with a point somewhere among them or none. -/
inductive IsMantissa : Text → Prop where
  | whole {digits : Text} : IsDigits digits → IsMantissa digits
  | pointed {whole fraction : Text} :
    IsDigits (whole ++ fraction) → IsMantissa (whole ++ '.' :: fraction)

/-- Whether a text is a power of ten, or empty. -/
inductive IsExponent : Text → Prop where
  | none : IsExponent []
  | power {letter : Char} {sign digits : Text} :
    asciiLower letter = 'e' → IsSign sign → IsDigits digits → IsExponent (letter :: (sign ++ digits))

/-- The words that are read as doubles, in small letters. -/
def words : List Text :=
  ["inf".toList, "infinity".toList, "nan".toList]

end Double

/-- Whether a text is read as a double. -/
inductive IsDouble : Text → Prop where
  | number {sign mantissa exponent : Text} :
    Double.IsSign sign → Double.IsMantissa mantissa → Double.IsExponent exponent →
      IsDouble (sign ++ (mantissa ++ exponent))
  | word {sign word : Text} :
    Double.IsSign sign → word.map asciiLower ∈ Double.words → IsDouble (sign ++ word)

end SnippetCost
