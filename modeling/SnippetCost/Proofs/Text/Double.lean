import SnippetCost.Proofs.Text.Lower
import SnippetCost.Text.Double

/-!
# Digits of doubles

A text with a decimal digit of another script in it is not read as a double.

The main result is `IsDouble.isAsciiDigit`, put together from the parts of a double.
-/

namespace SnippetCost

variable {c : Char} {t word : Text}

/-- The case of a character does not change whether it is a decimal. -/
lemma isDecimal_asciiLower (c : Char) : isDecimal (asciiLower c) = isDecimal c :=
  asciiLower_induction (p := fun c d => isDecimal d = isDecimal c) (by decide)
    (fun _ => rfl) c

namespace Double

/-- A sign has no decimal in it. -/
lemma IsSign.isDecimal (sign : IsSign t) (mem : c ∈ t) : isDecimal c = false := by
  rcases sign with rfl | rfl | rfl
  · cases mem
  · rw [List.mem_singleton.1 mem]
    decide
  · rw [List.mem_singleton.1 mem]
    decide

/-- The words for what is no number have no decimal in them. -/
lemma isDecimal_of_mem_words (hw : word ∈ words) (mem : c ∈ word) : isDecimal c = false := by
  have letters : words.all fun word => word.all fun c => !SnippetCost.isDecimal c := by
    decide
  simpa using List.all_eq_true.1 (List.all_eq_true.1 letters word hw) c mem

/-- The decimals of a mantissa are ASCII digits. -/
lemma IsMantissa.isAsciiDigit (mantissa : IsMantissa t) (mem : c ∈ t) (digit : isDecimal c) :
    isAsciiDigit c := by
  cases mantissa with
  | whole digits => exact digits.isAsciiDigit c mem
  | pointed digits =>
    have ne : c ≠ '.' := by
      rintro rfl
      exact absurd digit (by decide)
    refine digits.isAsciiDigit c ?_
    simpa [ne] using mem

/-- The decimals of an exponent are ASCII digits. -/
lemma IsExponent.isAsciiDigit (exponent : IsExponent t) (mem : c ∈ t) (digit : isDecimal c) :
    isAsciiDigit c := by
  cases exponent with
  | none => cases mem
  | power letter sign digits =>
    rw [List.mem_cons, List.mem_append] at mem
    rcases mem with rfl | mem | mem
    · rw [← isDecimal_asciiLower, letter] at digit
      exact absurd digit (by decide)
    · rw [sign.isDecimal mem] at digit
      cases digit
    · exact digits.isAsciiDigit c mem

end Double

/-- The decimal digits of a double are ASCII digits. -/
lemma IsDouble.isAsciiDigit (double : IsDouble t) (mem : c ∈ t) (digit : isDecimal c) :
    isAsciiDigit c := by
  cases double with
  | number sign mantissa exponent =>
    rw [List.mem_append, List.mem_append] at mem
    rcases mem with mem | mem | mem
    · rw [sign.isDecimal mem] at digit
      cases digit
    · exact mantissa.isAsciiDigit mem digit
    · exact exponent.isAsciiDigit mem digit
  | word sign word =>
    rcases List.mem_append.1 mem with mem | mem
    · rw [sign.isDecimal mem] at digit
      cases digit
    · have letter := Double.isDecimal_of_mem_words word (List.mem_map_of_mem mem)
      rw [isDecimal_asciiLower, digit] at letter
      cases letter

end SnippetCost
