import SnippetCost.Report.Rating
import SnippetCost.Text.Place

/-!
# Numerals in a text

The numerals that stand in a text, in digits of any script, and which of them counts as its rating: the
first that is said to be out of ten, and failing that the first. A numeral that stands in a text is a
`Rating.Occurrence`, and `Rating.Occurrence.Counts` says which of them counts.
-/

namespace SnippetCost.Rating

/-- Whether a text is one or more decimal digits, of any script. -/
structure IsDecimals (t : Text) : Prop where
  ne_nil : t ≠ []
  isDecimal : ∀ c ∈ t, isDecimal c

/-- Whether a text is a numeral: digits, with a point and more digits behind them or without. -/
inductive IsNumeral : Text → Prop where
  | whole {digits : Text} : IsDecimals digits → IsNumeral digits
  | pointed {whole fraction : Text} :
    IsDecimals whole → IsDecimals fraction → IsNumeral (whole ++ '.' :: fraction)

/-- A number as it is written. -/
def Numeral.text (n : Numeral) : Text :=
  if n.fraction = [] then n.whole else n.whole ++ '.' :: n.fraction

/-- A numeral in a text, and what stands in front of it and behind it. Part of a longer numeral is one,
too. -/
@[ext]
structure Occurrence (t : Text) where
  front : Text
  numeral : Text
  back : Text
  text_eq : t = front ++ (numeral ++ back)
  isNumeral : IsNumeral numeral

namespace Occurrence

variable {t : Text}

/-- Whether a slash and the whole number ten stand behind the numeral, blanks around the slash. -/
def IsOutOfTen (o : Occurrence t) : Prop :=
  ∃ v w s : Text, (∀ c ∈ v, isBlank c) ∧ (∀ c ∈ w, isBlank c) ∧ Text.beginsInWord s = false ∧
    o.back = v ++ '/' :: (w ++ '1' :: '0' :: s)

/-- Whether a numeral is what a search from the left for numerals of a kind finds: none of them begins
further to the left, and none that begins at the same place is longer. -/
structure IsFound (kind : Occurrence t → Prop) (o : Occurrence t) : Prop where
  of_kind : kind o
  leftmost : ∀ e, kind e → o.front.length ≤ e.front.length
  longest : ∀ e, kind e → e.front = o.front → e.numeral.length ≤ o.numeral.length

/-- Whether a numeral counts as the rating: it is the first out of ten, or the first of all in a text
that has none out of ten. -/
def Counts (o : Occurrence t) : Prop :=
  o.IsFound IsOutOfTen ∨ (∀ e : Occurrence t, ¬ e.IsOutOfTen) ∧ o.IsFound fun _ => True

end Occurrence

end SnippetCost.Rating
