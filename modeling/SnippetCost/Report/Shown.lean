import Mathlib.Data.List.Forall2
import SnippetCost.Markup.Stripping
import SnippetCost.Report.Display

/-!
# Reading a shown report

What a reader of a written report can tell from its text alone: behind the name of a field stand the
class and the value that it is shown with. Reports that agree in all that can be told are shown alike.
The main definitions are `Report.shownClass?`, `Report.shownValue?` and `Report.ShownAlike`.
-/

namespace SnippetCost

/-- Whether two blocks of code are shown alike: they have the same code, and of their languages the
same characters are kept. A block without a language is like one of which nothing is kept. -/
structure CodeBlock.ShownAlike (b b' : CodeBlock) : Prop where
  code : b.code = b'.code
  language : (b.language.getD []).filter Report.isLanguageChar =
    (b'.language.getD []).filter Report.isLanguageChar

namespace Report

/-- The label of growth in a field; the other fields have none. -/
def label? (r : Report) : Field → Option Label
  | .timeComplexity => r.timeLabel
  | .spaceComplexity => r.spaceLabel
  | .bottleneck | .optimization | .rating => none

/-- The name of a field as it stands in a written report. -/
def shownName (f : Field) : Text :=
  "<dt>".toList ++ f.label.toList ++ "</dt>".toList

/-- The class that a written report gives to the value of a field. -/
def shownClass? (f : Field) (written : Text) : Option Text := do
  let behind ← Text.behindFirst? (shownName f) written
  let value ← Text.dropLead? "<dd class=\"".toList behind
  return value.takeWhile (· ≠ '"')

/-- The value that a written report gives to a field: what stands between the tags behind its name,
with the entities put back. -/
def shownValue? (f : Field) (written : Text) : Option Text := do
  let behind ← Text.behindFirst? (shownName f) written
  let value ← Text.dropLead? ['>'] (behind.dropWhile (· ≠ '>'))
  return Markup.unescape (value.takeWhile (· ≠ '<'))

/-- Whether two reports are shown alike: they agree on the four texts and the rating, and have the same
number of blocks, each shown like its counterpart. -/
structure ShownAlike (r r' : Report) : Prop where
  text : ∀ f, r.text? f = r'.text? f
  rating : r.rating = r'.rating
  blocks : List.Forall₂ CodeBlock.ShownAlike r.blocks r'.blocks

end Report

end SnippetCost
