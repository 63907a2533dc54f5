import SnippetCost.Report.Display
import SnippetCost.Report.Reading

/-!
# Reports in plain notation

How a report is put down by hand: a line for each field that it has, with the label before the value,
and each block of code between fences. A report of which no part could be taken for something else can
be put down so. The reports are those of `Report.IsPlain`, and the notation is `Report.plain`.
-/

namespace SnippetCost

/-- A text without line feeds that neither begins nor ends with blanks. -/
structure IsTrimmedLine (t : Text) : Prop where
  ne_nil : t ≠ []
  trimmed : Text.trim t = t
  oneLine : '\n' ∉ t

/-- A value that stands behind its label as it is: no mark of emphasis is at its edges. -/
structure IsPlainValue (t : Text) : Prop extends IsTrimmedLine t where
  noStarBefore : t.head? ≠ some '*'
  noStarBehind : t.getLast? ≠ some '*'
  noUnderscores : ¬ ['_', '_'] <+: t

instance (t : Text) : Decidable (IsPlainValue t) :=
  decidable_of_iff
    ((t ≠ [] ∧ Text.trim t = t ∧ '\n' ∉ t) ∧
      t.head? ≠ some '*' ∧ t.getLast? ≠ some '*' ∧ ¬ ['_', '_'] <+: t)
    ⟨fun ⟨⟨ne, trimmed, line⟩, before, behind, under⟩ =>
        ⟨⟨ne, trimmed, line⟩, before, behind, under⟩,
      fun ⟨⟨ne, trimmed, line⟩, before, behind, under⟩ =>
        ⟨⟨ne, trimmed, line⟩, before, behind, under⟩⟩

/-- A block of code that can stand between fences as it is. -/
structure CodeBlock.IsPlain (b : CodeBlock) : Prop where
  language : ∀ l, b.language = some l → IsTrimmedLine l
  noReturn : ∀ line ∈ Text.cutLines b.code, line.getLast? ≠ some '\r'
  noFence : ∀ line ∈ Text.cutLines b.code, ¬ fenceMark.toList <+: Text.trimStart line

/-- The block between fences. -/
def CodeBlock.plain (b : CodeBlock) : Text :=
  fenceMark.toList ++ b.language.getD [] ++ '\n' :: b.code ++ '\n' :: fenceMark.toList ++ ['\n']

namespace Report

/-- A report that can be put down in plain notation. -/
structure IsPlain (r : Report) : Prop where
  text : ∀ f t, r.text? f = some t → IsPlainValue t
  rating : ∀ n, r.rating = some n → n.toNat ≤ Rating.best
  block : ∀ b ∈ r.blocks, b.IsPlain

/-- The line of a field and the blank line behind it, if the report has the field. -/
def plainField (r : Report) (f : Field) : Text :=
  match r.shownText? f with
  | some value => f.label.toList ++ ": ".toList ++ value ++ "\n\n".toList
  | none => []

/-- The report in plain notation. -/
def plain (r : Report) : Text :=
  Field.all.flatMap r.plainField ++ r.blocks.flatMap CodeBlock.plain

end Report

end SnippetCost
