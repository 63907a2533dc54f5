import SnippetCost.Report.Plain
import SnippetCost.Proofs.Text.Trim

/-!
# Lines of a field in plain notation

A line with a label, a colon, a space and a plain value is read as the label and the value.

`read?_label` reads such a line, and the main results are `feed_label` and `feed_blank`, for what the
line and the blank line behind it do to a reading.
-/

namespace SnippetCost

variable {t v : Text}

/-- The label of a field names the field. -/
lemma Field.ofLabel?_label (f : Field) : Field.ofLabel? f.label.toList = some f := by
  cases f <;> decide

/-- A trimmed line does not end in a carriage return. -/
lemma IsTrimmedLine.noReturn (h : IsTrimmedLine v) : v.getLast? ≠ some '\r' := by
  intro last
  cases Text.isBlank_getLast?_of_trim h.trimmed last

/-- Nothing of a plain value is cleaned away. -/
lemma IsPlainValue.cleanValue (h : IsPlainValue v) : Reading.cleanValue v = v := by
  have stars : Text.strip (· = '*') v = v := by
    apply Text.strip_eq_self
    · intro c first
      rw [decide_eq_false_iff_not]
      rintro rfl
      exact h.noStarBefore first
    · intro c last
      rw [decide_eq_false_iff_not]
      rintro rfl
      exact h.noStarBehind last
  rw [Reading.cleanValue, h.trimmed, stars, h.trimmed]

/-- Cleaning a value only leaves characters out. -/
lemma Reading.cleanValue_sublist (t : Text) : (Reading.cleanValue t).Sublist t :=
  (Text.strip_sublist isBlank _).trans <|
    (Text.strip_sublist (· = '*') _).trans (Text.strip_sublist isBlank t)

namespace FieldLine

/-- A label has no decoration in front of it. -/
lemma skipDecoration_label (f : Field) (t : Text) :
    skipDecoration (f.label.toList ++ ':' :: t) = f.label.toList ++ ':' :: t := by
  cases f <;> rfl

/-- A label is cut off in front of its colon. -/
lemma cutAnyLabel?_label (f : Field) (t : Text) :
    cutAnyLabel? (f.label.toList ++ ':' :: t) = some (f.label.toList, ':' :: t) := by
  cases f <;> rfl

/-- A plain value begins with no mark of emphasis. -/
lemma skipEmphasis_of_plain (h : IsPlainValue v) : skipEmphasis v = v := by
  fun_cases skipEmphasis v with
  | case1 rest => exact absurd rfl h.noStarBefore
  | case2 rest => exact absurd ⟨rest, rfl⟩ h.noUnderscores
  | case3 => rfl

/-- Behind a colon and a space a trimmed text is the value, a mark of emphasis at its start apart. -/
lemma value?_of_trim (trimmed : Text.trim v = v) : value? (':' :: ' ' :: v) = some (skipEmphasis v) := by
  have behind : Text.trimStart (' ' :: v) = v := by
    rw [Text.trimStart_cons_of_isBlank (by decide), Text.trimStart_of_trim trimmed]
  have colon : Text.trimStart (skipEmphasis (Text.trimStart (':' :: ' ' :: v))) =
      ':' :: ' ' :: v := rfl
  rw [value?, colon]
  show some (skipEmphasis (Text.trimStart (' ' :: v))) = some (skipEmphasis v)
  rw [behind]

/-- A label, a colon, a space and a plain value are read as the label and the value. -/
lemma read?_label (f : Field) (h : IsPlainValue v) :
    read? (f.label.toList ++ ':' :: ' ' :: v) = some (f.label.toList, v) := by
  rw [read?, skipDecoration_label, cutAnyLabel?_label]
  dsimp only
  rw [value?_of_trim h.trimmed, skipEmphasis_of_plain h, Option.map_some]

end FieldLine

namespace Reading

/-- A line that begins with a label is no fence. -/
lemma fenceInfo?_label (f : Field) (t : Text) : fenceInfo? (f.label.toList ++ t) = none := by
  cases f <;> rfl

/-- Reading the line of a field takes the field. -/
lemma feed_label {s : Reading} (closed : s.block = none) (f : Field) (h : IsPlainValue v) :
    s.feed (f.label.toList ++ ':' :: ' ' :: v) = s.takeField f v := by
  rw [feed, closed]
  dsimp only
  rw [feedProse, fenceInfo?_label]
  dsimp only
  rw [FieldLine.read?_label f h]
  dsimp only
  rw [Field.ofLabel?_label, h.cleanValue]

/-- A blank line ends the current field. -/
lemma feed_blank {s : Reading} (closed : s.block = none) :
    s.feed [] = { s with current := none } := by
  obtain ⟨report, block, current⟩ := s
  cases closed
  rfl

end Reading

end SnippetCost
