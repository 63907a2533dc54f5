import SnippetCost.Proofs.Growth.Label
import SnippetCost.Proofs.Report.Shown

/-!
# The colour of a field

The value of a field on growth is shown in the band of its text, not in that of the label that the
text is read as. The two are the same exactly where the text is the label itself between blanks, or
where the label has no band of its own.

The main result is `shownClass?_eq_band_iff`, which rests on `Label.ofText_eq_band_iff`.
-/

namespace SnippetCost

/-- Every band has a class of its own. -/
lemma Band.cssClass_inj {a b : Band} : a.cssClass.toList = b.cssClass.toList ↔ a = b := by
  constructor
  · cases a <;> cases b <;> decide
  · rintro rfl
    rfl

namespace Report

variable {r : Report} {f : Field}

/-- Only the two fields on growth have a label, which is read from their text. -/
lemma label?_eq_some {l : Label} (h : r.label? f = some l) :
    (f = .timeComplexity ∨ f = .spaceComplexity) ∧ ∃ t, r.text? f = some t ∧ l = Label.read t := by
  cases f with
  | timeComplexity =>
    obtain ⟨t, text, rfl⟩ := Option.map_eq_some_iff.1 h
    exact ⟨.inl rfl, t, text, rfl⟩
  | spaceComplexity =>
    obtain ⟨t, text, rfl⟩ := Option.map_eq_some_iff.1 h
    exact ⟨.inr rfl, t, text, rfl⟩
  | bottleneck | optimization | rating => cases h

/-- A field on growth is shown in the band of its text. That is the band of the label that the report
has there exactly where the text is this label between blanks, or the label has no band of its own. -/
theorem shownClass?_eq_band_iff (classLead : Text) (r : Report) (f : Field) (l : Label)
    (present : r.label? f = some l) :
    ∃ t, r.text? f = some t ∧
      shownClass? f (r.write classLead) = some (Band.ofText t).cssClass.toList ∧
      (shownClass? f (r.write classLead) = some l.band.cssClass.toList ↔
        l.band = .fallback ∨ Text.trim t = l.text) := by
  obtain ⟨growth, t, text, rfl⟩ := label?_eq_some present
  have shown := shownClass?_write growth text classLead
  refine ⟨t, text, shown, ?_⟩
  rw [shown, ← Label.ofText_eq_band_iff, Option.some_inj, Band.cssClass_inj]

/-- A report with a square written with a caret, and with blanks around a label. -/
def unevenlySpelled : Report where
  timeComplexity := some "O(n^2)".toList
  spaceComplexity := some " O(n) ".toList

/-- A label between blanks is shown in its band. -/
theorem shownClass?_eq_band_unevenlySpelled :
    unevenlySpelled.label? .spaceComplexity = some (.known .linear) ∧
      shownClass? .spaceComplexity (unevenlySpelled.write []) =
        some (Label.known .linear).band.cssClass.toList := by
  have present : unevenlySpelled.label? .spaceComplexity = some (.known .linear) := by
    decide +kernel
  obtain ⟨t, text, -, band⟩ := shownClass?_eq_band_iff [] unevenlySpelled .spaceComplexity _ present
  obtain rfl : " O(n) ".toList = t := Option.some.inj text
  exact ⟨present, band.2 (.inr (by decide +kernel))⟩

/-- A square written with a caret is read as the class of squares and not shown in its band. -/
theorem shownClass?_ne_band_unevenlySpelled :
    unevenlySpelled.label? .timeComplexity = some (.known .quadratic) ∧
      (Label.known .quadratic).band = .slow ∧
      shownClass? .timeComplexity (unevenlySpelled.write []) =
        some Band.fallback.cssClass.toList ∧
      shownClass? .timeComplexity (unevenlySpelled.write []) ≠
        some (Label.known .quadratic).band.cssClass.toList := by
  decide +kernel

end Report

end SnippetCost
