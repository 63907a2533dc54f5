import SnippetCost.Proofs.Report.Labelled
import SnippetCost.Proofs.Text.Words

/-!
# The field that a label stands for

A line is found to hold a field by a label whose case is ignored in all of Unicode, and the field is
then looked up by a label whose case is ignored in ASCII. The two part where the long `ſ` or the
Kelvin sign stands for a letter: the line holds a field, but none is found for its label, and nothing
is taken from it.

The two cases are `ofLabel?_of_spellsWords` and `ofLabel?_eq_none`. The main result is
`FieldLine.ofLabel?_of_read?`.
-/

namespace SnippetCost

open Text (joinSpaced words_append words_of_solid mem_words mem_joinSpaced)

variable {t label word seen : Text} {words : List Text} {f : Field} {c : Char}

/-- But for the long s and the Kelvin sign, both ways to ignore case agree on letters. -/
lemma foldCase_eq_asciiLower (notLong : c ≠ 'ſ') (notKelvin : c ≠ '\u212a') :
    foldCase c = asciiLower c := by
  rw [foldCase, if_neg notLong, if_neg notKelvin]

namespace FieldLine

/-- What spells a word of a label is not empty and has no blank in it. -/
lemma IsFoldedWord.solid (hw : IsFoldedWord word) (folds : seen.map foldCase = word) :
    seen ≠ [] ∧ ∀ c ∈ seen, isBlank c = false := by
  subst folds
  constructor
  · rintro rfl
    exact hw.ne_nil rfl
  · intro c mem
    have letter : foldCase c ∈ seen.map foldCase := List.mem_map_of_mem mem
    have variant := mem_variants ((isLetterOf_iff (hw.plain _ letter)).2 rfl)
    exact isBlank_of_isUndecorated (hw.undecorated _ letter c variant)

/-- The words of a text that spells the words of a label are these up to case. -/
lemma map_words_of_spellsWords (folded : ∀ word ∈ words, IsFoldedWord word)
    (spells : SpellsWords words label) : (Text.words label).map (List.map foldCase) = words := by
  induction spells with
  | last folds =>
    obtain ⟨ne, solid⟩ := (folded _ List.mem_cons_self).solid folds
    rw [words_of_solid solid ne, List.map_singleton, folds]
  | cons folds gap_ne blanks _ ih =>
    obtain ⟨hw, folded⟩ := List.forall_mem_cons.1 folded
    obtain ⟨ne, solid⟩ := hw.solid folds
    rw [words_append solid ne blanks gap_ne, List.map_cons, folds, ih folded]

/-- A character of a label that is no blank stands for a letter of it. -/
lemma foldCase_mem_flatten (spells : SpellsWords f.words label) (mem : c ∈ label)
    (solid : isBlank c = false) : foldCase c ∈ f.words.flatten := by
  obtain ⟨word, hw, hc⟩ := mem_words.2 ⟨mem, solid⟩
  rw [← map_words_of_spellsWords (isFoldedWord_of_mem f) spells]
  exact List.mem_flatten_of_mem (List.mem_map_of_mem hw) (List.mem_map_of_mem hc)

end FieldLine

namespace Field

/-- A label is looked up by its words in lower case, with one space between them. -/
lemma plainLabel_eq (t : Text) :
    plainLabel t = joinSpaced ((Text.words t).map (List.map asciiLower)) :=
  (Text.joinSpaced_map_asciiLower _).symm

/-- No character of a label but its blanks is left out of what it is looked up by. -/
lemma asciiLower_mem_plainLabel (mem : c ∈ t) (solid : isBlank c = false) :
    asciiLower c ∈ plainLabel t := by
  obtain ⟨word, hw, hc⟩ := mem_words.2 ⟨mem, solid⟩
  rw [plainLabel_eq]
  exact mem_joinSpaced (List.mem_map_of_mem hw) (List.mem_map_of_mem hc)

/-- In ASCII case, and with any blanks between its words, a label stands for its field. -/
lemma ofLabel?_of_spellsWords (spells : SpellsWords f.words label) (notLong : 'ſ' ∉ label)
    (notKelvin : '\u212a' ∉ label) : ofLabel? label = some f := by
  have folded := FieldLine.map_words_of_spellsWords (FieldLine.isFoldedWord_of_mem f) spells
  have lower : (Text.words label).map (List.map asciiLower) = f.words := by
    rw [← folded]
    refine List.map_congr_left fun word hw => List.map_congr_left fun c hc => ?_
    have mem : c ∈ label := (mem_words.1 ⟨word, hw, hc⟩).1
    exact (foldCase_eq_asciiLower (ne_of_mem_of_not_mem mem notLong)
      (ne_of_mem_of_not_mem mem notKelvin)).symm
  have plain : joinSpaced f.words = plainLabel f.label.toList := by
    cases f <;> decide
  rw [← ofLabel?_label f, ofLabel?, ofLabel?, plainLabel_eq label, lower, plain]

/-- No field has a label with a character in it that is no ASCII letter in either case. -/
lemma ofLabel?_eq_none (mem : c ∈ label) (other : c = 'ſ' ∨ c = '\u212a') :
    ofLabel? label = none := by
  have solid : isBlank c = false := by
    rcases other with rfl | rfl <;> decide
  have lower := asciiLower_mem_plainLabel mem solid
  refine List.find?_eq_none.2 fun g _ same => ?_
  rw [← of_decide_eq_true same] at lower
  have none : asciiLower c ∉ plainLabel g.label.toList := by
    rcases other with rfl | rfl <;> cases g <;> decide
  exact none lower

end Field

/-- The label of a line that holds a field spells the label of one field, and the field is found for
it unless the long `ſ` or the Kelvin sign stands in it, which only the space complexity and the
bottleneck have a letter for. Then no field is found, and outside fences the line is dropped. -/
theorem FieldLine.ofLabel?_of_read? {line label value : Text}
    (h : read? line = some (label, value)) :
    ∃ f : Field, SpellsWords f.words label ∧
      Field.ofLabel? label = (if 'ſ' ∈ label ∨ '\u212a' ∈ label then none else some f) ∧
      ('ſ' ∈ label → f = .spaceComplexity) ∧ ('\u212a' ∈ label → f = .bottleneck) ∧
      ∀ s : Reading, s.block = none → s.feed line =
        if 'ſ' ∈ label ∨ '\u212a' ∈ label then { s with current := none }
        else s.takeField f (Reading.cleanValue value) := by
  obtain ⟨l, -, rfl, -⟩ := exists_labelledLine h
  have found : Field.ofLabel? l.label =
      if 'ſ' ∈ l.label ∨ '\u212a' ∈ l.label then none else some l.field := by
    split
    · next other =>
      rcases other with long | kelvin
      · exact Field.ofLabel?_eq_none long (.inl rfl)
      · exact Field.ofLabel?_eq_none kelvin (.inr rfl)
    · next plain =>
      obtain ⟨notLong, notKelvin⟩ := not_or.1 plain
      exact Field.ofLabel?_of_spellsWords l.spells notLong notKelvin
  refine ⟨l.field, l.spells, found, ?_, ?_, ?_⟩
  · intro long
    have letter : 's' ∈ l.field.words.flatten := foldCase_mem_flatten l.spells long (by decide)
    revert letter
    cases l.field <;> decide
  · intro kelvin
    have letter : 'k' ∈ l.field.words.flatten := foldCase_mem_flatten l.spells kelvin (by decide)
    revert letter
    cases l.field <;> decide
  · intro s outside
    have prose : s.feed line = s.feedProse line := by rw [Reading.feed, outside]
    rw [prose, s.feedProse_of_read? h, found]
    split <;> rfl

/-- An ideographic space stands between the words, and the field is found. -/
theorem FieldLine.ofLabel?_of_read?_wideSpace :
    read? "SPACE\u3000complexity: O(n)".toList =
        some ("SPACE\u3000complexity".toList, "O(n)".toList) ∧
      ∃ f : Field, Field.ofLabel? "SPACE\u3000complexity".toList = some f := by
  have h : read? "SPACE\u3000complexity: O(n)".toList =
      some ("SPACE\u3000complexity".toList, "O(n)".toList) := by decide
  obtain ⟨f, -, found, -⟩ := ofLabel?_of_read? h
  rw [if_neg (by decide)] at found
  exact ⟨h, f, found⟩

/-- With the long `ſ` the line still holds a field, and the report is empty. -/
theorem FieldLine.ofLabel?_eq_none_longS :
    read? "ſpace complexity: O(n)".toList = some ("ſpace complexity".toList, "O(n)".toList) ∧
      Field.ofLabel? "ſpace complexity".toList = none ∧
      Report.read "ſpace complexity: O(n)".toList = {} := by
  decide

end SnippetCost
