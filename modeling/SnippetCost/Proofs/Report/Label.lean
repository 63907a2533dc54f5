import SnippetCost.Proofs.Report.FieldCut
import SnippetCost.Proofs.Text.Search
import SnippetCost.Report.Labelled

/-!
# Labels up to case

A label is cut off a text exactly where the text begins with the words of one of the labels, up to case
and with blanks between them. Which label it is can be told from its first letter, and where it ends
from its words.

A word is cut off by `cutWord?_eq_some`, a label by `spellsWords_of_cutLabel?` and
`cutLabel?_of_spellsWords`, and that no two labels begin the same text is `eq_of_spellsWords`. The
main result is `cutAnyLabel?_eq_some`.
-/

namespace SnippetCost

open Text (IsBlanks trimStart)

variable {t rest label : Text} {words : List Text} {f g : Field} {l c : Char}

namespace FieldLine

/-- A character stands for a letter exactly if it folds to the letter. -/
lemma isLetterOf_iff (plain : l ≠ 'ſ' ∧ l ≠ '\u212a') : isLetterOf l c ↔ foldCase c = l := by
  have long : asciiLower 'ſ' = 'ſ' := by decide
  have kelvin : asciiLower '\u212a' = '\u212a' := by decide
  by_cases hs : c = 'ſ'
  · subst hs
    simp [isLetterOf, foldCase, long, Ne.symm plain.1, eq_comm]
  · by_cases hk : c = '\u212a'
    · subst hk
      simp [isLetterOf, foldCase, kelvin, Ne.symm plain.2, eq_comm]
    · simp [isLetterOf, foldCase, hs, hk]

/-- A word of a label whose letters are letters that characters fold to. -/
structure IsFoldedWord (word : Text) : Prop extends IsLabelWord word where
  plain : ∀ l ∈ word, l ≠ 'ſ' ∧ l ≠ '\u212a'

/-- The words of labels are folded words. -/
lemma isFoldedWord {word : Text} (hs : words ∈ labels) (h : word ∈ words) : IsFoldedWord word where
  toIsLabelWord := isLabelWord hs h
  plain := by
    have all : labels.all fun words => words.all fun word => word.all fun l =>
        l != 'ſ' && l != '\u212a' := by
      decide
    intro l hl
    have checked := List.all_eq_true.1 (List.all_eq_true.1 all words hs) word h
    simpa using List.all_eq_true.1 checked l hl

/-- A word is cut off a text that begins with it up to case. -/
lemma cutWord?_eq_some {word seen : Text} (plain : ∀ l ∈ word, l ≠ 'ſ' ∧ l ≠ '\u212a') :
    cutWord? word t = some (seen, rest) ↔ seen.map foldCase = word ∧ t = seen ++ rest := by
  induction word generalizing t seen with
  | nil =>
    simp only [cutWord?, Option.some_inj, Prod.mk.injEq, List.map_eq_nil_iff]
    constructor
    · rintro ⟨rfl, rfl⟩
      exact ⟨rfl, rfl⟩
    · rintro ⟨rfl, rfl⟩
      exact ⟨rfl, rfl⟩
  | cons l word ih =>
    obtain ⟨hl, plain⟩ := List.forall_mem_cons.1 plain
    cases t with
    | nil =>
      simp only [cutWord?, reduceCtorEq, false_iff, not_and]
      intro folds e
      rw [(List.append_eq_nil_iff.1 e.symm).1] at folds
      cases folds
    | cons c t =>
      rw [cutWord?, Option.ite_none_right_eq_some, isLetterOf_iff hl]
      constructor
      · rintro ⟨letter, cut⟩
        obtain ⟨⟨more, after⟩, found, e⟩ := Option.map_eq_some_iff.1 cut
        cases e
        obtain ⟨folds, rfl⟩ := (ih plain).1 found
        exact ⟨by rw [List.map_cons, letter, folds], rfl⟩
      · rintro ⟨folds, e⟩
        cases seen with
        | nil => cases folds
        | cons d seen =>
          obtain ⟨rfl, behind⟩ := List.cons.inj e
          obtain ⟨letter, folds⟩ := List.cons.inj folds
          exact ⟨letter, Option.map_eq_some_iff.2 ⟨_, (ih plain).2 ⟨folds, behind⟩, rfl⟩⟩

/-- What spells words begins with a letter of the first. -/
lemma exists_cons_of_spellsWords (folded : ∀ word ∈ words, IsFoldedWord word)
    (spells : SpellsWords words label) :
    ∃ c more, label = c :: more ∧ words.flatten.head? = some (foldCase c) ∧ isUndecorated c := by
  have first : ∀ {word seen : Text}, IsFoldedWord word → seen.map foldCase = word →
      ∃ c more, seen = c :: more ∧ word.head? = some (foldCase c) ∧ isUndecorated c := by
    rintro word seen hw rfl
    cases seen with
    | nil => exact absurd rfl hw.ne_nil
    | cons c more =>
      have mem : foldCase c ∈ (c :: more).map foldCase := List.mem_cons_self
      have letter := (isLetterOf_iff (hw.plain _ mem)).2 rfl
      exact ⟨c, more, rfl, rfl, hw.undecorated _ mem c (mem_variants letter)⟩
  cases spells with
  | last folds =>
    obtain ⟨c, more, rfl, head, plain⟩ := first (folded _ List.mem_cons_self) folds
    refine ⟨c, more, rfl, ?_, plain⟩
    rw [List.flatten_cons, List.head?_append, head, Option.some_or]
  | cons folds _ _ _ =>
    obtain ⟨c, more, rfl, head, plain⟩ := first (folded _ List.mem_cons_self) folds
    refine ⟨c, _, rfl, ?_, plain⟩
    rw [List.flatten_cons, List.head?_append, head, Option.some_or]

/-- What is cut off a text as a label spells the words of the label. -/
lemma spellsWords_of_cutLabel? {p : Text × Text} (folded : ∀ word ∈ words, IsFoldedWord word)
    (ne : words ≠ []) (h : cutLabel? words t = some p) : SpellsWords words p.1 := by
  induction words generalizing t p with
  | nil => exact absurd rfl ne
  | cons word words ih =>
    obtain ⟨hw, folded⟩ := List.forall_mem_cons.1 folded
    cases words with
    | nil => exact .last ((cutWord?_eq_some hw.plain).1 h).1
    | cons next words =>
      rw [cutLabel?_cons_cons, Option.bind_eq_some_iff] at h
      obtain ⟨⟨seen, after⟩, first, h⟩ := h
      rw [cutBehind?, Option.ite_none_left_eq_some] at h
      obtain ⟨gap, more⟩ := h
      obtain ⟨q, cut, rfl⟩ := Option.map_eq_some_iff.1 more
      rw [List.append_assoc]
      exact .cons ((cutWord?_eq_some hw.plain).1 first).1 gap (Text.isBlanks_takeWhile _)
        (ih folded (List.cons_ne_nil next words) cut)

/-- What spells the words of a label is cut off a text that begins with it. -/
lemma cutLabel?_of_spellsWords (folded : ∀ word ∈ words, IsFoldedWord word)
    (spells : SpellsWords words label) (rest : Text) :
    cutLabel? words (label ++ rest) = some (label, rest) := by
  induction spells with
  | @last word _ folds =>
    exact (cutWord?_eq_some (folded word List.mem_cons_self).plain).2 ⟨folds, rfl⟩
  | @cons word next words seen gap more folds ne blanks spells ih =>
    obtain ⟨hw, folded⟩ := List.forall_mem_cons.1 folded
    have first : cutWord? word (seen ++ (gap ++ (more ++ rest))) =
        some (seen, gap ++ (more ++ rest)) := (cutWord?_eq_some hw.plain).2 ⟨folds, rfl⟩
    have solid : ∀ c ∈ (more ++ rest).head?, isBlank c = false := by
      obtain ⟨c, tail, rfl, -, plain⟩ := exists_cons_of_spellsWords folded spells
      rintro _ ⟨⟩
      exact isBlank_of_isUndecorated plain
    obtain ⟨run, behind⟩ := Text.run_append blanks solid
    rw [List.append_assoc, List.append_assoc, cutLabel?_cons_cons, first, Option.bind_some, cutBehind?]
    dsimp only
    rw [run, if_neg ne, trimStart, behind, ih folded, Option.map_some, List.append_assoc]

/-- The labels are those of the fields, in their order. -/
lemma labels_eq : labels = Field.all.map Field.words := by
  decide

/-- The words of every field are a label. -/
lemma words_mem_labels (f : Field) : f.words ∈ labels := by
  cases f <;> decide

/-- Every label has a word. -/
lemma words_ne_nil (f : Field) : f.words ≠ [] := by
  cases f <;> decide

/-- The words of a field's label are folded. -/
lemma isFoldedWord_of_mem (f : Field) : ∀ word ∈ f.words, IsFoldedWord word :=
  fun _ => isFoldedWord (words_mem_labels f)

/-- The labels of different fields begin with different letters. -/
lemma eq_of_spellsWords {more : Text} (hf : SpellsWords f.words label) (hg : SpellsWords g.words more)
    {rest : Text} (same : label ++ t = more ++ rest) : f = g := by
  have letters : ∀ f g : Field, f.words.flatten.head? = g.words.flatten.head? → f = g := by
    intro f g
    cases f <;> cases g <;> decide
  obtain ⟨c, _, rfl, first, -⟩ := exists_cons_of_spellsWords (isFoldedWord_of_mem f) hf
  obtain ⟨d, _, rfl, second, -⟩ := exists_cons_of_spellsWords (isFoldedWord_of_mem g) hg
  obtain ⟨rfl, -⟩ := List.cons.inj same
  exact letters f g (first.trans second.symm)

/-- One of the labels is cut off a text exactly if the text begins with it up to case. -/
lemma cutAnyLabel?_eq_some : cutAnyLabel? t = some (label, rest) ↔
    ∃ f : Field, SpellsWords f.words label ∧ t = label ++ rest := by
  have sound : ∀ {p : Text × Text}, cutAnyLabel? t = some p → ∃ f : Field,
      SpellsWords f.words p.1 ∧ cutLabel? f.words t = some p := by
    intro p cut
    obtain ⟨words, hs, cut⟩ := List.exists_of_findSome?_eq_some cut
    rw [labels_eq, List.mem_map] at hs
    obtain ⟨f, -, rfl⟩ := hs
    exact ⟨f, spellsWords_of_cutLabel? (isFoldedWord_of_mem f) (words_ne_nil f) cut, cut⟩
  constructor
  · intro cut
    obtain ⟨f, spells, _⟩ := sound cut
    exact ⟨f, spells, cutAnyLabel?_eq_append cut⟩
  · rintro ⟨f, spells, rfl⟩
    have whole := cutLabel?_of_spellsWords (isFoldedWord_of_mem f) spells rest
    -- some label is found, and it can only be this one
    cases found : cutAnyLabel? (label ++ rest) with
    | none =>
      have missed := List.findSome?_eq_none_iff.1 found f.words (words_mem_labels f)
      rw [whole] at missed
      cases missed
    | some p =>
      obtain ⟨g, more, cut⟩ := sound found
      obtain rfl := eq_of_spellsWords spells more (cutAnyLabel?_eq_append found)
      exact cut.symm.trans whole

end FieldLine

end SnippetCost
