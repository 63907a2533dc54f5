import SnippetCost.Proofs.Text.Lower
import SnippetCost.Proofs.Text.Pieces
import SnippetCost.Proofs.Text.Trim

/-!
# Words between blanks

Cutting a text at its blanks and leaving the empty pieces out gives its words. How many blanks stand
between two words does not matter, and every character that is no blank stands in one of the words.

The main results are `words_append`, which takes the first word off a text, and `mem_words`.
-/

namespace SnippetCost.Text

variable {t word gap : Text} {pieces : List Text} {c : Char}

/-- The pieces between the blanks of a text that are not empty. -/
def words (t : Text) : List Text :=
  (cutAt isBlank t).filter (· ≠ [])

/-- A blank in front adds no word. -/
lemma words_cons_of_isBlank (blank : isBlank c) (t : Text) : words (c :: t) = words t := by
  rw [words, cutAt, if_pos blank, List.filter_cons_of_neg (by simp), words]

/-- Blanks in front add no word. -/
lemma words_append_of_isBlanks (blanks : IsBlanks gap) (t : Text) : words (gap ++ t) = words t := by
  induction gap with
  | nil => rfl
  | cons c gap ih =>
    obtain ⟨blank, blanks⟩ := isBlanks_cons.1 blanks
    rw [List.cons_append, words_cons_of_isBlank blank, ih blanks]

/-- A text without blanks is its only word. -/
lemma words_of_solid (solid : ∀ c ∈ word, isBlank c = false) (ne : word ≠ []) :
    words word = [word] := by
  rw [words, cutAt_of_forall solid, List.filter_cons_of_pos (by simpa using ne), List.filter_nil]

/-- The first word of a text ends at the blanks behind it. -/
lemma words_append (solid : ∀ c ∈ word, isBlank c = false) (ne : word ≠ []) (blanks : IsBlanks gap)
    (gap_ne : gap ≠ []) (t : Text) : words (word ++ (gap ++ t)) = word :: words t := by
  obtain ⟨c, gap, rfl⟩ := List.exists_cons_of_ne_nil gap_ne
  obtain ⟨blank, blanks⟩ := isBlanks_cons.1 blanks
  rw [words, List.cons_append, cutAt_append solid blank,
    List.filter_cons_of_pos (by simpa using ne), ← words, words_append_of_isBlanks blanks]

/-- The characters of the words are those that are no blanks. -/
lemma mem_words : (∃ word ∈ words t, c ∈ word) ↔ c ∈ t ∧ isBlank c = false := by
  rw [← mem_cutAt]
  constructor
  · rintro ⟨word, mem, hc⟩
    exact ⟨word, (List.mem_filter.1 mem).1, hc⟩
  · rintro ⟨word, mem, hc⟩
    refine ⟨word, List.mem_filter.2 ⟨mem, ?_⟩, hc⟩
    simpa using List.ne_nil_of_mem hc

/-- What is in one of the pieces is in what they are joined to. -/
lemma mem_joinSpaced {piece : Text} (mem : piece ∈ pieces) (hc : c ∈ piece) :
    c ∈ joinSpaced pieces := by
  induction pieces with
  | nil => cases mem
  | cons first pieces ih =>
    cases pieces with
    | nil =>
      obtain rfl := List.mem_singleton.1 mem
      simpa [joinSpaced, List.intercalate] using hc
    | cons next pieces =>
      have shape : joinSpaced (first :: next :: pieces) =
          first ++ ' ' :: joinSpaced (next :: pieces) := by
        simp [joinSpaced, List.intercalate]
      rw [shape]
      rcases List.mem_cons.1 mem with rfl | mem
      · exact List.mem_append_left _ hc
      · exact List.mem_append_right _ (.tail _ (ih mem))

end SnippetCost.Text
