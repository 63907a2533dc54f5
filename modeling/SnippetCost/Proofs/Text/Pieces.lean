import Mathlib.Tactic.Lemma
import SnippetCost.Text.Lines

/-!
# Pieces of a text

Cutting a text at the characters of a predicate. A text without such a character is one piece,
`cutAt_of_forall`, and a text with one is cut at the first, `cutAt_append`. Cutting loses no other
character, `mem_cutAt`.
-/

namespace SnippetCost.Text

variable {p : Char → Bool} {c : Char} {piece t : Text}

/-- Putting a character before the first piece leaves a first piece. -/
lemma consFirst_ne_nil (c : Char) (pieces : List Text) : consFirst c pieces ≠ [] := by
  cases pieces <;> simp [consFirst]

/-- Even the empty text has a piece. -/
lemma cutAt_ne_nil (p : Char → Bool) (t : Text) : cutAt p t ≠ [] := by
  cases t with
  | nil => simp [cutAt]
  | cons c t =>
    rw [cutAt]
    split
    · simp
    · exact consFirst_ne_nil c (cutAt p t)

/-- A text that is cut nowhere is its only piece. -/
lemma cutAt_of_forall (h : ∀ c ∈ piece, p c = false) : cutAt p piece = [piece] := by
  induction piece with
  | nil => rfl
  | cons c piece ih =>
    obtain ⟨hc, h⟩ := List.forall_mem_cons.1 h
    rw [cutAt, hc, if_neg Bool.false_ne_true, ih h, consFirst]

/-- The first piece reaches to the first character that the text is cut at. -/
lemma cutAt_append (h : ∀ d ∈ piece, p d = false) (hc : p c) (t : Text) :
    cutAt p (piece ++ c :: t) = piece :: cutAt p t := by
  induction piece with
  | nil => rw [List.nil_append, cutAt, if_pos hc]
  | cons d piece ih =>
    obtain ⟨hd, h⟩ := List.forall_mem_cons.1 h
    rw [List.cons_append, cutAt, hd, if_neg Bool.false_ne_true, ih h, consFirst]

/-- The characters of the pieces are those that the text is not cut at. -/
lemma mem_cutAt : (∃ piece ∈ cutAt p t, c ∈ piece) ↔ c ∈ t ∧ p c = false := by
  induction t with
  | nil => simp [cutAt]
  | cons d t ih =>
    by_cases hd : p d
    · have first : (∃ piece ∈ [] :: cutAt p t, c ∈ piece) ↔ ∃ piece ∈ cutAt p t, c ∈ piece := by
        simp
      rw [cutAt, if_pos hd, first, ih]
      constructor
      · rintro ⟨mem, hc⟩
        exact ⟨.tail _ mem, hc⟩
      · rintro ⟨mem, hc⟩
        cases mem with
        | head =>
          rw [hd] at hc
          cases hc
        | tail _ mem => exact ⟨mem, hc⟩
    · have hd : p d = false := by simpa using hd
      have first : (∃ piece ∈ consFirst d (cutAt p t), c ∈ piece) ↔
          c = d ∨ ∃ piece ∈ cutAt p t, c ∈ piece := by
        cases cutAt p t with
        | nil => simp [consFirst]
        | cons piece pieces => simp [consFirst, or_assoc]
      rw [cutAt, hd, if_neg Bool.false_ne_true, first, ih, List.mem_cons]
      constructor
      · rintro (rfl | ⟨mem, hc⟩)
        · exact ⟨.inl rfl, hd⟩
        · exact ⟨.inr mem, hc⟩
      · rintro ⟨rfl | mem, hc⟩
        · exact .inl rfl
        · exact .inr ⟨mem, hc⟩

end SnippetCost.Text
