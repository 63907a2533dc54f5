import SnippetCost.Proofs.Text.Lines
import SnippetCost.Proofs.Text.Trim

/-!
# Blanks behind a text

A reader that cuts pieces off the front of a text does not see the blanks at its end: they stay behind
what is left, and are gone once that is trimmed.

The relation is `Padded`. Each way to cut a text keeps it: `Padded.dropWhile`, `Padded.trimStart` and
`Padded.dropLead?`. The main result is `Padded.trim_eq`.
-/

namespace SnippetCost

open Text

section Rel

variable {α β : Type} {R : α → α → Prop} {S : β → β → Prop}

/-- Related options stay related when functions that keep the relation are applied. -/
lemma rel_map {a b : Option α} {f g : α → β} (same : ∀ x y, R x y → S (f x) (g y))
    (h : Option.Rel R a b) : Option.Rel S (a.map f) (b.map g) := by
  cases h with
  | none => exact .none
  | some h => exact .some (same _ _ h)

/-- Related options stay related when steps that keep the relation follow. -/
lemma rel_bind {a b : Option α} {f g : α → Option β}
    (same : ∀ x y, R x y → Option.Rel S (f x) (g y)) (h : Option.Rel R a b) :
    Option.Rel S (a.bind f) (b.bind g) := by
  cases h with
  | none => exact .none
  | some h => exact same _ _ h

/-- Searches that find related things in each element find related things in a list. -/
lemma rel_findSome? {l : List α} {f g : α → Option β} (h : ∀ x ∈ l, Option.Rel S (f x) (g x)) :
    Option.Rel S (l.findSome? f) (l.findSome? g) := by
  induction l with
  | nil => exact .none
  | cons x l ih =>
    obtain ⟨hx, hl⟩ := List.forall_mem_cons.1 h
    rw [List.findSome?_cons, List.findSome?_cons]
    generalize f x = a at hx
    generalize g x = b at hx
    cases hx with
    | none => exact ih hl
    | some h => exact .some h

end Rel

/-- The second text is the first with blanks behind it. -/
inductive Padded : Text → Text → Prop where
  | intro {t v} :
    IsBlanks v →
    Padded t (t ++ v)

namespace Padded

variable {s t w lead : Text} {c : Char}

/-- Blanks are the empty text with blanks behind it. -/
lemma of_isBlanks (blanks : IsBlanks t) : Padded [] t :=
  .intro blanks

/-- Behind the empty text stand blanks only. -/
lemma nil_inv (h : Padded [] t) : IsBlanks t := by
  cases h with
  | intro blanks => exact blanks

/-- A character in front leaves the blanks at the end. -/
lemma cons (c : Char) (h : Padded s t) : Padded (c :: s) (c :: t) := by
  cases h with
  | intro blanks => exact .intro blanks

/-- With blanks behind it a text begins as without them. -/
lemma cons_inv (h : Padded (c :: s) w) : ∃ t, w = c :: t ∧ Padded s t := by
  cases h with
  | @intro v blanks => exact ⟨s ++ v, rfl, .intro blanks⟩

/-- Trimming takes the blanks away. -/
lemma trim_eq (h : Padded s t) : trim t = trim s := by
  cases h with
  | intro blanks => exact trim_append_right blanks

/-- Blanks behind a text stay behind what a run of characters leaves of it, of whatever class. -/
lemma dropWhile (p : Char → Bool) (h : Padded s t) : Padded (s.dropWhile p) (t.dropWhile p) := by
  induction s generalizing t with
  | nil =>
    apply of_isBlanks
    intro c mem
    exact h.nil_inv c ((List.dropWhile_suffix p).subset mem)
  | cons c s ih =>
    obtain ⟨t, rfl, rest⟩ := h.cons_inv
    by_cases hc : p c
    · rw [List.dropWhile_cons_of_pos hc, List.dropWhile_cons_of_pos hc]
      exact ih rest
    · rw [List.dropWhile_cons_of_neg hc, List.dropWhile_cons_of_neg hc]
      exact rest.cons c

/-- A run that ends within a text is the same with blanks behind the text. -/
lemma takeWhile_eq {p : Char → Bool} (h : Padded s t) (stops : s.dropWhile p ≠ []) :
    t.takeWhile p = s.takeWhile p := by
  cases h with
  | intro _ => exact takeWhile_append_of_stops stops _

/-- Trimming the start leaves the blanks at the end. -/
lemma trimStart (h : Padded s t) : Padded (Text.trimStart s) (Text.trimStart t) :=
  h.dropWhile isBlank

/-- Both texts begin with a word, or neither does. -/
lemma dropLead? (solid : lead.IsSolid) (h : Padded s t) :
    Option.Rel Padded (Text.dropLead? lead s) (Text.dropLead? lead t) := by
  cases h with
  | intro blanks =>
    rw [dropLead?_append_of_isBlanks solid blanks]
    cases Text.dropLead? lead s with
    | none => exact .none
    | some rest => exact .some (.intro blanks)

/-- The one of two words that begins a text also begins it with blanks behind it. -/
lemma or_dropLead? {other : Text} (solid : lead.IsSolid) (solid' : other.IsSolid) (h : Padded s t) :
    Option.Rel Padded ((Text.dropLead? lead s).or (Text.dropLead? other s))
      ((Text.dropLead? lead t).or (Text.dropLead? other t)) := by
  have first := h.dropLead? solid
  generalize Text.dropLead? lead s = a at first
  generalize Text.dropLead? lead t = b at first
  cases first with
  | some rest => exact .some rest
  | none => exact h.dropLead? solid'

/-- What is left of a text, if a reader took something, and the text itself otherwise. -/
lemma getD {a b : Option Text} (cut : Option.Rel Padded a b) (h : Padded s t) :
    Padded (a.getD s) (b.getD t) := by
  cases cut with
  | none => exact h
  | some rest => exact rest

end Padded

/-- A carriage return that ends a line is a blank behind it. -/
lemma padded_dropReturn (line : Text) : Padded (dropReturn line) line := by
  obtain ⟨v, hv, e⟩ := exists_dropReturn_append line
  have blanks : IsBlanks v := by
    intro c mem
    rw [hv c mem]
    decide
  have h : Padded (dropReturn line) (dropReturn line ++ v) := .intro blanks
  rwa [← e] at h

end SnippetCost
