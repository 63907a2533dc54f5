import SnippetCost.Proofs.Text.Replace

/-!
# Searching a text

A search passes what it finds no beginning of a match in. What it passes in front of its first match
can be told from the rest of the text.

The notion is `Text.Passes`, with `passes_of_notMem` and `Passes.append` to show it. The main results
are `Passes.behindFirst?_eq_none` and `Passes.append_inj`.
-/

namespace SnippetCost.Text

variable {needle u v : Text} {c : Char}

/-- A part of a text is included in it. -/
lemma includes_of_infix (h : needle <:+: v) : includes needle v := by
  obtain ⟨front, behind, e⟩ := h
  exact includes_iff.2 ⟨front, behind, e.symm⟩

/-- What follows a match at the front is found. -/
lemma behindFirst?_append (ne : needle ≠ []) (t : Text) :
    behindFirst? needle (needle ++ t) = some t := by
  obtain ⟨n, rest, rfl⟩ := List.exists_cons_of_ne_nil ne
  rw [List.cons_append, behindFirst?, ← List.cons_append, dropLead?_append]

/-- A search for `needle` finds the same with the text in front as without it. -/
def Passes (needle u : Text) : Prop :=
  ∀ t, behindFirst? needle (u ++ t) = behindFirst? needle t

/-- A search passes the empty text. -/
lemma Passes.nil : Passes needle [] :=
  fun _ => rfl

/-- A search passes two texts if it passes each. -/
lemma Passes.append (hu : Passes needle u) (hv : Passes needle v) : Passes needle (u ++ v) := by
  intro t
  rw [List.append_assoc, hu, hv]

/-- A search passes a text if it passes what is behind its first character, and no match begins there.
-/
lemma Passes.cons (apart : ∀ t, dropLead? needle (c :: u ++ t) = none) (hu : Passes needle u) :
    Passes needle (c :: u) := by
  intro t
  have head := apart t
  rw [List.cons_append] at head ⊢
  rw [behindFirst?, head]
  exact hu t

/-- A search passes what holds no character that `needle` begins with. -/
lemma passes_of_notMem {n : Char} (h : n ∉ u) : Passes (n :: needle) u := by
  induction u with
  | nil => exact .nil
  | cons c u ih =>
    obtain ⟨ne, h⟩ := List.ne_and_not_mem_of_not_mem_cons h
    exact .cons (fun t => dropLead?_of_ne ne (u ++ t)) (ih h)

/-- A search finds nothing in what it passes. -/
lemma Passes.behindFirst?_eq_none (ne : needle ≠ []) (hu : Passes needle u) :
    behindFirst? needle u = none := by
  have all := hu []
  rw [List.append_nil] at all
  rw [all, behindFirst?, if_neg ne]

/-- Texts that a search passes can be told from the first match behind them. -/
lemma Passes.append_inj {s t : Text} (ne : needle ≠ []) (hu : Passes needle u)
    (hv : Passes needle v) (e : u ++ (needle ++ s) = v ++ (needle ++ t)) : u = v ∧ s = t := by
  have behind := congrArg (behindFirst? needle) e
  rw [hu, hv, behindFirst?_append ne, behindFirst?_append ne, Option.some_inj] at behind
  rw [behind] at e
  exact ⟨List.append_cancel_right e, behind⟩

/-- A run of a class of characters ends where a character of another class follows. -/
lemma run_append {p : Char → Bool} {run rest : Text} (all : ∀ c ∈ run, p c)
    (stops : ∀ c ∈ rest.head?, p c = false) :
    (run ++ rest).takeWhile p = run ∧ (run ++ rest).dropWhile p = rest := by
  rw [List.takeWhile_append_of_pos all, List.dropWhile_append_of_pos all]
  cases rest with
  | nil => exact ⟨List.append_nil run, rfl⟩
  | cons d rest =>
    have neg : ¬ p d := by simp [stops d rfl]
    rw [List.takeWhile_cons_of_neg neg, List.dropWhile_cons_of_neg neg, List.append_nil]
    exact ⟨rfl, rfl⟩

/-- No longer run of a class of characters begins where one begins that another class follows. -/
lemma length_le_of_run {p : Char → Bool} {run rest : Text} (all : ∀ c ∈ run, p c)
    (stops : ∀ c ∈ rest.head?, p c = false) (hu : ∀ c ∈ u, p c) (cut : run ++ rest = u ++ v) :
    u.length ≤ run.length := by
  have taken : (u ++ v).takeWhile p = run := by
    rw [← cut]
    exact (run_append all stops).1
  rw [← taken, List.takeWhile_append_of_pos hu, List.length_append]
  exact Nat.le_add_right _ _

/-- A run ends at the first character that it is cut at. -/
lemma run_ne_append (h : c ∉ u) (t : Text) :
    (u ++ c :: t).takeWhile (· ≠ c) = u ∧ (u ++ c :: t).dropWhile (· ≠ c) = c :: t := by
  refine run_append ?_ ?_
  · intro d mem
    have ne : d ≠ c := by
      rintro rfl
      exact h mem
    simpa using ne
  · rintro _ ⟨⟩
    simp

/-- The run itself is what stands in front of the character. -/
lemma takeWhile_ne_append (h : c ∉ u) (t : Text) : (u ++ c :: t).takeWhile (· ≠ c) = u :=
  (run_ne_append h t).1

/-- Behind the run stands the character and the rest. -/
lemma dropWhile_ne_append (h : c ∉ u) (t : Text) : (u ++ c :: t).dropWhile (· ≠ c) = c :: t :=
  (run_ne_append h t).2

end SnippetCost.Text
