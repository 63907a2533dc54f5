import Mathlib.Tactic.Lemma
import SnippetCost.Cache.Basic

/-!
# Honest caches

A cache is honest if all it keeps are the estimates of the texts themselves. Nothing that is done to
a cache makes it lie, as long as what is stored are estimates.

The main results are `Honest.get` and `Honest.put`, one for each use that changes the entries; what an
honest cache finds is `Honest.find?`.
-/

namespace SnippetCost.Cache

variable [PatternBuilder]

/-- All that is kept for a text is the estimate of that text. -/
def Honest (c : Cache) : Prop :=
  ∀ entry ∈ c.entries, entry.2 = Estimate.ofText entry.1

variable {c : Cache} {key : Text}

/-- A new cache is honest. -/
lemma Honest.empty (room : Nat) : (Cache.empty room).Honest := by
  intro entry mem
  cases mem

/-- A cleared cache is honest. -/
lemma Honest.clear (c : Cache) : c.clear.Honest := by
  intro entry mem
  cases mem

/-- What an honest cache has for a text is the estimate of the text. -/
lemma Honest.find? (h : c.Honest) {e : Estimate} (found : c.find? key = some e) :
    e = Estimate.ofText key := by
  obtain ⟨before, after, entries, _⟩ := List.lookup_eq_some_iff.1 found
  have mem : (key, e) ∈ c.entries := by
    rw [entries]
    exact List.mem_append_right before List.mem_cons_self
  exact h (key, e) mem

/-- The other entries of an honest cache are honest. -/
lemma Honest.others (h : c.Honest) (key : Text) :
    ∀ entry ∈ c.others key, entry.2 = Estimate.ofText entry.1 := by
  intro entry mem
  exact h entry (List.mem_filter.1 mem).1

/-- A cache that is used for a look-up stays honest, and what it gives is the estimate. -/
lemma Honest.get (h : c.Honest) (key : Text) :
    (c.get key).2.Honest ∧ ∀ e, (c.get key).1 = some e → e = Estimate.ofText key := by
  rw [Cache.get]
  cases found : c.find? key with
  | none =>
    refine ⟨h, ?_⟩
    intro e he
    cases he
  | some e =>
    have he := h.find? found
    refine ⟨?_, ?_⟩
    · exact List.forall_mem_cons.2 ⟨he, h.others key⟩
    · intro e' he'
      cases he'
      exact he

/-- Storing an estimate keeps a cache honest, whatever is dropped for it. -/
lemma Honest.put (h : c.Honest) (key : Text) : (c.put key (Estimate.ofText key)).Honest := by
  intro entry mem
  have mem := List.mem_of_mem_take mem
  rcases List.mem_cons.1 mem with rfl | mem
  · rfl
  · exact h.others key entry mem

end SnippetCost.Cache
