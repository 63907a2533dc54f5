import Mathlib.Data.List.Forall2
import SnippetCost.Proofs.Cache.Sound

/-!
# Caches of different room

A cache with more room, used alike, loses no text that a smaller one keeps. The two differ in what
they keep and in its order, since a text that only the larger one finds is touched there and not in
the smaller one. But the entries of the smaller cache stand in the larger one in the same order, and
the two are the same until the smaller one is full.

The invariant is `Cache.Within`, kept by `Within.put` and `Within.get`; `CacheHistory.Within` adds the
counts, and `Within.useAll` takes it over all uses. The main result is `get_eq_some_of_more_room`.
-/

namespace SnippetCost

/-- Of two lists one in the other, the beginnings are so too, if the outer one loses no more. -/
lemma take_sublist_take {α : Type} {l k : List α} (h : l.Sublist k) {m n : Nat}
    (less : k.length + m ≤ l.length + n) : (l.take m).Sublist (k.take n) := by
  induction h generalizing m n with
  | slnil => simp
  | @cons l k a h ih =>
    have le := h.length_le
    rw [List.length_cons] at less
    cases n with
    | zero => omega
    | succ n => exact .cons a (ih (by omega))
  | @cons_cons l k a h ih =>
    rw [List.length_cons, List.length_cons] at less
    cases m with
    | zero => exact List.nil_sublist _
    | succ m =>
      have le := h.length_le
      cases n with
      | zero => omega
      | succ n => exact .cons_cons a (ih (by omega))

namespace Cache

/-- What the smaller of two caches keeps, the larger one keeps too, in the same order, and before the
smaller one is full it keeps nothing else. -/
structure Within (c d : Cache) : Prop where
  inner : c.Sound
  outer : d.Sound
  capacity_le : c.capacity ≤ d.capacity
  sublist : c.entries.Sublist d.entries
  eq_of_size_lt : c.size < c.capacity → c.entries = d.entries

variable {c d : Cache} {key : Text} {e : Estimate}

/-- The larger cache finds what the smaller one finds. -/
lemma Within.find? (w : c.Within d) (found : c.find? key = some e) : d.find? key = some e :=
  w.outer.find?_eq_some_iff.2 (w.sublist.subset (mem_of_find?_eq_some found))

/-- An empty cache stands within an empty one with no less room. -/
lemma Within.start {m n : Nat} (le : m ≤ n) : (Cache.empty m).Within (Cache.empty n) where
  inner := .empty m
  outer := .empty n
  capacity_le := by
    simp only [Cache.empty]
    omega
  sublist := .slnil
  eq_of_size_lt _ := rfl

/-- Cleared caches stand within each other as they did. -/
lemma Within.clear (w : c.Within d) : c.clear.Within d.clear where
  inner := w.inner.clear
  outer := w.outer.clear
  capacity_le := w.capacity_le
  sublist := .slnil
  eq_of_size_lt _ := rfl

/-- A text that is stored in both comes to stand in front of both. If the smaller cache drops a text
for it, then so much has been stored that the larger one keeps at least as many. -/
lemma Within.put (w : c.Within d) (key : Text) (e : Estimate) :
    (c.put key e).Within (d.put key e) := by
  have innerLength := length_toFront w.inner.nodup key e
  have outerLength := length_toFront w.outer.nodup key e
  have capacity := w.capacity_le
  have innerSize : c.entries.length ≤ c.capacity := w.inner.size_le
  have outerSize : d.entries.length ≤ d.capacity := w.outer.size_le
  have before : (toFront key e c.entries).Sublist (toFront key e d.entries) :=
    (w.sublist.filter _).cons_cons _
  by_cases room : c.size < c.capacity
  · have same : (c.put key e).entries = (d.put key e).entries := by
      have lt : c.entries.length < c.capacity := room
      have fits : (toFront key e c.entries).length ≤ c.capacity := by
        split at innerLength <;> omega
      rw [put_entries, put_entries, ← w.eq_of_size_lt room, List.take_of_length_le fits,
        List.take_of_length_le (Nat.le_trans fits capacity)]
    exact ⟨w.inner.put key e, w.outer.put key e, capacity, same ▸ List.Sublist.refl _, fun _ => same⟩
  · have full : c.entries.length = c.capacity := Nat.le_antisymm innerSize (Nat.not_lt.1 room)
    have le : c.capacity ≤ (toFront key e c.entries).length := by
      split at innerLength <;> omega
    refine ⟨w.inner.put key e, w.outer.put key e, capacity, ?_, ?_⟩
    · apply take_sublist_take before
      -- a text that the larger cache lacks is new to both
      by_cases mem : key ∈ d.entries.map Prod.fst
      · rw [if_pos mem] at outerLength
        omega
      · have mem' : key ∉ c.entries.map Prod.fst := fun h => mem ((w.sublist.map _).subset h)
        rw [if_neg mem] at outerLength
        rw [if_neg mem'] at innerLength
        omega
    · intro lt
      rw [size, put_entries, List.length_take, Nat.min_eq_left le] at lt
      exact absurd lt (Nat.lt_irrefl _)

/-- A text that only the larger cache finds is touched there alone. It is none of those that the
smaller one keeps, and the smaller one is full, since it has dropped that text. -/
lemma Within.get (w : c.Within d) (key : Text) : (c.get key).2.Within (d.get key).2 := by
  have inner := w.inner.get key
  have outer := w.outer.get key
  cases found : c.find? key with
  | some e =>
    have stored := w.put key e
    rw [w.inner.get_of_find?_eq_some found] at inner ⊢
    rw [w.outer.get_of_find?_eq_some (w.find? found)] at outer ⊢
    exact ⟨inner, outer, w.capacity_le, stored.sublist, stored.eq_of_size_lt⟩
  | none =>
    rw [get_of_find?_eq_none found] at inner ⊢
    cases foundOuter : d.find? key with
    | none =>
      rw [get_of_find?_eq_none foundOuter] at outer ⊢
      exact ⟨inner, outer, w.capacity_le, w.sublist, w.eq_of_size_lt⟩
    | some e =>
      have fits := w.outer.length_toFront_le foundOuter
      rw [w.outer.get_of_find?_eq_some foundOuter] at outer ⊢
      refine ⟨inner, outer, w.capacity_le, ?_, ?_⟩
      · have kept : c.entries.filter (·.1 ≠ key) = c.entries := by
          refine List.filter_eq_self.2 ?_
          intro entry mem
          have absent := find?_eq_none_iff.1 found
          simpa using fun same => absent (List.mem_map.2 ⟨entry, mem, same⟩)
        have sub := w.sublist.filter (·.1 ≠ key)
        rw [kept] at sub
        simp only [put_entries, List.take_of_length_le fits]
        exact .cons _ sub
      · intro lt
        have same : c.find? key = d.find? key := congrArg (List.lookup key) (w.eq_of_size_lt lt)
        rw [found, foundOuter] at same
        cases same

end Cache

namespace CacheHistory

/-- Two histories of the same uses, with more room in the second. -/
structure Within (h g : CacheHistory) : Prop where
  cache : h.cache.Within g.cache
  found : List.Forall₂ (fun a b => ∀ key e, a = .found key e → b = .found key e) h.events g.events
  hits_le : h.cache.hits ≤ g.cache.hits
  lookUps_eq : h.cache.hits + h.cache.misses = g.cache.hits + g.cache.misses

variable {h g : CacheHistory}

/-- Of an event that finds nothing there is nothing to be found again. -/
lemma found_of_isHit_eq_false {a b : CacheEvent} (none : a.isHit = false) (key : Text)
    (e : Estimate) (same : a = .found key e) : b = .found key e := by
  rw [same] at none
  cases none

/-- Two histories start alike. -/
lemma Within.start {m n : Nat} (le : m ≤ n) : (start m).Within (start n) where
  cache := .start le
  found := .nil
  hits_le := Nat.le_refl 0
  lookUps_eq := rfl

/-- A look-up finds no less with more room. -/
lemma Within.get (w : h.Within g) (key : Text) : (h.use (.get key)).Within (g.use (.get key)) := by
  have cache := w.cache.get key
  have hits := w.hits_le
  have lookUps := w.lookUps_eq
  cases inner : h.cache.find? key with
  | some e =>
    have outer := w.cache.find? inner
    rw [use_get_of_find?_eq_some w.cache.inner inner, use_get_of_find?_eq_some w.cache.outer outer]
    rw [w.cache.inner.get_of_find?_eq_some inner, w.cache.outer.get_of_find?_eq_some outer] at cache
    refine ⟨cache, .cons (fun key e same => same) w.found, ?_, ?_⟩
    · exact Nat.succ_le_succ hits
    · simp only [Cache.put]
      omega
  | none =>
    rw [use_get_of_find?_eq_none inner]
    rw [Cache.get_of_find?_eq_none inner] at cache
    cases outer : g.cache.find? key with
    | none =>
      rw [use_get_of_find?_eq_none outer]
      rw [Cache.get_of_find?_eq_none outer] at cache
      refine ⟨cache, .cons (found_of_isHit_eq_false rfl) w.found, hits, ?_⟩
      exact congrArg Nat.succ lookUps
    | some e =>
      rw [use_get_of_find?_eq_some w.cache.outer outer]
      rw [w.cache.outer.get_of_find?_eq_some outer] at cache
      refine ⟨cache, .cons (found_of_isHit_eq_false rfl) w.found, Nat.le_succ_of_le hits, ?_⟩
      simp only [Cache.put]
      omega

/-- The same use keeps the smaller cache within the larger one. -/
lemma Within.use (w : h.Within g) (u : CacheUse) : (h.use u).Within (g.use u) := by
  cases u with
  | get key => exact w.get key
  | put key e =>
    exact ⟨w.cache.put key e, .cons (found_of_isHit_eq_false rfl) w.found, w.hits_le,
      w.lookUps_eq⟩
  | clear =>
    exact ⟨w.cache.clear, .cons (found_of_isHit_eq_false rfl) w.found, Nat.le_refl 0, rfl⟩

/-- The same uses keep the smaller cache within the larger one. -/
lemma Within.useAll (w : h.Within g) (uses : List CacheUse) :
    (h.useAll uses).Within (g.useAll uses) := by
  induction uses generalizing h g with
  | nil => exact w
  | cons u uses ih => exact ih (w.use u)

/-- Of two new caches that are used alike, the one with more room finds all that the other finds, and
the same for it: behind the uses, and at every look-up on the way. So it has no fewer hits, of as many
look-ups. -/
theorem get_eq_some_of_more_room {m n : Nat} (le : m ≤ n) (uses : List CacheUse) :
    let h := (start m).useAll uses
    let g := (start n).useAll uses
    (∀ key e, (h.cache.get key).1 = some e → (g.cache.get key).1 = some e) ∧
    List.Forall₂ (fun a b => ∀ key e, a = .found key e → b = .found key e) h.events g.events ∧
    h.cache.hits ≤ g.cache.hits ∧
    h.cache.hits + h.cache.misses = g.cache.hits + g.cache.misses := by
  intro h g
  have w : h.Within g := (Within.start le).useAll uses
  refine ⟨?_, w.found, w.hits_le, w.lookUps_eq⟩
  intro key e found
  rw [Cache.get_fst] at found ⊢
  exact w.cache.find? found

/-- Uses of which the third finds its text only where there is room for two. -/
def crowdedUses : List CacheUse :=
  let e : Estimate := { growth := .constant, rule := .noLoops, depth := 0 }
  [.put ['a'] e, .put ['b'] e, .get ['a'], .put ['c'] e, .get ['c']]

/-- The smaller cache does not find the first text again, and drops the second for the third; the
larger one keeps the first and the third. -/
theorem get_eq_some_of_more_room_crowded :
    1 ≤ 2 ∧
    let h := (start 1).useAll crowdedUses
    let g := (start 2).useAll crowdedUses
    ((∀ key e, (h.cache.get key).1 = some e → (g.cache.get key).1 = some e) ∧
      List.Forall₂ (fun a b => ∀ key e, a = .found key e → b = .found key e) h.events g.events ∧
      h.cache.hits ≤ g.cache.hits ∧
      h.cache.hits + h.cache.misses = g.cache.hits + g.cache.misses) ∧
    h.cache.stats = { hits := 1, misses := 1, entries := 1 } ∧
    g.cache.stats = { hits := 2, misses := 0, entries := 2 } :=
  ⟨by decide, get_eq_some_of_more_room (by decide) crowdedUses, by decide, by decide⟩

end CacheHistory

end SnippetCost
