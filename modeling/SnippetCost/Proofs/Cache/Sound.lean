import Mathlib.Data.List.Nodup
import Mathlib.Tactic.Lemma
import SnippetCost.Cache.History

/-!
# Sound caches

A cache keeps no text twice and no more texts than it has room for. A look-up that finds its text then
does to the entries what storing the same estimate once more would do.

What stands at the front of the entries, `toFront`, has its own lemmas, of which `length_toFront` is
the one that soundness rests on. Every use keeps a cache sound: `Sound.empty`, `Sound.clear`,
`Sound.put` and `Sound.get`. What a look-up does is `get_of_find?_eq_none` and
`Sound.get_of_find?_eq_some`.
-/

namespace SnippetCost

section ToFront

variable {α β : Type} [DecidableEq α] {l : List (α × β)} {a key : α} {b e : β}

/-- Put an entry in front, in place of any other of its key. -/
def toFront (key : α) (e : β) (l : List (α × β)) : List (α × β) :=
  (key, e) :: l.filter (·.1 ≠ key)

/-- At the front stands what was put there, and behind it what was there for other keys. -/
lemma mem_toFront :
    (a, b) ∈ toFront key e l ↔ a = key ∧ b = e ∨ a ≠ key ∧ (a, b) ∈ l := by
  rw [toFront, List.mem_cons, Prod.mk.injEq, List.mem_filter, decide_eq_true_eq, and_comm (a := _ ∈ l)]

/-- The key that is put to the front stands before the other keys. -/
lemma keys_toFront (key : α) (e : β) (l : List (α × β)) :
    (toFront key e l).map Prod.fst = key :: (l.map Prod.fst).filter (· ≠ key) := by
  rw [toFront, List.map_cons, List.filter_map]
  rfl

/-- Putting a key to the front leaves no key twice. -/
lemma nodup_toFront (nodup : (l.map Prod.fst).Nodup) (key : α) (e : β) :
    ((toFront key e l).map Prod.fst).Nodup := by
  rw [keys_toFront, List.nodup_cons]
  exact ⟨by simp, nodup.filter _⟩

/-- Where no key comes twice, there is one entry more unless the key was there before. -/
lemma length_toFront (nodup : (l.map Prod.fst).Nodup) (key : α) (e : β) :
    (toFront key e l).length = if key ∈ l.map Prod.fst then l.length else l.length + 1 := by
  have others : (l.map Prod.fst).filter (· ≠ key) = (l.map Prod.fst).erase key := by
    rw [nodup.erase_eq_filter]
    refine List.filter_congr ?_
    intro other _
    rw [Bool.eq_iff_iff]
    simp
  rw [← List.length_map Prod.fst, keys_toFront, others, List.length_cons]
  split
  · next mem => rw [List.length_erase_add_one mem, List.length_map]
  · next absent => rw [List.erase_of_not_mem absent, List.length_map]

end ToFront

namespace Cache

/-- What holds of a cache whatever was done to it. -/
structure Sound (c : Cache) : Prop where
  nodup : (c.entries.map Prod.fst).Nodup
  size_le : c.size ≤ c.capacity
  room : 1 ≤ c.capacity

variable {c : Cache} {key : Text} {e : Estimate}

/-- A look-up gives what is found. -/
@[simp]
lemma get_fst (c : Cache) (key : Text) : (c.get key).1 = c.find? key := by
  rw [get]
  cases h : c.find? key <;> rfl

/-- Nothing is found for just the texts that have no entry. -/
lemma find?_eq_none_iff : c.find? key = none ↔ key ∉ c.entries.map Prod.fst := by
  rw [find?, List.lookup_eq_none_iff, List.mem_map]
  constructor
  · rintro absent ⟨entry, mem, rfl⟩
    simpa using absent entry mem
  · intro absent entry mem
    simpa using fun same => absent ⟨entry, mem, same.symm⟩

/-- What is found is an entry. -/
lemma mem_of_find?_eq_some (found : c.find? key = some e) : (key, e) ∈ c.entries := by
  obtain ⟨before, after, entries, _⟩ := List.lookup_eq_some_iff.1 found
  rw [entries]
  exact List.mem_append_right before List.mem_cons_self

/-- What is found is what is kept. -/
lemma Sound.find?_eq_some_iff (h : c.Sound) :
    c.find? key = some e ↔ (key, e) ∈ c.entries := by
  refine ⟨mem_of_find?_eq_some, ?_⟩
  intro mem
  cases found : c.find? key with
  | none => exact absurd (List.mem_map_of_mem mem) (find?_eq_none_iff.1 found)
  | some other =>
    have same := List.inj_on_of_nodup_map h.nodup (mem_of_find?_eq_some found) mem rfl
    rw [(Prod.mk.inj same).2]

/-- Storing puts an entry to the front, and drops what there is no room for. -/
lemma put_entries (c : Cache) (key : Text) (e : Estimate) :
    (c.put key e).entries = (toFront key e c.entries).take c.capacity := rfl

/-- A look-up in vain changes nothing but the count of misses. -/
lemma get_of_find?_eq_none (absent : c.find? key = none) :
    (c.get key).2 = { c with misses := c.misses + 1 } := by
  rw [get, absent]

/-- There is room for a text that is there already. -/
lemma Sound.length_toFront_le (h : c.Sound) (found : c.find? key = some e) :
    (toFront key e c.entries).length ≤ c.capacity := by
  have mem := List.mem_map_of_mem (f := Prod.fst) (mem_of_find?_eq_some found)
  rw [length_toFront h.nodup, if_pos mem]
  exact h.size_le

/-- A text that is found is kept as if it had been stored just now. -/
lemma Sound.get_of_find?_eq_some (h : c.Sound) (found : c.find? key = some e) :
    (c.get key).2 = { c.put key e with hits := c.hits + 1 } := by
  have fits : ((key, e) :: c.others key).length ≤ c.capacity := h.length_toFront_le found
  rw [get, found]
  simp only [put, List.take_of_length_le fits]

/-- A new cache is sound. -/
lemma Sound.empty (room : Nat) : (Cache.empty room).Sound where
  nodup := .nil
  size_le := Nat.zero_le _
  room := Nat.le_max_right room 1

/-- A cleared cache is sound. -/
lemma Sound.clear (h : c.Sound) : c.clear.Sound where
  nodup := .nil
  size_le := Nat.zero_le _
  room := h.room

/-- Storing keeps a cache sound. -/
lemma Sound.put (h : c.Sound) (key : Text) (e : Estimate) : (c.put key e).Sound where
  nodup := (nodup_toFront h.nodup key e).sublist ((List.take_sublist _ _).map _)
  size_le := List.length_take_le _ _
  room := h.room

/-- A look-up keeps a cache sound. -/
lemma Sound.get (h : c.Sound) (key : Text) : (c.get key).2.Sound := by
  cases found : c.find? key with
  | none =>
    rw [get_of_find?_eq_none found]
    exact ⟨h.nodup, h.size_le, h.room⟩
  | some e =>
    have stored := h.put key e
    rw [h.get_of_find?_eq_some found]
    exact ⟨stored.nodup, stored.size_le, stored.room⟩

end Cache

namespace CacheHistory

variable {h : CacheHistory} {key : Text} {e : Estimate}

/-- A look-up in vain is counted as a miss. -/
lemma use_get_of_find?_eq_none (absent : h.cache.find? key = none) :
    h.use (.get key) = {
      cache := { h.cache with misses := h.cache.misses + 1 }
      events := .missed key :: h.events } := by
  simp only [use, Cache.get_fst, absent, Cache.get_of_find?_eq_none absent]

/-- A look-up that finds its text is counted as a hit, and stores what it finds once more. -/
lemma use_get_of_find?_eq_some (sound : h.cache.Sound) (found : h.cache.find? key = some e) :
    h.use (.get key) = {
      cache := { h.cache.put key e with hits := h.cache.hits + 1 }
      events := .found key e :: h.events } := by
  simp only [use, Cache.get_fst, found, sound.get_of_find?_eq_some found]

end CacheHistory

end SnippetCost
