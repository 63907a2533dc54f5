import Mathlib.Data.Finset.Card
import SnippetCost.Proofs.Cache.Sound

/-!
# What the counts of a cache tell

The texts that a cache was asked for and those that were stored in it settle its counts, whatever the
order of the uses, as long as no text is stored that was not asked for. Every text is missed once at
least. If there is room for all texts, then a miss is the first of its text, or one of the misses that
are counted besides as repeated.

The invariant is `Cache.Tallies`. A look-up that finds its text keeps it (`Tallies.get_of_some`), one in
vain keeps it with one more miss, repeated or not (`Tallies.get_of_none`), and so does storing a text
(`Tallies.put`).
-/

namespace SnippetCost.Cache

/-- A cache with room for so many texts after it was asked for some texts and some were stored, in
any order, and so many look-ups have missed a text again. -/
structure Tallies (room : Nat) (asked : List Text) (stored : Finset Text) (repeated : Nat)
    (c : Cache) : Prop where
  sound : c.Sound
  capacity_eq : c.capacity = room
  keys_subset : (c.entries.map Prod.fst).toFinset ⊆ stored
  stored_subset : stored ⊆ asked.toFinset
  size_eq : c.size = min stored.card room
  lookUps_eq : c.hits + c.misses = asked.length
  card_le : asked.toFinset.card ≤ c.misses
  misses_eq : asked.toFinset.card ≤ room → c.misses = asked.toFinset.card + repeated

variable {room repeated : Nat} {asked : List Text} {stored : Finset Text} {c : Cache} {key : Text}
  {e : Estimate}

/-- A text behind others is one of all. -/
lemma toFinset_append_singleton (asked : List Text) (key : Text) :
    (asked ++ [key]).toFinset = insert key asked.toFinset := by
  ext other
  simp

/-- A new cache has counted nothing. -/
lemma Tallies.empty (room : Nat) : (Cache.empty room).Tallies (max room 1) [] ∅ 0 where
  sound := .empty room
  capacity_eq := rfl
  keys_subset := Finset.Subset.refl _
  stored_subset := Finset.Subset.refl _
  size_eq := (Nat.zero_min _).symm
  lookUps_eq := rfl
  card_le := Nat.le_refl 0
  misses_eq _ := rfl

/-- A cleared cache has counted nothing. -/
lemma Tallies.clear (h : c.Tallies room asked stored repeated) : c.clear.Tallies room [] ∅ 0 where
  sound := h.sound.clear
  capacity_eq := h.capacity_eq
  keys_subset := Finset.Subset.refl _
  stored_subset := Finset.Subset.refl _
  size_eq := (Nat.zero_min _).symm
  lookUps_eq := rfl
  card_le := Nat.le_refl 0
  misses_eq _ := rfl

/-- The counts do not depend on the order of the texts that were asked for. -/
lemma Tallies.perm (h : c.Tallies room asked stored repeated) {others : List Text} (p : asked.Perm others) :
    c.Tallies room others stored repeated := by
  have same := List.toFinset_eq_of_perm asked others p
  exact {
    sound := h.sound
    capacity_eq := h.capacity_eq
    keys_subset := h.keys_subset
    stored_subset := same ▸ h.stored_subset
    size_eq := h.size_eq
    lookUps_eq := h.lookUps_eq.trans p.length_eq
    card_le := same ▸ h.card_le
    misses_eq := same ▸ h.misses_eq }

/-- What is found was stored. -/
lemma Tallies.mem_of_find? (h : c.Tallies room asked stored repeated) (found : c.find? key = some e) :
    key ∈ stored :=
  h.keys_subset (List.mem_toFinset.2 (List.mem_map_of_mem (mem_of_find?_eq_some found)))

/-- As long as there is room for all texts, all that were stored are found. -/
lemma Tallies.find?_ne_none (h : c.Tallies room asked stored repeated) (fits : stored.card ≤ room)
    (mem : key ∈ stored) : c.find? key ≠ none := by
  have all : (c.entries.map Prod.fst).toFinset = stored := by
    apply Finset.eq_of_subset_of_card_le h.keys_subset
    rw [List.toFinset_card_of_nodup h.sound.nodup, List.length_map, ← Nat.min_eq_left fits]
    exact h.size_eq.ge
  intro absent
  rw [← all, List.mem_toFinset] at mem
  exact find?_eq_none_iff.1 absent mem

/-- Storing a text adds it to those that were stored. -/
lemma Tallies.put (h : c.Tallies room asked stored repeated) (mem : key ∈ asked) (e : Estimate) :
    (c.put key e).Tallies room asked (insert key stored) repeated where
  sound := h.sound.put key e
  capacity_eq := h.capacity_eq
  keys_subset := by
    intro other held
    obtain ⟨entry, mem, rfl⟩ := List.mem_map.1 (List.mem_toFinset.1 held)
    rw [put_entries] at mem
    rcases mem_toFront.1 (List.mem_of_mem_take mem) with ⟨same, -⟩ | ⟨-, kept⟩
    · rw [same]
      exact Finset.mem_insert_self _ _
    · exact Finset.mem_insert_of_mem
        (h.keys_subset (List.mem_toFinset.2 (List.mem_map_of_mem kept)))
  stored_subset := Finset.insert_subset (List.mem_toFinset.2 mem) h.stored_subset
  size_eq := by
    have length := length_toFront h.sound.nodup key e
    have size : c.entries.length = min stored.card room := h.size_eq
    rw [Cache.size, put_entries, List.length_take, h.capacity_eq, length, size]
    split
    · next kept =>
      -- the text was there already
      rw [Finset.insert_eq_of_mem (h.keys_subset (List.mem_toFinset.2 kept))]
      omega
    · next gone =>
      by_cases old : key ∈ stored
      · -- it was dropped before, so the cache is full
        have full : room < stored.card := by
          by_contra fits
          have found := h.find?_ne_none (Nat.not_lt.1 fits) old
          exact found (find?_eq_none_iff.2 gone)
        rw [Finset.insert_eq_of_mem old]
        omega
      · rw [Finset.card_insert_of_notMem old]
        omega
  lookUps_eq := h.lookUps_eq
  card_le := h.card_le
  misses_eq := h.misses_eq

/-- A look-up in vain is one more miss. It is a repeated one exactly if the text is not new. -/
lemma Tallies.get_of_none (h : c.Tallies room asked stored repeated) (absent : c.find? key = none)
    {again : Bool} (known : (asked ++ [key]).toFinset.card ≤ room → (again ↔ key ∈ asked)) :
    (c.get key).2.Tallies room (asked ++ [key]) stored (repeated + again.toNat) := by
  have sound := h.sound.get key
  have before := h.lookUps_eq
  rw [get_of_find?_eq_none absent] at sound ⊢
  exact {
    sound
    capacity_eq := h.capacity_eq
    keys_subset := h.keys_subset
    stored_subset := by
      rw [toFinset_append_singleton]
      exact h.stored_subset.trans (Finset.subset_insert _ _)
    size_eq := h.size_eq
    lookUps_eq := by
      rw [List.length_append, List.length_singleton, ← before]
      rfl
    card_le := by
      rw [toFinset_append_singleton]
      exact (Finset.card_insert_le _ _).trans (Nat.succ_le_succ h.card_le)
    misses_eq := by
      intro fits
      have known := known fits
      rw [toFinset_append_singleton] at fits ⊢
      have misses := h.misses_eq ((Finset.card_le_card (Finset.subset_insert _ _)).trans fits)
      cases again with
      | true =>
        rw [Finset.insert_eq_of_mem (List.mem_toFinset.2 (known.1 rfl)), Bool.toNat_true, misses]
        exact Nat.add_assoc _ _ _
      | false =>
        have new : key ∉ asked.toFinset := fun mem => nomatch known.2 (List.mem_toFinset.1 mem)
        rw [Finset.card_insert_of_notMem new, Bool.toNat_false, misses]
        exact Nat.add_right_comm _ _ _ }

/-- A look-up that finds its text is one for a text that was stored. -/
lemma Tallies.get_of_some (h : c.Tallies room asked stored repeated) (found : c.find? key = some e) :
    (c.get key).2.Tallies room (asked ++ [key]) stored repeated := by
  have sound := h.sound.get key
  have before := h.lookUps_eq
  have old := h.mem_of_find? found
  have mem := h.stored_subset old
  have again := h.put (List.mem_toFinset.1 mem) e
  rw [Finset.insert_eq_of_mem old] at again
  have texts : (asked ++ [key]).toFinset = asked.toFinset := by
    rw [toFinset_append_singleton, Finset.insert_eq_of_mem mem]
  rw [h.sound.get_of_find?_eq_some found] at sound ⊢
  exact {
    sound
    capacity_eq := h.capacity_eq
    keys_subset := again.keys_subset
    stored_subset := texts ▸ h.stored_subset
    size_eq := again.size_eq
    lookUps_eq := by
      rw [List.length_append, List.length_singleton, ← before]
      exact Nat.succ_add _ _
    card_le := texts ▸ h.card_le
    misses_eq := texts ▸ h.misses_eq }

end SnippetCost.Cache
