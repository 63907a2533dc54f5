import Mathlib.Data.Set.Card
import SnippetCost.Proofs.Cache.Sound

/-!
# What a cache remembers

A cache keeps the texts that were touched last. Ranked by their latest touch, the texts that have been
touched since the cache was cleared begin with those that it keeps, and a text stands in the ranking
behind just the texts that were touched after it. So a look-up finds a text as long as fewer other
texts than there is room for were touched since.

The invariant is `CacheHistory.Recounts`: the entries are the first of the texts ranked by their
latest touch. Storing keeps it by `Recounts.put_entries`, a look-up by `Recounts.missed` and
`Recounts.found`, and a whole history by `Recounts.useAll`. `mem_take_ranked` counts the texts in
front of one in the ranking, and the main result is `get_eq_some_iff_recent`.
-/

namespace SnippetCost

section ToFront

variable {α β : Type} [DecidableEq α] {l : List (α × β)}

/-- Where no key comes twice, an entry is among the first ones if few keys stand before its own. -/
lemma mem_take_iff (nodup : (l.map Prod.fst).Nodup) {n : Nat} {a : α} {b : β} :
    (a, b) ∈ l.take n ↔
      (a, b) ∈ l ∧ ((l.map Prod.fst).takeWhile (· ≠ a)).length < n := by
  induction l generalizing n with
  | nil => simp
  | cons x l ih =>
    rw [List.map_cons, List.nodup_cons] at nodup
    obtain ⟨new, nodup⟩ := nodup
    cases n with
    | zero => simp
    | succ n =>
      rw [List.take_succ_cons, List.mem_cons, List.mem_cons, List.map_cons]
      by_cases same : x.1 = a
      · -- the key of the first entry is that of no other
        have absent : (a, b) ∉ l := fun mem => new (same ▸ List.mem_map_of_mem mem)
        have absent' : (a, b) ∉ l.take n := fun mem => absent (List.mem_of_mem_take mem)
        simp [absent, absent', same]
      · have ne : (a, b) ≠ x := fun e => same (e ▸ rfl)
        simp only [ne, false_or, ih nodup]
        rw [List.takeWhile_cons_of_pos (by simpa using same), List.length_cons,
          Nat.add_lt_add_iff_right]

/-- Leaving out one key, and looking at one entry less, one need not look further than before. -/
lemma take_filter_take (nodup : (l.map Prod.fst).Nodup) (n : Nat) (key : α) :
    ((l.take (n + 1)).filter (·.1 ≠ key)).take n = (l.filter (·.1 ≠ key)).take n := by
  induction l generalizing n with
  | nil => rfl
  | cons x l ih =>
    rw [List.map_cons, List.nodup_cons] at nodup
    obtain ⟨new, nodup⟩ := nodup
    rw [List.take_succ_cons]
    by_cases same : x.1 = key
    · have others : ∀ y ∈ l, decide (y.1 ≠ key) := by
        intro y mem
        simpa using fun e => new (List.mem_map.2 ⟨y, mem, e.trans same.symm⟩)
      have others' : ∀ y ∈ l.take n, decide (y.1 ≠ key) :=
        fun y mem => others y (List.mem_of_mem_take mem)
      rw [List.filter_cons_of_neg (by simpa using same),
        List.filter_cons_of_neg (by simpa using same), List.filter_eq_self.2 others,
        List.filter_eq_self.2 others', List.take_take, Nat.min_self]
    · rw [List.filter_cons_of_pos (by simpa using same),
        List.filter_cons_of_pos (by simpa using same)]
      cases n with
      | zero => rfl
      | succ n => rw [List.take_succ_cons, List.take_succ_cons, ih nodup]

/-- What comes to stand in front of the first entries comes to stand in front of them all. -/
lemma take_toFront_take (nodup : (l.map Prod.fst).Nodup) {n : Nat} (pos : 1 ≤ n) (key : α) (e : β) :
    (toFront key e (l.take n)).take n = (toFront key e l).take n := by
  obtain ⟨m, rfl⟩ := Nat.exists_eq_add_of_le' pos
  rw [toFront, toFront, List.take_succ_cons, List.take_succ_cons, take_filter_take nodup]

/-- A key that is put in front of another is one more before it, unless it was before it already. -/
lemma toFinset_takeWhile_toFront {key other : α} (ne : key ≠ other) (e : β) :
    (((toFront key e l).map Prod.fst).takeWhile (· ≠ other)).toFinset =
      insert key ((l.map Prod.fst).takeWhile (· ≠ other)).toFinset := by
  have stops : (fun a => !decide (a ≠ key) || decide (a ≠ other)) = (fun a => decide (a ≠ other)) := by
    funext a
    by_cases same : a = key
    · simp [same, ne]
    · simp [same]
  rw [keys_toFront, List.takeWhile_cons_of_pos (by simpa using ne), List.takeWhile_filter, stops,
    List.toFinset_cons, List.toFinset_filter]
  ext a
  by_cases same : a = key <;> simp [same]

end ToFront

namespace CacheEvent

/-- The texts by their latest touch, with what was stored for them or found. -/
def ranked : List CacheEvent → List (Text × Estimate)
  | [] => []
  | found key e :: events | stored key e :: events => toFront key e (ranked events)
  | missed _ :: events => ranked events
  | cleared :: _ => []

variable {events : List CacheEvent} {event : CacheEvent} {key other : Text} {e : Estimate}

/-- An event that clears nothing is one of those since the cache was cleared. -/
@[simp]
lemma sinceCleared_cons (ne : event ≠ cleared) :
    sinceCleared (event :: events) = event :: sinceCleared events :=
  List.takeWhile_cons_of_pos (by simpa using ne)

/-- What was stored for a text last is what the latest event stored for it, or what was before. -/
@[simp]
lemma lastStored?_cons (ne : event ≠ cleared) :
    lastStored? (event :: events) key =
      (event.storedFor? key).or (lastStored? events key) := by
  rw [lastStored?, sinceCleared_cons ne, List.findSome?_cons]
  cases event.storedFor? key <;> rfl

/-- A touch of a text comes after those of every other text. -/
lemma touchedAfter_cons (touch : event.touched? = some key) :
    touchedAfter (event :: events) other =
      if key = other then [] else key :: touchedAfter events other := by
  have ne : event ≠ cleared := by
    rintro rfl
    cases touch
  rw [touchedAfter, touches, sinceCleared_cons ne, List.filterMap_cons_some touch]
  split
  · next same => exact List.takeWhile_cons_of_neg (by simpa using same)
  · next other => exact List.takeWhile_cons_of_pos (by simpa using other)

/-- No text stands in the ranking twice. -/
lemma nodup_ranked (events : List CacheEvent) : ((ranked events).map Prod.fst).Nodup := by
  induction events with
  | nil => exact .nil
  | cons event events ih =>
    cases event with
    | found key e => exact nodup_toFront ih key e
    | stored key e => exact nodup_toFront ih key e
    | missed key => exact ih
    | cleared => exact .nil

/-- The texts that are ranked before a text are those that were touched after it. -/
lemma toFinset_takeWhile_ranked (events : List CacheEvent) (other : Text) :
    (((ranked events).map Prod.fst).takeWhile (· ≠ other)).toFinset =
      (touchedAfter events other).toFinset := by
  induction events with
  | nil => rfl
  | cons event events ih =>
    have touch : ∀ key e, event.touched? = some key →
        (((toFront key e (ranked events)).map Prod.fst).takeWhile (· ≠ other)).toFinset =
          (touchedAfter (event :: events) other).toFinset := by
      intro key e touch
      rw [touchedAfter_cons touch]
      split
      · next same =>
        rw [keys_toFront, List.takeWhile_cons_of_neg (by simpa using same)]
      · next ne => rw [toFinset_takeWhile_toFront ne, ih, List.toFinset_cons]
    cases event with
    | found key e => exact touch key e rfl
    | stored key e => exact touch key e rfl
    | missed key => exact ih
    | cleared => rfl

/-- A text is ranked among the first ones if few other texts were touched after it. -/
lemma mem_take_ranked {n : Nat} :
    (key, e) ∈ (ranked events).take n ↔
      (key, e) ∈ ranked events ∧ (touchedAfter events key).toFinset.card < n := by
  have distinct : (((ranked events).map Prod.fst).takeWhile (· ≠ key)).Nodup :=
    (nodup_ranked events).sublist (List.takeWhile_sublist _)
  rw [mem_take_iff (nodup_ranked events), ← List.toFinset_card_of_nodup distinct,
    toFinset_takeWhile_ranked]

end CacheEvent

namespace CacheHistory

open CacheEvent

/-- What the events of a history tell of the cache. -/
structure Recounts (room : Nat) (h : CacheHistory) : Prop where
  sound : h.cache.Sound
  capacity_eq : h.cache.capacity = max room 1
  entries_eq : h.cache.entries = (ranked h.events).take (max room 1)
  mem_ranked_iff : ∀ key e, (key, e) ∈ ranked h.events ↔ lastStored? h.events key = some e
  lookUps_eq : h.cache.hits + h.cache.misses = (sinceCleared h.events).countP isLookUp
  hits_eq : h.cache.hits = (sinceCleared h.events).countP isHit

variable {room : Nat} {h : CacheHistory} {key : Text} {e : Estimate}

/-- A new cache recounts the empty history. -/
lemma Recounts.start (room : Nat) : (start room).Recounts room where
  sound := .empty room
  capacity_eq := rfl
  entries_eq := List.take_nil.symm
  mem_ranked_iff := by
    intro key e
    exact ⟨nofun, nofun⟩
  lookUps_eq := rfl
  hits_eq := rfl

/-- A text that is touched comes to stand in front of the cache and of the ranking. -/
lemma Recounts.put_entries (r : h.Recounts room) (key : Text) (e : Estimate) :
    (h.cache.put key e).entries = (toFront key e (ranked h.events)).take (max room 1) := by
  rw [Cache.put_entries, r.capacity_eq, r.entries_eq]
  exact take_toFront_take (nodup_ranked h.events) (Nat.le_max_right room 1) key e

/-- A cache into which an estimate is put recounts that too. -/
lemma Recounts.put (r : h.Recounts room) (key : Text) (e : Estimate) :
    (h.use (.put key e)).Recounts room where
  sound := r.sound.put key e
  capacity_eq := r.capacity_eq
  entries_eq := r.put_entries key e
  mem_ranked_iff := by
    intro other e'
    by_cases same : key = other
    · simp [use, ranked, mem_toFront, storedFor?, same, eq_comm]
    · simp [use, ranked, mem_toFront, storedFor?, same, Ne.symm same, r.mem_ranked_iff]
  lookUps_eq := by simpa [use, Cache.put, isLookUp] using r.lookUps_eq
  hits_eq := by simpa [use, Cache.put, isHit] using r.hits_eq

/-- A look-up in vain changes nothing but the counts. -/
lemma Recounts.missed (r : h.Recounts room) (absent : h.cache.find? key = none) :
    (h.use (.get key)).Recounts room := by
  have sound := r.sound.get key
  rw [Cache.get_of_find?_eq_none absent] at sound
  rw [use_get_of_find?_eq_none absent]
  exact {
    sound
    capacity_eq := r.capacity_eq
    entries_eq := r.entries_eq
    mem_ranked_iff := by simpa [ranked, storedFor?] using r.mem_ranked_iff
    lookUps_eq := by simp [← Nat.add_assoc, r.lookUps_eq, List.countP_cons, isLookUp]
    hits_eq := by simp [r.hits_eq, isHit] }

/-- A text that is found was stored, and it is touched. -/
lemma Recounts.found (r : h.Recounts room) (found : h.cache.find? key = some e) :
    (h.use (.get key)).Recounts room := by
  have sound := r.sound.get key
  rw [r.sound.get_of_find?_eq_some found] at sound
  have mem := Cache.mem_of_find?_eq_some found
  rw [r.entries_eq] at mem
  have stored := (r.mem_ranked_iff key e).1 (List.mem_of_mem_take mem)
  rw [use_get_of_find?_eq_some r.sound found]
  exact {
    sound
    capacity_eq := r.capacity_eq
    entries_eq := r.put_entries key e
    mem_ranked_iff := by
      intro other e'
      by_cases same : other = key
      · simp [ranked, mem_toFront, storedFor?, same, stored, eq_comm]
      · simp [ranked, mem_toFront, storedFor?, same, r.mem_ranked_iff]
    lookUps_eq := by
      have before := r.lookUps_eq
      simp only [Cache.put, sinceCleared_cons, ne_eq, reduceCtorEq, not_false_eq_true,
        List.countP_cons, isLookUp, if_true]
      omega
    hits_eq := by simp [r.hits_eq, List.countP_cons, isHit] }

/-- A cleared cache recounts nothing. -/
lemma Recounts.clear (r : h.Recounts room) : (h.use .clear).Recounts room where
  sound := r.sound.clear
  capacity_eq := r.capacity_eq
  entries_eq := List.take_nil.symm
  mem_ranked_iff := by
    intro key e
    exact ⟨nofun, nofun⟩
  lookUps_eq := rfl
  hits_eq := rfl

/-- A cache recounts every use of it. -/
lemma Recounts.use (r : h.Recounts room) (u : CacheUse) : (h.use u).Recounts room := by
  cases u with
  | get key =>
    cases found : h.cache.find? key with
    | none => exact r.missed found
    | some e => exact r.found found
  | put key e => exact r.put key e
  | clear => exact r.clear

/-- A cache recounts every history of uses. -/
lemma Recounts.useAll (r : h.Recounts room) (uses : List CacheUse) :
    (h.useAll uses).Recounts room := by
  induction uses generalizing h with
  | nil => exact r
  | cons u uses ih => exact ih (r.use u)

/-- What is found is what was stored last, unless too many other texts were touched since. -/
lemma Recounts.find?_eq_some_iff (r : h.Recounts room) :
    h.cache.find? key = some e ↔ lastStored? h.events key = some e ∧
      (touchedAfter h.events key).toFinset.card < max room 1 := by
  rw [r.sound.find?_eq_some_iff, r.entries_eq, mem_take_ranked, r.mem_ranked_iff]

/-- After any uses of a new cache, a look-up finds a text if it was stored since the cache was cleared
and fewer other texts were touched after it than there is room for; it finds what was stored last. The
cache keeps just the texts that a look-up finds, no more than there is room for, and its counts are
those of the look-ups since it was cleared, and of those that found their text. -/
theorem get_eq_some_iff_recent (room : Nat) (uses : List CacheUse) :
    let h := (start room).useAll uses
    (∀ key e, (h.cache.get key).1 = some e ↔ lastStored? h.events key = some e ∧
      (touchedAfter h.events key).toFinset.card < max room 1) ∧
    Set.encard {key | (h.cache.get key).1.isSome} = h.cache.size ∧
    h.cache.size ≤ max room 1 ∧
    h.cache.hits + h.cache.misses = (sinceCleared h.events).countP isLookUp ∧
    h.cache.hits = (sinceCleared h.events).countP isHit := by
  intro h
  have r : h.Recounts room := (Recounts.start room).useAll uses
  refine ⟨?_, ?_, ?_, r.lookUps_eq, r.hits_eq⟩
  · intro key e
    rw [Cache.get_fst]
    exact r.find?_eq_some_iff
  · have found : {key | (h.cache.get key).1.isSome} = ↑(h.cache.entries.map Prod.fst).toFinset := by
      ext key
      rw [Set.mem_ofPred_eq, Cache.get_fst, Option.isSome_iff_ne_none, Ne, Cache.find?_eq_none_iff,
        not_not, List.coe_toFinset, Set.mem_ofPred_eq]
    rw [found, Set.encard_coe_eq_coe_finsetCard, List.toFinset_card_of_nodup r.sound.nodup,
      List.length_map]
    rfl
  · have le := r.sound.size_le
    rw [r.capacity_eq] at le
    exact le

end CacheHistory

end SnippetCost
