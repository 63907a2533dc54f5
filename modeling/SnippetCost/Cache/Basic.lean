import SnippetCost.Snippet.Estimate

/-!
# Cache of estimates

A cache keeps the estimates of the texts used last. Looking a text up and storing it both count as use.
A full cache makes room by dropping the text that has gone unused the longest. It also counts how often
a look-up found its text. The uses of a `Cache` are `Cache.get`, `Cache.put` and `Cache.clear`.
-/

namespace SnippetCost

/-- A cache of estimates by exact text. -/
structure Cache where
  /-- How many texts the cache can keep; there is always room for one. -/
  capacity : Nat
  /-- The texts with their estimates, the one used last first. -/
  entries : List (Text × Estimate) := []
  hits : Nat := 0
  misses : Nat := 0
deriving DecidableEq, Repr

namespace Cache

/-- An empty cache with room for so many texts, at least one. -/
def empty (room : Nat) : Cache :=
  { capacity := max room 1 }

/-- The number of texts in the cache. -/
def size (c : Cache) : Nat :=
  c.entries.length

/-- The estimate kept for a text. -/
def find? (c : Cache) (key : Text) : Option Estimate :=
  c.entries.lookup key

/-- The entries without that of a text. -/
def others (c : Cache) (key : Text) : List (Text × Estimate) :=
  c.entries.filter fun entry => entry.1 ≠ key

/-- Look a text up: what is kept for it, and the cache after the use. -/
def get (c : Cache) (key : Text) : Option Estimate × Cache :=
  match c.find? key with
  | some e => (some e, { c with entries := (key, e) :: c.others key, hits := c.hits + 1 })
  | none => (none, { c with misses := c.misses + 1 })

/-- Store the estimate of a text, in place of what was kept for it. -/
def put (c : Cache) (key : Text) (e : Estimate) : Cache :=
  { c with entries := ((key, e) :: c.others key).take c.capacity }

/-- Drop all texts and begin counting anew. -/
def clear (c : Cache) : Cache :=
  { capacity := c.capacity }

end Cache

/-- The counts of a cache. -/
structure CacheStats where
  hits : Nat := 0
  misses : Nat := 0
  entries : Nat := 0
deriving DecidableEq, Repr

/-- The counts that a cache stands at. -/
def Cache.stats (c : Cache) : CacheStats :=
  { hits := c.hits, misses := c.misses, entries := c.size }

/-- The share of look-ups that found their text, in single precision; nothing of nothing is zero. -/
def CacheStats.hitRate (s : CacheStats) : Float32 :=
  if s.hits + s.misses = 0 then 0
  else Float32.ofNat s.hits / Float32.ofNat (s.hits + s.misses)

end SnippetCost
