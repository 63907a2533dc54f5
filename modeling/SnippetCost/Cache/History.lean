import SnippetCost.Cache.Basic

/-!
# Histories of a cache

What is asked of a cache, one thing after another, and what comes of it. The events of a history tell
which texts were touched: a text is touched when it is stored, and when it is looked up and found. A
text counts as recent as long as only few other texts were touched after it. A `CacheHistory` is what
`CacheHistory.useAll` makes of uses. What its events tell is `touchedAfter` and `lastStored?`.
-/

namespace SnippetCost

/-- What is asked of a cache. -/
inductive CacheUse where
  | get (key : Text)
  | put (key : Text) (e : Estimate)
  | clear
deriving DecidableEq, Repr

/-- What came of a use of a cache. -/
inductive CacheEvent where
  | found (key : Text) (e : Estimate)
  | missed (key : Text)
  | stored (key : Text) (e : Estimate)
  | cleared
deriving DecidableEq, Repr

namespace CacheEvent

/-- The text that is touched. -/
def touched? : CacheEvent → Option Text
  | found key _ | stored key _ => some key
  | missed _ | cleared => none

/-- The estimate that is stored for a text. -/
def storedFor? (key : Text) : CacheEvent → Option Estimate
  | stored other e => if other = key then some e else none
  | _ => none

/-- Whether a text was found. -/
def isHit : CacheEvent → Bool
  | found _ _ => true
  | _ => false

/-- Whether a text was looked up. -/
def isLookUp : CacheEvent → Bool
  | found _ _ | missed _ => true
  | _ => false

/-- The events since the texts were last dropped. The latest event comes first, here and below. -/
def sinceCleared (events : List CacheEvent) : List CacheEvent :=
  events.takeWhile (· ≠ cleared)

/-- The texts that were touched. -/
def touches (events : List CacheEvent) : List Text :=
  (sinceCleared events).filterMap touched?

/-- The texts that were touched after a text was. -/
def touchedAfter (events : List CacheEvent) (key : Text) : List Text :=
  (touches events).takeWhile (· ≠ key)

/-- The estimate that was stored for a text last. -/
def lastStored? (events : List CacheEvent) (key : Text) : Option Estimate :=
  (sinceCleared events).findSome? (storedFor? key)

end CacheEvent

/-- A cache, and what came of its uses, the latest first. -/
structure CacheHistory where
  cache : Cache
  events : List CacheEvent := []
deriving DecidableEq, Repr

namespace CacheHistory

/-- A new cache with room for so many texts. -/
def start (room : Nat) : CacheHistory :=
  { cache := .empty room }

/-- Use the cache. -/
def use (h : CacheHistory) : CacheUse → CacheHistory
  | .get key =>
    { cache := (h.cache.get key).2
      events :=
        match (h.cache.get key).1 with
        | some e => .found key e :: h.events
        | none => .missed key :: h.events }
  | .put key e => { cache := h.cache.put key e, events := .stored key e :: h.events }
  | .clear => { cache := h.cache.clear, events := .cleared :: h.events }

/-- Use the cache again and again. -/
def useAll (h : CacheHistory) (uses : List CacheUse) : CacheHistory :=
  uses.foldl use h

end CacheHistory

end SnippetCost
