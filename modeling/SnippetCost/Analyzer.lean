import SnippetCost.Cache.Basic
import SnippetCost.Settings.Basic

/-!
# Analyzer

An analyzer estimates snippets one after another and keeps estimates in a cache, if its settings ask
for one. Looking a snippet up and keeping its estimate are two uses of the cache, and others may use it
in between. A batch is estimated in the order of its snippets here; how several workers share one is
the matter of `SnippetCost.Analyzer.Crew`. The state is `Analyzer`; it is used by `Analyzer.analyze`,
`Analyzer.invalidate` and `Analyzer.stats?`.
-/

namespace SnippetCost

/-- An analyzer: the cache that it keeps, if any, and which batches it splits. -/
structure Analyzer where
  cache : Option Cache
  batch : BatchSettings
deriving DecidableEq, Repr

namespace Analyzer

/-- An analyzer as the settings ask for it. -/
def ofSettings (s : Settings) : Analyzer :=
  { cache := if s.cache.enabled then some (Cache.empty s.cache.capacity.toNat) else none
    batch := s.batch }

/-- Look a text up in the cache. -/
def lookUp (a : Analyzer) (t : Text) : Option Estimate × Analyzer :=
  match a.cache with
  | none => (none, a)
  | some cache => ((cache.get t).1, { a with cache := some (cache.get t).2 })

/-- Keep an estimate in the cache. -/
def keep (a : Analyzer) (t : Text) (e : Estimate) : Analyzer :=
  { a with cache := a.cache.map fun cache => cache.put t e }

variable [PatternBuilder]

/-- Estimate a snippet: from the cache if it is kept there, else anew, and then it is kept. -/
def analyze (a : Analyzer) (t : Text) : Estimate × Analyzer :=
  match a.lookUp t with
  | (some e, a) => (e, a)
  | (none, a) => (Estimate.ofText t, a.keep t (Estimate.ofText t))

/-- Estimate snippets in order. -/
def analyzeAll (a : Analyzer) : List Text → List Estimate × Analyzer
  | [] => ([], a)
  | t :: ts =>
    let (e, a) := a.analyze t
    let (es, a) := a.analyzeAll ts
    (e :: es, a)

/-- Empty the cache: how many estimates it held, and the analyzer after it. -/
def invalidate (a : Analyzer) : Nat × Analyzer :=
  match a.cache with
  | none => (0, a)
  | some cache => (cache.size, { a with cache := some cache.clear })

/-- The counts of the cache, if there is one. -/
def stats? (a : Analyzer) : Option CacheStats :=
  a.cache.map Cache.stats

end Analyzer

end SnippetCost
