import Mathlib.Data.Finset.Card
import SnippetCost.Analyzer.Crew
import SnippetCost.Analyzer.UseCase

/-!
# Calls that are served

What an analyzer may look like after calls one after another, `Analyzer.ServesAll`. While a batch is
worked on nobody else uses the cache, but the analyses of a batch that is split may take their turns in
an order of their own, `Turn.AreOwn`. They may also follow one another, each using the cache as often as
it has to before the next one does, `Turn.AreInTurn`. What the counts of the cache should tell of the
snippets is `Analyzer.AccountsFor`, and the answers that calls should get are `Call.Answered`.

Two analyses may look a text up before either has stored it, and both miss it. The second miss is a
repeated one, `Crew.repeatsMiss`, and beside an analyzer a `Watch` counts them.
-/

namespace SnippetCost

namespace Call

/-- The snippets that are analyzed for a call. -/
def snippets : Call → List Text
  | analyze t => [t]
  | analyzeAll ts => ts
  | invalidate | stats => []

/-- The snippets that were analyzed since the cache was emptied, if those before a call are given. -/
def behind (ts : List Text) : Call → List Text
  | invalidate => []
  | call => ts ++ call.snippets

/-- The answers that a call should get: the estimates of the snippets, in their order. What it is
told about the cache is left open. -/
inductive Answered [PatternBuilder] : Call → Answer → Prop where
  | analyze (t : Text) :
    Answered (.analyze t) (.estimate (Estimate.ofText t))
  | analyzeAll (ts : List Text) :
    Answered (.analyzeAll ts) (.estimates (ts.map Estimate.ofText))
  | invalidate (n : Nat) :
    Answered .invalidate (.dropped n)
  | stats (s : Option CacheStats) :
    Answered .stats (.counts s)

end Call

/-- What has been answered, if anything, is the estimate of the snippet. -/
def Job.IsTruthful [PatternBuilder] (j : Job) : Prop :=
  ∀ e, j.answer? = some e → e = Estimate.ofText j.text

namespace Turn

/-- The turns in which analyses follow one another: two for each, which are all that it needs. -/
def inTurn (order : List Nat) : List Turn :=
  order.flatMap fun i => [job i, job i]

end Turn

namespace Job

/-- The snippet, if it was looked up in vain and is not stored yet. -/
def missed? (j : Job) : Option Text :=
  match j.progress with
  | .missed => some j.text
  | _ => none

end Job

namespace Crew

/-- The snippets that were looked up in vain and are not stored yet. -/
def missed (c : Crew) : List Text :=
  c.jobs.filterMap Job.missed?

/-- Whether a turn looks a text up in vain that another analysis has looked up in vain and not stored
yet. -/
def repeatsMiss (c : Crew) : Turn → Bool
  | .other _ => false
  | .job i =>
    match c.jobs[i]? with
    | some { text := t, progress := .waiting } =>
      c.mayAdvance i && (c.analyzer.lookUp t).1.isNone && c.missed.contains t
    | _ => false

/-- How many of some turns do so, one after another. -/
def repeatedMisses [PatternBuilder] (c : Crew) : List Turn → Nat
  | [] => 0
  | turn :: turns => (c.repeatsMiss turn).toNat + (c.step turn).repeatedMisses turns

end Crew

/-- An analyzer, and how many misses were repeated ones since its cache was emptied. -/
structure Watch where
  analyzer : Analyzer
  repeated : Nat := 0
deriving DecidableEq, Repr

namespace Analyzer

variable [PatternBuilder]

/-- How an analyzer may come out of a call, if the analyses of a batch take turns as they may. -/
inductive Serves (may : List Turn → Prop) : Watch → Call → Watch → Prop where
  | analyze (w : Watch) (t : Text) :
    Serves may w (.analyze t) { w with analyzer := (w.analyzer.analyze t).2 }
  | analyzeAll (w : Watch) (ts : List Text) (turns : List Turn) :
    may turns →
    ((Crew.start w.analyzer ts).run turns).answers?.isSome →
    Serves may w (.analyzeAll ts)
      { analyzer := ((Crew.start w.analyzer ts).run turns).analyzer
        repeated := w.repeated + (Crew.start w.analyzer ts).repeatedMisses turns }
  | invalidate (w : Watch) :
    Serves may w .invalidate { analyzer := w.analyzer.invalidate.2 }
  | stats (w : Watch) :
    Serves may w .stats w

/-- How it may come out of calls one after another. -/
inductive ServesAll (may : List Turn → Prop) : Watch → List Call → Watch → Prop where
  | nil (w : Watch) :
    ServesAll may w [] w
  | cons {w x y : Watch} {call : Call} {calls : List Call} :
    Serves may w call x →
    ServesAll may x calls y →
    ServesAll may w (call :: calls) y

end Analyzer

end SnippetCost
