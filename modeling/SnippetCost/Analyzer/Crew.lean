import SnippetCost.Analyzer

/-!
# Analyses that share an analyzer

Several analyses can be under way at once. Each uses the cache twice, to look its snippet up and to
keep the estimate, and between the two uses the other analyses have theirs, and so have callers from
elsewhere. A batch that is worth splitting is worked on in any order; any other batch snippet by
snippet. One analysis is a `Job`, which `Job.advance` takes one use further, and a batch a `Crew`,
which `Crew.run` takes through turns.
-/

namespace SnippetCost

/-- How far an analysis has come. -/
inductive Progress where
  | waiting
  /-- The snippet has been looked up in vain, and its estimate is not kept yet. -/
  | missed
  | answered (e : Estimate)
deriving DecidableEq, Repr

/-- The analysis of one snippet. -/
structure Job where
  text : Text
  progress : Progress := .waiting
deriving DecidableEq, Repr

/-- What a caller from elsewhere does with the cache. What it keeps are estimates. -/
inductive Access where
  | get (key : Text)
  | put (key : Text)
  | clear
deriving DecidableEq, Repr

variable [PatternBuilder]

namespace Analyzer

/-- Let a caller from elsewhere use the cache. -/
def access (a : Analyzer) : Access → Analyzer
  | .get key => (a.lookUp key).2
  | .put key => a.keep key (Estimate.ofText key)
  | .clear => a.invalidate.2

end Analyzer

namespace Job

/-- What has been answered. -/
def answer? (j : Job) : Option Estimate :=
  match j.progress with
  | .answered e => some e
  | _ => none

/-- The next use that an analysis makes of the cache. -/
def advance (j : Job) (a : Analyzer) : Job × Analyzer :=
  match j.progress with
  | .waiting =>
    match a.lookUp j.text with
    | (some e, a) => ({ j with progress := .answered e }, a)
    | (none, a) => ({ j with progress := .missed }, a)
  | .missed =>
    let e := Estimate.ofText j.text
    ({ j with progress := .answered e }, a.keep j.text e)
  | .answered _ => (j, a)

end Job

/-- The analyses of a batch, with the analyzer that they share. -/
structure Crew where
  analyzer : Analyzer
  jobs : List Job
  /-- Whether an analysis has to wait for those before it. -/
  inOrder : Bool
deriving DecidableEq, Repr

/-- Whose turn it is to use the cache. -/
inductive Turn where
  | job (i : Nat)
  | other (x : Access)
deriving DecidableEq, Repr

namespace Crew

/-- A batch before the first turn. -/
def start (a : Analyzer) (ts : List Text) : Crew :=
  { analyzer := a
    jobs := ts.map fun t => { text := t }
    inOrder := !a.batch.splits ts.length }

/-- Whether an analysis need not wait. -/
def mayAdvance (c : Crew) (i : Nat) : Bool :=
  !c.inOrder || (c.jobs.take i).all fun j => j.answer?.isSome

/-- Take a turn. The turn of an analysis that has to wait, or that is none of the batch, passes. -/
def step (c : Crew) : Turn → Crew
  | .other x => { c with analyzer := c.analyzer.access x }
  | .job i =>
    match c.jobs[i]? with
    | none => c
    | some j =>
      if c.mayAdvance i then
        let (j, a) := j.advance c.analyzer
        { c with analyzer := a, jobs := c.jobs.set i j }
      else c

/-- Take turns in order. -/
def run (c : Crew) (turns : List Turn) : Crew :=
  turns.foldl step c

/-- The answers of a batch, once all are there. -/
def answers? (c : Crew) : Option (List Estimate) :=
  c.jobs.mapM Job.answer?

end Crew

/-- Snippets that are analyzed together, as a batch or one alone, and the turns that are taken. -/
structure Episode where
  snippets : List Text
  turns : List Turn
deriving DecidableEq, Repr

namespace Analyzer

/-- The analyses of an episode. -/
def crewOf (a : Analyzer) (e : Episode) : Crew :=
  (Crew.start a e.snippets).run e.turns

/-- The analyzer after episodes one after another. -/
def afterAll (a : Analyzer) (es : List Episode) : Analyzer :=
  es.foldl (fun a e => (a.crewOf e).analyzer) a

end Analyzer

end SnippetCost
