import SnippetCost.Analyzer

/-!
# Use cases

What an editor asks for, whoever answers: the estimate of one snippet, and those of several. An
analyzer answers both itself. Where an answerer has nothing to say about several snippets, they are
asked for one by one. The interface is `UseCase`, the answerers are `Analyzer.useCase` and
`Analyzer.plainUseCase`, and calls one after another are answered by `UseCase.respondAll`.
-/

namespace SnippetCost

/-- Ask for several estimates, one after another. -/
def oneByOne {σ : Type} (ask : σ → Text → Estimate × σ) : σ → List Text → List Estimate × σ
  | s, [] => ([], s)
  | s, t :: ts =>
    let (e, s) := ask s t
    let (es, s) := oneByOne ask s ts
    (e :: es, s)

/-- How the estimates of one and of several snippets are got from a state. -/
structure UseCase (σ : Type) where
  analyzeCost : σ → Text → Estimate × σ
  analyzeCosts : σ → List Text → List Estimate × σ := oneByOne analyzeCost

/-- An analyzer answers for itself. -/
def Analyzer.useCase [PatternBuilder] : UseCase Analyzer where
  analyzeCost := Analyzer.analyze
  analyzeCosts := Analyzer.analyzeAll

/-- An analyzer is asked for one snippet at a time. -/
def Analyzer.plainUseCase [PatternBuilder] : UseCase Analyzer where
  analyzeCost := Analyzer.analyze

/-- What callers ask an analyzer for. -/
inductive Call where
  | analyze (t : Text)
  | analyzeAll (ts : List Text)
  | invalidate
  | stats
deriving DecidableEq, Repr

/-- What they are told. -/
inductive Answer where
  | estimate (e : Estimate)
  | estimates (es : List Estimate)
  | dropped (n : Nat)
  | counts (s : Option CacheStats)
deriving DecidableEq, Repr

namespace UseCase

/-- Answer one call. -/
def respond (u : UseCase Analyzer) (a : Analyzer) : Call → Answer × Analyzer
  | .analyze t => (.estimate (u.analyzeCost a t).1, (u.analyzeCost a t).2)
  | .analyzeAll ts => (.estimates (u.analyzeCosts a ts).1, (u.analyzeCosts a ts).2)
  | .invalidate => (.dropped a.invalidate.1, a.invalidate.2)
  | .stats => (.counts a.stats?, a)

/-- Answer calls in order. -/
def respondAll (u : UseCase Analyzer) (a : Analyzer) : List Call → List Answer × Analyzer
  | [] => ([], a)
  | call :: calls =>
    let (answer, a) := u.respond a call
    let (answers, a) := u.respondAll a calls
    (answer :: answers, a)

end UseCase

end SnippetCost
