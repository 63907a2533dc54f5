import Mathlib.Data.List.Forall2
import SnippetCost.Proofs.Cache.Honest
import SnippetCost.Analyzer.Service

/-!
# Answers of an analyzer

The cache of an analyzer shows in no answer. Its cache is honest from the start, every use of it keeps
it so, in whatever order the uses of several callers come, and an honest cache gives what estimating
anew would give.

The uses of a cache are `Honest.lookUp` and `Honest.keep`, an analysis puts them together
(`Honest.analyze`, `Honest.analyzeAll`), and the main result is `useCase_respondAll`: every call is
answered by estimates. `plainUseCase_eq` adds that the use case needs no batches of its own.
-/

namespace SnippetCost

variable [PatternBuilder]

namespace Analyzer

/-- The cache of the analyzer is honest, if there is one. -/
def Honest (a : Analyzer) : Prop :=
  ∀ cache, a.cache = some cache → cache.Honest

variable {a : Analyzer}

/-- A new analyzer is honest, whatever its settings are. -/
lemma Honest.ofSettings (s : Settings) : (Analyzer.ofSettings s).Honest := by
  intro cache h
  simp only [Analyzer.ofSettings] at h
  split at h
  · cases h
    exact Cache.Honest.empty _
  · cases h

/-- A look-up keeps an analyzer honest, and what it finds is the estimate of the text. -/
lemma Honest.lookUp (h : a.Honest) (t : Text) :
    (a.lookUp t).2.Honest ∧ ∀ e, (a.lookUp t).1 = some e → e = Estimate.ofText t := by
  rw [Analyzer.lookUp]
  cases hc : a.cache with
  | none =>
    refine ⟨h, ?_⟩
    intro e he
    cases he
  | some cache =>
    obtain ⟨honest, found⟩ := (h cache hc).get t
    refine ⟨?_, found⟩
    intro cache' h'
    cases h'
    exact honest

/-- Keeping the estimate of a text keeps an analyzer honest. -/
lemma Honest.keep (h : a.Honest) (t : Text) : (a.keep t (Estimate.ofText t)).Honest := by
  intro cache' h'
  obtain ⟨cache, hc, rfl⟩ := Option.map_eq_some_iff.1 h'
  exact (h cache hc).put t

/-- An emptied analyzer is honest. -/
lemma Honest.invalidate (h : a.Honest) : a.invalidate.2.Honest := by
  rw [Analyzer.invalidate]
  cases hc : a.cache with
  | none => exact h
  | some cache =>
    intro cache' h'
    cases h'
    exact Cache.Honest.clear cache

/-- Whatever another caller does keeps an analyzer honest. -/
lemma Honest.access (h : a.Honest) (x : Access) : (a.access x).Honest := by
  cases x with
  | get key => exact (h.lookUp key).1
  | put key => exact h.keep key
  | clear => exact h.invalidate

/-- An honest analyzer answers as if it kept nothing, and stays honest. -/
lemma Honest.analyze (h : a.Honest) (t : Text) :
    (a.analyze t).1 = Estimate.ofText t ∧ (a.analyze t).2.Honest := by
  obtain ⟨honest, found⟩ := h.lookUp t
  rw [Analyzer.analyze]
  split
  · next e b he =>
    rw [he] at honest found
    exact ⟨found e rfl, honest⟩
  · next b he =>
    rw [he] at honest
    exact ⟨rfl, honest.keep t⟩

/-- It answers for several snippets in their order. -/
lemma Honest.analyzeAll (h : a.Honest) (ts : List Text) :
    (a.analyzeAll ts).1 = ts.map Estimate.ofText ∧ (a.analyzeAll ts).2.Honest := by
  induction ts generalizing a with
  | nil => exact ⟨rfl, h⟩
  | cons t ts ih =>
    obtain ⟨first, honest⟩ := h.analyze t
    obtain ⟨rest, honest⟩ := ih honest
    refine ⟨?_, honest⟩
    rw [Analyzer.analyzeAll, List.map_cons, ← first, ← rest]

/-- Analyzing snippets one by one is what a batch of them in order does. -/
lemma oneByOne_analyze (a : Analyzer) (ts : List Text) :
    oneByOne Analyzer.analyze a ts = a.analyzeAll ts := by
  induction ts generalizing a with
  | nil => rfl
  | cons t ts ih => simp only [oneByOne, Analyzer.analyzeAll, ih]

end Analyzer

namespace UseCase

variable {a : Analyzer}

/-- A call through the use case is answered rightly and leaves the analyzer honest. -/
lemma useCase_respond (h : a.Honest) (call : Call) :
    call.Answered (Analyzer.useCase.respond a call).1 ∧
      (Analyzer.useCase.respond a call).2.Honest := by
  cases call with
  | analyze t =>
    obtain ⟨answer, honest⟩ := h.analyze t
    refine ⟨?_, honest⟩
    simp only [respond, Analyzer.useCase, answer]
    exact .analyze t
  | analyzeAll ts =>
    obtain ⟨answer, honest⟩ := h.analyzeAll ts
    refine ⟨?_, honest⟩
    simp only [respond, Analyzer.useCase, answer]
    exact .analyzeAll ts
  | invalidate => exact ⟨.invalidate _, h.invalidate⟩
  | stats => exact ⟨.stats _, h⟩

/-- Calls through the use case are all answered rightly. -/
lemma useCase_respondAll (h : a.Honest) (calls : List Call) :
    List.Forall₂ Call.Answered calls (Analyzer.useCase.respondAll a calls).1 := by
  induction calls generalizing a with
  | nil => exact .nil
  | cons call calls ih =>
    obtain ⟨answered, honest⟩ := useCase_respond h call
    exact .cons answered (ih honest)

/-- A use case that only analyzes single snippets answers batches alike. -/
lemma plainUseCase_eq : Analyzer.plainUseCase = Analyzer.useCase := by
  have all : oneByOne Analyzer.analyze = Analyzer.analyzeAll := by
    funext a ts
    exact Analyzer.oneByOne_analyze a ts
  simp only [Analyzer.plainUseCase, Analyzer.useCase, all]

end UseCase

end SnippetCost
