import SnippetCost.Proofs.Analyzer.Honest

/-!
# Answers of analyses that share an analyzer

Whatever turns the analyses of a batch and callers from elsewhere take, an analysis that has been
answered has been told the estimate of its own snippet. Turns that finish the batch can be taken from
every state, and taken in the order of the snippets they do what estimating them in order does.

What one turn keeps is `Truthful.step`, and `Truthful.answers?` reads the answers off at the end. That
a batch can be finished is `exists_run_finishAll`. A turn in order leaves `finishAll` alone
(`finishAll_step`), from which `run_eq_analyzeAll` follows. The main results are
`exists_run_eq_analyzeAll` and `answers_eq_ofText`.
-/

namespace SnippetCost

variable [PatternBuilder]

namespace Job

variable {a : Analyzer} {j : Job}

/-- A step of an analysis leaves its snippet as it is. -/
lemma advance_text (j : Job) (a : Analyzer) : (j.advance a).1.text = j.text := by
  rw [advance]
  cases j.progress with
  | waiting => rcases a.lookUp j.text with ⟨_ | e, b⟩ <;> rfl
  | missed => rfl
  | answered e => rfl

/-- A use of an honest cache keeps the cache honest and the answer true. -/
lemma IsTruthful.advance (h : j.IsTruthful) (honest : a.Honest) :
    (j.advance a).1.IsTruthful ∧ (j.advance a).2.Honest := by
  rw [Job.advance]
  cases hp : j.progress with
  | waiting =>
    obtain ⟨after, found⟩ := honest.lookUp j.text
    dsimp only
    cases hl : a.lookUp j.text with
    | mk answer b =>
      rw [hl] at after found
      cases answer with
      | none =>
        refine ⟨?_, after⟩
        intro e he
        cases he
      | some r =>
        refine ⟨?_, after⟩
        intro e he
        cases he
        exact found r rfl
  | missed =>
    refine ⟨?_, honest.keep j.text⟩
    intro e he
    cases he
    rfl
  | answered r => exact ⟨h, honest⟩

/-- Use the cache as often as an analysis may need it. -/
def finish (j : Job) (a : Analyzer) : Job × Analyzer :=
  (j.advance a).1.advance (j.advance a).2

/-- An analysis is answered behind two uses of the cache. -/
lemma finish_answered (j : Job) (a : Analyzer) : (j.finish a).1.answer?.isSome := by
  have answered : ∀ (j : Job) (a : Analyzer), j.progress ≠ .waiting →
      (j.advance a).1.answer?.isSome := by
    intro j a ne
    rw [advance]
    cases hp : j.progress with
    | waiting => exact absurd hp ne
    | missed => rfl
    | answered e => simp [answer?, hp]
  apply answered
  rw [advance]
  cases hp : j.progress with
  | waiting => rcases a.lookUp j.text with ⟨_ | e, b⟩ <;> exact nofun
  | missed => exact nofun
  | answered e => simp [hp]

/-- An analysis that has been answered uses the cache no more. -/
lemma advance_of_answered (answered : j.answer?.isSome) (a : Analyzer) : j.advance a = (j, a) := by
  rw [advance]
  cases hp : j.progress with
  | waiting => simp [answer?, hp] at answered
  | missed => simp [answer?, hp] at answered
  | answered e => rfl

end Job

namespace Crew

/-- What holds of a batch in every state: the cache is honest, the snippets are those of the batch in
their order, and the answers are true. -/
structure Truthful (ts : List Text) (c : Crew) : Prop where
  honest : c.analyzer.Honest
  texts : c.jobs.map Job.text = ts
  jobs : ∀ j ∈ c.jobs, j.IsTruthful

variable {ts : List Text} {c : Crew}

omit [PatternBuilder] in
/-- The analyses that start are those of the snippets, in their order. -/
lemma texts_start (a : Analyzer) (ts : List Text) : (Crew.start a ts).jobs.map Job.text = ts := by
  rw [Crew.start, List.map_map]
  exact List.map_id ts

/-- Analyses that start on an honest analyzer have been told nothing wrong. -/
lemma Truthful.start {a : Analyzer} (h : a.Honest) (ts : List Text) :
    (Crew.start a ts).Truthful ts where
  honest := h
  texts := texts_start a ts
  jobs := by
    intro j hj e he
    obtain ⟨t, _, rfl⟩ := List.mem_map.1 hj
    cases he

/-- No turn changes a snippet. -/
lemma texts_step (c : Crew) (turn : Turn) : (c.step turn).jobs.map Job.text = c.jobs.map Job.text := by
  cases turn with
  | other x => rfl
  | job i =>
    rw [Crew.step]
    cases hi : c.jobs[i]? with
    | none => rfl
    | some j =>
      dsimp only
      split
      · have same : (c.jobs.map Job.text)[i]? = some (j.advance c.analyzer).1.text := by
          rw [List.getElem?_map, hi, Job.advance_text]
          rfl
        obtain ⟨lt, e⟩ := List.getElem?_eq_some_iff.1 same
        rw [List.map_set, ← e, List.set_getElem_self]
      · rfl

/-- One turn keeps a batch truthful. -/
lemma Truthful.step (h : c.Truthful ts) (turn : Turn) : (c.step turn).Truthful ts := by
  suffices rest : (c.step turn).analyzer.Honest ∧ ∀ j ∈ (c.step turn).jobs, j.IsTruthful from
    ⟨rest.1, (c.texts_step turn).trans h.texts, rest.2⟩
  cases turn with
  | other x => exact ⟨h.honest.access x, h.jobs⟩
  | job i =>
    rw [Crew.step]
    cases hi : c.jobs[i]? with
    | none => exact ⟨h.honest, h.jobs⟩
    | some j =>
      dsimp only
      split
      · have mem := List.mem_of_getElem? hi
        obtain ⟨truthful, honest⟩ := (h.jobs j mem).advance h.honest
        refine ⟨honest, ?_⟩
        -- only the analysis whose turn it is changes
        intro k hk
        rcases List.mem_or_eq_of_mem_set hk with hk | rfl
        · exact h.jobs k hk
        · exact truthful
      · exact ⟨h.honest, h.jobs⟩

/-- No turns make a truthful crew lie. -/
lemma Truthful.run (h : c.Truthful ts) (turns : List Turn) : (c.run turns).Truthful ts := by
  induction turns generalizing c with
  | nil => exact h
  | cons turn turns ih => exact ih (h.step turn)

/-- The answers of truthful analyses are missing or are the estimates of their snippets. -/
lemma mapM_answer? {js : List Job} (truthful : ∀ j ∈ js, j.IsTruthful) :
    js.mapM Job.answer? = none ∨
      js.mapM Job.answer? = some ((js.map Job.text).map Estimate.ofText) := by
  induction js with
  | nil => exact .inr rfl
  | cons j js ih =>
    obtain ⟨hj, truthful⟩ := List.forall_mem_cons.1 truthful
    rw [List.mapM_cons]
    cases answer : j.answer? with
    | none => exact .inl rfl
    | some e =>
      rcases ih truthful with unfinished | all
      · rw [unfinished]
        exact .inl rfl
      · rw [all, List.map_cons, List.map_cons, ← hj e answer]
        exact .inr rfl

/-- The answers of a batch, once all are there, are the estimates of its snippets in their order. -/
lemma Truthful.answers? (h : c.Truthful ts) :
    c.answers? = none ∨ c.answers? = some (ts.map Estimate.ofText) := by
  rw [Crew.answers?, ← h.texts]
  exact mapM_answer? h.jobs

omit [PatternBuilder] in
/-- A batch is answered when all of its analyses are. -/
lemma mapM_answer?_isSome {js : List Job} :
    (js.mapM Job.answer?).isSome ↔ ∀ j ∈ js, j.answer?.isSome := by
  induction js with
  | nil => simp
  | cons j js ih =>
    rw [List.mapM_cons, List.forall_mem_cons, ← ih]
    cases j.answer? with
    | none => simp
    | some e => cases js.mapM Job.answer? <;> simp

/-- Finish analyses in order. -/
def finishAll (a : Analyzer) : List Job → List Job × Analyzer
  | [] => ([], a)
  | j :: js =>
    let (j, a) := j.finish a
    let (js, a) := finishAll a js
    (j :: js, a)

/-- Finishing all analyses leaves none without an answer. -/
lemma finishAll_answered (a : Analyzer) (js : List Job) :
    ∀ j ∈ (finishAll a js).1, j.answer?.isSome := by
  induction js generalizing a with
  | nil =>
    intro j hj
    cases hj
  | cons j js ih => exact List.forall_mem_cons.2 ⟨j.finish_answered a, ih _⟩

omit [PatternBuilder] in
/-- An analysis stands behind as many others as its number tells. -/
lemma exists_jobs_eq {i : Nat} {j : Job} (found : c.jobs[i]? = some j) :
    ∃ before after, c.jobs = before ++ j :: after ∧ before.length = i := by
  obtain ⟨lt, rfl⟩ := List.getElem?_eq_some_iff.1 found
  obtain ⟨before, after, e, length, -⟩ := @List.exists_of_set Job i c.jobs[i] c.jobs lt
  exact ⟨before, after, e, length⟩

omit [PatternBuilder] in
/-- The analysis behind others is the one that their number tells. -/
lemma getElem?_jobs {before after : List Job} {j : Job} (hc : c.jobs = before ++ j :: after) :
    c.jobs[before.length]? = some j := by
  rw [hc, List.getElem?_append_right (Nat.le_refl _), Nat.sub_self]
  rfl

/-- The turn of an analysis that need not wait changes that analysis and the analyzer, and leaves the
others alone. -/
lemma step_at {before after : List Job} {j : Job} (hc : c.jobs = before ++ j :: after)
    (may : c.mayAdvance before.length) :
    c.step (.job before.length) = { c with
      analyzer := (j.advance c.analyzer).2
      jobs := before ++ (j.advance c.analyzer).1 :: after } := by
  have set : ∀ k, c.jobs.set before.length k = before ++ k :: after := by
    intro k
    rw [hc, List.set_append_right _ _ (Nat.le_refl _), Nat.sub_self]
    rfl
  simp only [step, getElem?_jobs hc, may, if_pos, set]

/-- Two turns in a row let an analysis use the cache as often as it may need it. -/
lemma step_twice {before after : List Job} {j : Job} (hc : c.jobs = before ++ j :: after)
    (may : c.mayAdvance before.length) :
    (c.step (.job before.length)).step (.job before.length) = { c with
      analyzer := (j.finish c.analyzer).2
      jobs := before ++ (j.finish c.analyzer).1 :: after } := by
  have may' : (c.step (.job before.length)).mayAdvance before.length := by
    rw [mayAdvance, hc, List.take_left] at may
    rw [step_at hc (by rw [mayAdvance, hc, List.take_left, may]), mayAdvance, List.take_left]
    exact may
  have first := step_at hc may
  rw [step_at (congrArg Crew.jobs first) may', first]
  rfl

/-- The turn of an analysis passes if there is none or it has to wait, and else is taken by it. -/
lemma step_job_cases (c : Crew) (i : Nat) :
    (c.step (.job i) = c ∧ ∀ j, c.jobs[i]? = some j → c.mayAdvance i = false) ∨
      ∃ before j after, c.jobs = before ++ j :: after ∧ before.length = i ∧ c.mayAdvance i := by
  rw [step]
  cases hi : c.jobs[i]? with
  | none => exact .inl ⟨rfl, nofun⟩
  | some j =>
    dsimp only
    split
    · next may =>
      obtain ⟨before, after, e, length⟩ := exists_jobs_eq hi
      exact .inr ⟨before, j, after, e, length, may⟩
    · next wait => exact .inl ⟨rfl, fun _ _ => Bool.eq_false_iff.2 wait⟩

omit [PatternBuilder] in
/-- Behind analyses that are answered the next one may always go on. -/
lemma mayAdvance_of_answered {done rest : List Job} (answered : ∀ k ∈ done, k.answer?.isSome)
    (hc : c.jobs = done ++ rest) : c.mayAdvance done.length := by
  rw [mayAdvance, hc, List.take_left, List.all_eq_true.2 answered, Bool.or_true]

/-- There are turns that finish the analyses behind those that are answered, one after another. -/
lemma exists_run_finishAll {done rest : List Job} (answered : ∀ k ∈ done, k.answer?.isSome)
    (hc : c.jobs = done ++ rest) :
    ∃ order, c.run (Turn.inTurn order) = { c with
      analyzer := (finishAll c.analyzer rest).2
      jobs := done ++ (finishAll c.analyzer rest).1 } := by
  induction rest generalizing c done with
  | nil =>
    refine ⟨[], ?_⟩
    rw [finishAll, ← hc]
    rfl
  | cons j rest ih =>
    have both := step_twice hc (mayAdvance_of_answered answered hc)
    -- the analysis has had its two turns, and the others go on behind it
    have answered' : ∀ k ∈ done ++ [(j.finish c.analyzer).1], k.answer?.isSome := by
      refine List.forall_mem_append.2 ⟨answered, ?_⟩
      intro k hk
      rw [List.mem_singleton.1 hk]
      exact j.finish_answered c.analyzer
    have hc' : ((c.step (.job done.length)).step (.job done.length)).jobs =
        (done ++ [(j.finish c.analyzer).1]) ++ rest := by
      rw [both, List.append_assoc]
      rfl
    obtain ⟨order, e⟩ := ih answered' hc'
    refine ⟨done.length :: order, ?_⟩
    rw [Turn.inTurn, List.flatMap_cons, ← Turn.inTurn, List.cons_append, List.cons_append,
      List.nil_append, run, List.foldl_cons, List.foldl_cons, ← run, e, both,
      List.append_assoc]
    rfl

/-- Some order of the analyses of a crew finishes them one after another. -/
lemma exists_run_finishAll_jobs (c : Crew) :
    ∃ order, c.run (Turn.inTurn order) = { c with
      analyzer := (finishAll c.analyzer c.jobs).2
      jobs := (finishAll c.analyzer c.jobs).1 } := by
  have noJob : ∀ k ∈ ([] : List Job), k.answer?.isSome := by
    intro k hk
    cases hk
  have hc : c.jobs = [] ++ c.jobs := rfl
  exact exists_run_finishAll noJob hc

/-- A batch can be finished from every state. -/
lemma Truthful.exists_answers? (h : c.Truthful ts) :
    ∃ more, (c.run more).answers? = some (ts.map Estimate.ofText) := by
  obtain ⟨order, e⟩ := exists_run_finishAll_jobs c
  have answered : (c.run (Turn.inTurn order)).answers?.isSome := by
    rw [Crew.answers?, e]
    exact mapM_answer?_isSome.2 (finishAll_answered c.analyzer c.jobs)
  refine ⟨Turn.inTurn order, ?_⟩
  rcases (h.run (Turn.inTurn order)).answers? with unfinished | all
  · rw [unfinished] at answered
    cases answered
  · exact all

omit [PatternBuilder] in
/-- Where analyses have to wait, those before one that need not are answered. -/
lemma answered_of_mayAdvance {before after : List Job} {j : Job} (ordered : c.inOrder)
    (hc : c.jobs = before ++ j :: after) (may : c.mayAdvance before.length) :
    ∀ k ∈ before, k.answer?.isSome := by
  rw [mayAdvance, ordered, hc, List.take_left, Bool.not_true, Bool.false_or] at may
  exact List.all_eq_true.1 may

end Crew

namespace Analyzer

variable {a : Analyzer}

/-- The crew of an episode starts truthful if the analyzer is honest. -/
lemma Honest.crewOf (h : a.Honest) (e : Episode) : (a.crewOf e).Truthful e.snippets :=
  (Crew.Truthful.start h e.snippets).run e.turns

/-- An honest analyzer is honest behind any episodes. -/
lemma Honest.afterAll (h : a.Honest) (es : List Episode) : (a.afterAll es).Honest := by
  induction es generalizing a with
  | nil => exact h
  | cons e es ih => exact ih (h.crewOf e).honest

/-- The cache shows in no answer, whatever the settings. Calls one after another are answered by the
estimates of their snippets, in order, whether several snippets are asked for at once or one by one.
And if the analyses of a batch and callers from elsewhere take their turns in any order, after any
episodes of that kind, those that have been answered have been told the estimates, and all can be. -/
theorem answers_eq_ofText (s : Settings) :
    (∀ calls, List.Forall₂ Call.Answered calls (useCase.respondAll (.ofSettings s) calls).1) ∧
    (∀ calls, List.Forall₂ Call.Answered calls (plainUseCase.respondAll (.ofSettings s) calls).1) ∧
    ∀ (past : List Episode) (e : Episode),
      let crew := ((Analyzer.ofSettings s).afterAll past).crewOf e
      crew.jobs.map Job.text = e.snippets ∧ (∀ j ∈ crew.jobs, j.IsTruthful) ∧
        (crew.answers? = none ∨ crew.answers? = some (e.snippets.map Estimate.ofText)) ∧
        ∃ more, (crew.run more).answers? = some (e.snippets.map Estimate.ofText) := by
  have honest := Honest.ofSettings s
  refine ⟨UseCase.useCase_respondAll honest, ?_, ?_⟩
  · rw [UseCase.plainUseCase_eq]
    exact UseCase.useCase_respondAll honest
  · intro past e
    have truthful := (honest.afterAll past).crewOf e
    exact ⟨truthful.texts, truthful.jobs, truthful.answers?, truthful.exists_answers?⟩

end Analyzer

end SnippetCost
