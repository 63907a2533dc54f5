import SnippetCost.Analyzer.Service
import SnippetCost.Proofs.Analyzer.Crew
import SnippetCost.Proofs.Cache.Tally

/-!
# What the counts of an analyzer tell

The counts of an analyzer's cache account for the snippets that were analyzed since it was emptied:
each was looked up once, and each text was missed at least once and stored. If there is room for all
texts, a text is only missed once, but for the misses that analyses of a batch repeat. That holds in
whatever order they take their turns.

The invariant of a batch is `Crew.Tallies`. A turn keeps it by `Tallies.begin` and `Tallies.store`, which
tell whether a miss is a repeated one from the snippets that are looked up and not stored yet, and what
it comes to when the batch is finished is the main result, `Tallies.finish`.
-/

namespace SnippetCost

namespace Analyzer

/-- The cache of the analyzer was asked for some texts, some were stored in it, in any order, and so many
misses were repeated ones. -/
def Tallies (room : Nat) (asked : List Text) (stored : Finset Text) (repeated : Nat) (a : Analyzer) :
    Prop :=
  ∃ cache, a.cache = some cache ∧ cache.Tallies room asked stored repeated

variable {room repeated : Nat} {asked pending : List Text} {stored : Finset Text} {a : Analyzer}
  {cache : Cache} {t : Text}

/-- A look-up asks the cache, and counts there. -/
lemma lookUp_eq (hc : a.cache = some cache) (t : Text) :
    a.lookUp t = (cache.find? t, { a with cache := some (cache.get t).2 }) := by
  rw [lookUp, hc]
  simp only [Cache.get_fst]

/-- Keeping an estimate stores it in the cache. -/
lemma keep_cache (hc : a.cache = some cache) (t : Text) (e : Estimate) :
    (a.keep t e).cache = some (cache.put t e) := by
  rw [keep, hc]
  rfl

/-- A look-up asks for one text more, and finds none that was not stored. If all texts that were asked
for are stored or pending, a miss is a repeated one exactly if its text is pending. -/
lemma Tallies.lookUp (h : a.Tallies room asked stored repeated)
    (known : ∀ x ∈ asked, x ∈ stored ∨ x ∈ pending) (old : pending ⊆ asked) (t : Text) :
    (a.lookUp t).2.Tallies room (asked ++ [t]) stored
        (repeated + ((a.lookUp t).1.isNone && pending.contains t).toNat) ∧
      ∀ e, (a.lookUp t).1 = some e → t ∈ stored := by
  obtain ⟨cache, hc, tallies⟩ := h
  rw [lookUp_eq hc]
  refine ⟨⟨_, rfl, ?_⟩, fun e found => tallies.mem_of_find? found⟩
  cases found : cache.find? t with
  | some e => exact tallies.get_of_some found
  | none =>
    refine tallies.get_of_none found ?_
    rw [Cache.toFinset_append_singleton, Option.isNone_none, Bool.true_and, List.contains_iff_mem]
    intro fits
    refine ⟨fun mem => old mem, fun mem => (known t mem).resolve_left fun kept => ?_⟩
    -- there is room for all texts that are stored, so this one would be found
    have room := Finset.card_le_card (tallies.stored_subset.trans (Finset.subset_insert t _))
    exact tallies.find?_ne_none (room.trans fits) kept found

/-- Keeping an estimate of a text that was asked for changes no count. -/
lemma Tallies.keep (h : a.Tallies room asked stored repeated) (mem : t ∈ asked) (e : Estimate) :
    (a.keep t e).Tallies room asked (insert t stored) repeated := by
  obtain ⟨cache, hc, tallies⟩ := h
  exact ⟨_, keep_cache hc t e, tallies.put mem e⟩

/-- In which order texts were asked for does not matter. -/
lemma Tallies.perm (h : a.Tallies room asked stored repeated) {others : List Text}
    (p : asked.Perm others) : a.Tallies room others stored repeated := by
  obtain ⟨cache, hc, tallies⟩ := h
  exact ⟨cache, hc, tallies.perm p⟩

/-- The analysis of a snippet on its own asks for its text, and stores it if it is not found. -/
lemma Tallies.analyze [PatternBuilder] (h : a.Tallies room asked asked.toFinset repeated) (t : Text) :
    (a.analyze t).2.Tallies room (asked ++ [t]) (asked ++ [t]).toFinset repeated := by
  obtain ⟨after, found⟩ := h.lookUp (fun _ mem => .inl (List.mem_toFinset.2 mem))
    (List.nil_subset asked) t
  rw [List.contains_nil, Bool.and_false, Bool.toNat_false, Nat.add_zero] at after
  rw [Analyzer.analyze, Cache.toFinset_append_singleton]
  split
  · next e b he =>
    rw [he] at after found
    rw [Finset.insert_eq_of_mem (found e rfl)]
    exact after
  · next b he =>
    rw [he] at after
    exact after.keep (List.mem_append_right asked List.mem_cons_self) _

end Analyzer

namespace Job

/-- The snippet, if it was looked up. -/
def begun? (j : Job) : Option Text :=
  match j.progress with
  | .waiting => none
  | _ => some j.text

/-- A snippet that was looked up in vain was looked up. -/
lemma begun?_of_missed? {j : Job} {t : Text} (missed : j.missed? = some t) : j.begun? = some t := by
  rw [missed?] at missed
  split at missed
  · next h =>
    rw [begun?, h]
    exact missed
  · cases missed

/-- An analysis that has been answered has looked its snippet up. -/
lemma begun?_of_answered {j : Job} (answered : j.answer?.isSome) : j.begun? = some j.text := by
  rw [begun?]
  cases hp : j.progress with
  | waiting => simp [answer?, hp] at answered
  | missed => rfl
  | answered e => rfl

/-- An analysis that has been answered has no miss left to make good. -/
lemma missed?_of_answered {j : Job} (answered : j.answer?.isSome) : j.missed? = none := by
  rw [missed?]
  cases hp : j.progress with
  | waiting => rfl
  | missed => simp [answer?, hp] at answered
  | answered e => rfl

end Job

namespace Crew

variable {room repeated : Nat} {past ts : List Text} {stored : Finset Text} {t x : Text} {c : Crew}
  {before after jobs : List Job} {j : Job} {f : Job → Option Text}

/-- What is chosen around an element is what is chosen in front of it, of it and behind it. -/
lemma filterMap_middle (f : Job → Option Text) (before after : List Job) (j : Job) :
    (before ++ j :: after).filterMap f =
      before.filterMap f ++ ((f j).toList ++ after.filterMap f) := by
  rw [List.filterMap_append, List.filterMap_cons]
  cases f j <;> rfl

/-- What is chosen around an element is chosen of it or of the others. -/
lemma mem_filterMap_middle :
    x ∈ (before ++ j :: after).filterMap f ↔ f j = some x ∨ x ∈ (before ++ after).filterMap f := by
  simp only [List.mem_filterMap, List.mem_append, List.mem_cons]
  grind

/-- Of analyses that have not started, nothing is chosen that new ones do not have. -/
lemma filterMap_start (fresh : ∀ t, f { text := t } = none) (a : Analyzer) (ts : List Text) :
    (Crew.start a ts).jobs.filterMap f = [] := by
  refine List.filterMap_eq_nil_iff.2 ?_
  intro j mem
  obtain ⟨t, -, rfl⟩ := List.mem_map.1 mem
  exact fresh t

/-- Analyses that have all been answered have looked all their snippets up. -/
lemma begun_of_answered (answered : ∀ j ∈ jobs, j.answer?.isSome) :
    jobs.filterMap Job.begun? = jobs.map Job.text := by
  rw [← List.filterMap_eq_map]
  refine List.filterMap_congr ?_
  intro j mem
  exact Job.begun?_of_answered (answered j mem)

/-- Analyses that have all been answered have no misses left to make good. -/
lemma missed_of_answered (answered : ∀ j ∈ jobs, j.answer?.isSome) :
    jobs.filterMap Job.missed? = [] := by
  refine List.filterMap_eq_nil_iff.2 ?_
  intro j mem
  exact Job.missed?_of_answered (answered j mem)

/-- A snippet that is looked up joins those that were looked up before. -/
lemma perm_begun (past : List Text) {j k : Job} (waits : j.begun? = none)
    (begins : k.begun? = some j.text) :
    ((past ++ (before ++ j :: after).filterMap Job.begun?) ++ [j.text]).Perm
      (past ++ (before ++ k :: after).filterMap Job.begun?) := by
  rw [filterMap_middle, filterMap_middle, waits, begins, Option.toList_none, Option.toList_some,
    List.nil_append, List.singleton_append, ← List.append_assoc, ← List.append_assoc]
  exact (List.perm_append_singleton _ _).trans List.perm_middle.symm

/-- Where the turn of an analysis passes, no miss is repeated. -/
lemma repeatsMiss_of_pass {i : Nat} (pass : ∀ j, c.jobs[i]? = some j → c.mayAdvance i = false) :
    c.repeatsMiss (.job i) = false := by
  rw [repeatsMiss]
  split
  · next found =>
    rw [pass _ found, Bool.false_and, Bool.false_and]
  · rfl

/-- An analysis that has looked its snippet up repeats no miss. -/
lemma repeatsMiss_of_begun (hc : c.jobs = before ++ j :: after) (begun : j.begun?.isSome) :
    c.repeatsMiss (.job before.length) = false := by
  rw [repeatsMiss, getElem?_jobs hc]
  split
  · next same =>
    cases same
    cases begun
  · rfl

/-- An analysis that has not begun repeats a miss if it misses a text that is pending. -/
lemma repeatsMiss_at (hc : c.jobs = before ++ { text := t } :: after)
    (may : c.mayAdvance before.length) :
    c.repeatsMiss (.job before.length) =
      ((c.analyzer.lookUp t).1.isNone && c.missed.contains t) := by
  rw [repeatsMiss, getElem?_jobs hc]
  dsimp only
  rw [may, Bool.true_and]

/-- While a batch is worked on, behind some texts that were asked for before: all that were asked for
are stored or about to be. -/
structure Tallies (room : Nat) (past ts : List Text) (stored : Finset Text) (repeated : Nat)
    (c : Crew) : Prop where
  texts : c.jobs.map Job.text = ts
  tallies : c.analyzer.Tallies room (past ++ c.jobs.filterMap Job.begun?) stored repeated
  asked : ∀ x ∈ past ++ c.jobs.filterMap Job.begun?, x ∈ stored ∨ x ∈ c.missed

/-- A batch starts from the counts of the analyzer. -/
lemma Tallies.start {a : Analyzer} (h : a.Tallies room past past.toFinset repeated)
    (ts : List Text) : (Crew.start a ts).Tallies room past ts past.toFinset repeated := by
  refine ⟨texts_start a ts, ?_, ?_⟩
  · rw [filterMap_start fun _ => rfl, List.append_nil]
    exact h
  · rw [filterMap_start fun _ => rfl, List.append_nil]
    exact fun x mem => .inl (List.mem_toFinset.2 mem)

/-- The turn of an analysis that has not begun looks its snippet up. -/
lemma Tallies.begin [PatternBuilder] (h : c.Tallies room past ts stored repeated)
    (hc : c.jobs = before ++ { text := t } :: after) (may : c.mayAdvance before.length) :
    (c.step (.job before.length)).Tallies room past ts stored
      (repeated + (c.repeatsMiss (.job before.length)).toNat) := by
  have texts := (c.texts_step (.job before.length)).trans h.texts
  have asked := h.asked
  have old : c.missed ⊆ past ++ c.jobs.filterMap Job.begun? := by
    intro x mem
    obtain ⟨j, mem, missed⟩ := List.mem_filterMap.1 mem
    exact List.mem_append_right past (List.mem_filterMap.2 ⟨j, mem, Job.begun?_of_missed? missed⟩)
  obtain ⟨looked, found⟩ := h.tallies.lookUp asked old t
  rw [repeatsMiss_at hc may]
  rw [step_at hc may, Job.advance] at texts ⊢
  rw [missed, hc] at asked
  rw [hc] at looked
  dsimp only at texts ⊢
  cases hl : c.analyzer.lookUp t with
  | mk answer b =>
    rw [hl] at texts looked found
    cases answer with
    | some e =>
      refine ⟨texts, looked.perm (perm_begun past rfl rfl), ?_⟩
      -- what is found was stored
      have old := found e rfl
      simp only [missed, List.mem_append, mem_filterMap_middle, Job.begun?, Job.missed?] at asked ⊢
      grind
    | none =>
      refine ⟨texts, looked.perm (perm_begun past rfl rfl), ?_⟩
      simp only [missed, List.mem_append, mem_filterMap_middle, Job.begun?, Job.missed?] at asked ⊢
      grind

/-- The next turn of an analysis that looked its snippet up in vain stores it. -/
lemma Tallies.store [PatternBuilder] (h : c.Tallies room past ts stored repeated)
    (hc : c.jobs = before ++ { text := t, progress := .missed } :: after)
    (may : c.mayAdvance before.length) :
    (c.step (.job before.length)).Tallies room past ts (insert t stored) repeated := by
  have texts := (c.texts_step (.job before.length)).trans h.texts
  have asked := h.asked
  have tallies := h.tallies
  rw [step_at hc may, Job.advance] at texts ⊢
  rw [missed, hc] at asked
  rw [hc] at tallies
  refine ⟨texts, ?_, ?_⟩
  · have mem : t ∈ past ++
        (before ++ { text := t, progress := .missed } :: after).filterMap Job.begun? :=
      List.mem_append_right past (mem_filterMap_middle.2 (.inl rfl))
    have kept := tallies.keep mem (Estimate.ofText t)
    rw [filterMap_middle] at kept ⊢
    exact kept
  · simp only [missed, List.mem_append, mem_filterMap_middle, Job.begun?, Job.missed?,
      Finset.mem_insert] at asked ⊢
    grind

/-- A turn of an analysis leaves the counts true. -/
lemma Tallies.step [PatternBuilder] (h : c.Tallies room past ts stored repeated) (i : Nat) :
    ∃ stored, (c.step (.job i)).Tallies room past ts stored
      (repeated + (c.repeatsMiss (.job i)).toNat) := by
  rcases step_job_cases c i with ⟨same, pass⟩ | ⟨before, ⟨t, progress⟩, after, hc, rfl, may⟩
  · rw [same, repeatsMiss_of_pass pass]
    exact ⟨stored, h⟩
  cases progress with
  | waiting => exact ⟨stored, h.begin hc may⟩
  | missed =>
    rw [repeatsMiss_of_begun hc rfl]
    exact ⟨_, h.store hc may⟩
  | answered e =>
    have same : c.step (.job before.length) = c := by
      rw [step_at hc may, Job.advance]
      dsimp only
      rw [← hc]
    rw [same, repeatsMiss_of_begun hc rfl]
    exact ⟨stored, h⟩

/-- Turns of the batch's own analyses keep account. -/
lemma Tallies.run [PatternBuilder] (h : c.Tallies room past ts stored repeated) (order : List Nat) :
    ∃ stored, (c.run (order.map Turn.job)).Tallies room past ts stored
      (repeated + c.repeatedMisses (order.map Turn.job)) := by
  induction order generalizing c stored repeated with
  | nil => exact ⟨stored, h⟩
  | cons i order ih =>
    obtain ⟨next, h⟩ := h.step i
    rw [List.map_cons, repeatedMisses, ← Nat.add_assoc]
    exact ih h

/-- Behind a batch all its snippets were asked for and stored. -/
lemma Tallies.finish (h : c.Tallies room past ts stored repeated) (finished : c.answers?.isSome) :
    c.analyzer.Tallies room (past ++ ts) (past ++ ts).toFinset repeated := by
  have answered := mapM_answer?_isSome.1 finished
  have asked := h.asked
  obtain ⟨cache, hc, tallies⟩ := h.tallies
  rw [begun_of_answered answered, h.texts] at tallies asked
  rw [missed, missed_of_answered answered] at asked
  have all : stored = (past ++ ts).toFinset := by
    apply Finset.Subset.antisymm tallies.stored_subset
    intro x mem
    exact (asked x (List.mem_toFinset.1 mem)).resolve_right nofun
  exact ⟨cache, hc, all ▸ tallies⟩

end Crew

end SnippetCost
