import SnippetCost.Proofs.Nesting.Line

/-!
# Scans in lockstep

Two scans that read lines which say the same, at columns that are ordered alike, hold loops open at
the columns of the same lines, and so reach the same depth.

The invariant is `NestingScan.Lockstep`, kept by `Lockstep.closeWhile` and by one line of each scan,
`Lockstep.feed`. The main result is `LinePairs.Ordered.loopDepthOfLines`.
-/

namespace SnippetCost

/-- Lines in pairs that say the same. -/
abbrev LinePairs := List (Text × Text)

/-- The lines of each pair say the same, and their columns are ordered alike. -/
structure LinePairs.Ordered (pairs : LinePairs) : Prop where
  trim_eq : ∀ a ∈ pairs, Text.trim a.1 = Text.trim a.2
  column_lt_iff : ∀ a ∈ pairs, ∀ b ∈ pairs, Text.isSignificant a.1 → Text.isSignificant b.1 →
    (Text.indentation a.1 < Text.indentation b.1 ↔ Text.indentation a.2 < Text.indentation b.2)

namespace NestingScan

/-- Two scans hold open the loops of the same lines, and have seen the same depth. -/
structure Lockstep (pairs : LinePairs) (s t : NestingScan) : Prop where
  left : s.Sound
  right : t.Sound
  columns : ∃ held : LinePairs, (∀ a ∈ held, a ∈ pairs ∧ Text.isSignificant a.1) ∧
    s.columns = held.map (fun a => Text.indentation a.1) ∧
    t.columns = held.map (fun a => Text.indentation a.2)
  deepest : s.deepest = t.deepest

variable {pairs : LinePairs} {s t : NestingScan} {a : Text × Text}

/-- Scans in lockstep have the same depth. -/
lemma Lockstep.depth (h : Lockstep pairs s t) : s.depth = t.depth := by
  obtain ⟨held, _, es, et⟩ := h.columns
  rw [h.left.depth_eq, h.right.depth_eq, es, et, List.length_map, List.length_map]

/-- Closing loops by conditions that agree on the pairs keeps scans in lockstep. -/
lemma Lockstep.closeWhile {p q : Nat → Bool} (h : Lockstep pairs s t)
    (agree : ∀ b ∈ pairs, Text.isSignificant b.1 →
      p (Text.indentation b.1) = q (Text.indentation b.2)) :
    Lockstep pairs (s.closeWhile p) (t.closeWhile q) where
  left := h.left.closeWhile p
  right := h.right.closeWhile q
  columns := by
    obtain ⟨held, mem, es, et⟩ := h.columns
    refine ⟨held.dropWhile (fun b => p (Text.indentation b.1)), ?_, ?_, ?_⟩
    · intro b hb
      exact mem b ((List.dropWhile_sublist _).subset hb)
    · rw [closeWhile_columns, es, List.dropWhile_map]
      rfl
    · have same : ∀ b ∈ held, p (Text.indentation b.1) = q (Text.indentation b.2) := by
        intro b hb
        exact agree b (mem b hb).1 (mem b hb).2
      rw [dropWhile_congr same, closeWhile_columns, et, List.dropWhile_map]
      rfl
  deepest := h.deepest

/-- Scans in lockstep stay so when each reads its line of a pair. -/
lemma Lockstep.feed (ord : pairs.Ordered) (ha : a ∈ pairs) (h : Lockstep pairs s t) :
    Lockstep pairs (s.feed a.1) (t.feed a.2) := by
  have same := ord.trim_eq a ha
  have sig : Text.isSignificant a.1 = Text.isSignificant a.2 := by
    rw [Text.isSignificant_eq, Text.isSignificant_eq, same]
  have opens : Text.opensLoop a.1 = Text.opensLoop a.2 := by
    rw [Text.opensLoop_eq, Text.opensLoop_eq, same]
  cases hsig : Text.isSignificant a.1 with
  | false =>
    rw [feed_insignificant hsig, feed_insignificant (sig ▸ hsig)]
    exact h
  | true =>
    cases hopens : Text.opensLoop a.1 with
    | false =>
      rw [feed_plain hsig hopens, feed_plain (sig ▸ hsig) (opens ▸ hopens)]
      apply h.closeWhile
      intro b hb hbsig
      exact decide_eq_decide.2 (ord.column_lt_iff a ha b hb hsig hbsig)
    | true =>
      have closed := h.closeWhile (p := (Text.indentation a.1 ≤ ·))
        (q := (Text.indentation a.2 ≤ ·)) (by
          intro b hb hbsig
          have lt := ord.column_lt_iff b hb a ha hbsig hsig
          apply decide_eq_decide.2
          omega)
      -- both open a loop at the line of the pair, which is held from now on
      have left := h.left.feed a.1
      have right := h.right.feed a.2
      rw [feed_header hsig hopens] at left ⊢
      rw [feed_header (sig ▸ hsig) (opens ▸ hopens)] at right ⊢
      refine ⟨left, right, ?_, ?_⟩
      · obtain ⟨held, mem, es, et⟩ := closed.columns
        refine ⟨a :: held, List.forall_mem_cons.2 ⟨⟨ha, hsig⟩, mem⟩, ?_, ?_⟩
        · rw [openAt_columns, es]
          rfl
        · rw [openAt_columns, et]
          rfl
      · rw [openAt_deepest, openAt_deepest, closed.deepest, closed.depth]

/-- Scans in lockstep stay so over all lines of some pairs. -/
lemma Lockstep.feedAll (ord : pairs.Ordered) {some : LinePairs} (sub : ∀ a ∈ some, a ∈ pairs)
    (h : Lockstep pairs s t) :
    Lockstep pairs (s.feedAll (some.map Prod.fst)) (t.feedAll (some.map Prod.snd)) := by
  induction some generalizing s t with
  | nil => exact h
  | cons a some ih =>
    obtain ⟨ha, sub⟩ := List.forall_mem_cons.1 sub
    exact ih sub (h.feed ord ha)

/-- Scans start in lockstep. -/
lemma Lockstep.start (pairs : LinePairs) : Lockstep pairs .start .start where
  left := .start
  right := .start
  columns := by
    refine ⟨[], ?_, rfl, rfl⟩
    intro a ha
    cases ha
  deepest := rfl

end NestingScan

/-- Lines in pairs reach the same depth. -/
theorem LinePairs.Ordered.loopDepthOfLines {pairs : LinePairs} (ord : pairs.Ordered) :
    loopDepthOfLines (pairs.map Prod.fst) = loopDepthOfLines (pairs.map Prod.snd) :=
  ((NestingScan.Lockstep.start pairs).feedAll ord fun _ ha => ha).deepest

end SnippetCost
