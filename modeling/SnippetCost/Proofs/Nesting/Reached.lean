import SnippetCost.Proofs.Nesting.Open

/-!
# What every scan is like

Whatever lines a scan has read, its columns descend strictly, its counter is their number, and the
deepest depth is the largest that it has come to. The counter would stop at zero when a loop is
closed, but it is never zero while a loop is open: each loop that is closed takes exactly one from it.

That each loop is closed alone is `closesEach_closeWhile`, what one line does is `feed_eq`, and the
main result is `reached_sound`.
-/

namespace SnippetCost.NestingScan

variable {p : Nat → Bool} {s : NestingScan} {column : Nat}

/-- Nothing is closed if the innermost loop is to stay open. -/
lemma closeWhile_of_stops (stops : ∀ column ∈ s.columns.head?, p column = false) :
    s.closeWhile p = s := by
  obtain ⟨columns, depth, deepest⟩ := s
  cases columns with
  | nil => rfl
  | cons column columns =>
    have stop : ¬ p column := by simp [stops column rfl]
    simp only [closeWhile, List.dropWhile_cons_of_neg stop, List.takeWhile_cons_of_neg stop,
      List.length_nil, Nat.sub_zero]

/-- If the innermost loop is to be closed, it is closed before the others. -/
lemma closeWhile_of_head? (head : s.columns.head? = some column) (holds : p column) :
    s.closeWhile p = s.closeInnermost.closeWhile p := by
  obtain ⟨columns, depth, deepest⟩ := s
  obtain ⟨columns, rfl⟩ := List.head?_eq_some_iff.1 head
  simp only [closeWhile, closeInnermost, List.tail_cons, List.dropWhile_cons_of_pos holds,
    List.takeWhile_cons_of_pos holds, List.length_cons, Nat.sub_sub, Nat.add_comm]

/-- Where the counter is the number of the columns, closing loops is closing them one at a time. -/
lemma closesEach_closeWhile (counts : s.depth = s.columns.length) (p : Nat → Bool) :
    ClosesEach p s (s.closeWhile p) := by
  induction columns : s.columns generalizing s with
  | nil =>
    have stops : ∀ column ∈ s.columns.head?, p column = false := by simp [columns]
    rw [closeWhile_of_stops stops]
    exact .stop stops
  | cons column rest ih =>
    have head : s.columns.head? = some column := by rw [columns, List.head?_cons]
    have tail : s.closeInnermost.columns = rest := by rw [closeInnermost, columns, List.tail_cons]
    have positive : s.depth = rest.length + 1 := by rw [counts, columns, List.length_cons]
    have falls : s.closeInnermost.depth = rest.length := by
      rw [closeInnermost, positive, Nat.add_sub_cancel]
    by_cases holds : p column
    · rw [closeWhile_of_head? head holds]
      refine .close head holds ?_ (ih ?_ tail)
      · rw [falls, positive]
      · rw [falls, tail]
    · have stops : ∀ column ∈ s.columns.head?, p column = false := by
        rw [head]
        rintro _ ⟨⟩
        simpa using holds
      rw [closeWhile_of_stops stops]
      exact .stop stops

/-- A line closes the loops that it does not leave open, and then opens its own if it has one. -/
lemma feed_eq (s : NestingScan) (line : Text) :
    s.feed line =
      let closed := s.closeWhile fun column => !Text.leavesOpen column line
      if Text.opensLoop line then closed.openAt (Text.indentation line) else closed := by
  by_cases sig : Text.isSignificant line
  · by_cases opens : Text.opensLoop line
    · have closes : (fun column => !Text.leavesOpen column line) =
          (Text.indentation line ≤ ·) := by
        funext column
        simp [Text.leavesOpen, sig, opens, ← decide_not]
      rw [feed_header sig opens, closes, if_pos opens]
    · have closes : (fun column => !Text.leavesOpen column line) =
          (Text.indentation line < ·) := by
        funext column
        simp [Text.leavesOpen, sig, opens, ← decide_not]
      rw [feed_plain sig (by simpa using opens), closes, if_neg opens]
  · have plain : ¬ Text.opensLoop line := fun opens => sig (Text.isSignificant_of_opensLoop opens)
    have closes : s.closeWhile (fun column => !Text.leavesOpen column line) = s :=
      closeWhile_of_stops fun column _ => by simp [Text.leavesOpen, sig]
    rw [feed_insignificant (by simpa using sig), closes, if_neg plain]

/-- Behind any lines the columns of a scan descend strictly from the innermost on, the counter is
their number, and the deepest depth is the largest that the scan has come to. The next line closes
loops one at a time, each of them taking exactly one from the counter, and opens one at most. -/
theorem reached_sound (lines : List Text) :
    (start.feedAll lines).Sound ∧
      IsGreatest {n | ∃ before, before <+: lines ∧ (start.feedAll before).depth = n}
        (start.feedAll lines).deepest ∧
      ∀ line, ∃ closed,
        ClosesEach (fun column => !Text.leavesOpen column line) (start.feedAll lines) closed ∧
        (start.feedAll lines).feed line =
          if Text.opensLoop line then closed.openAt (Text.indentation line) else closed := by
  have sound := Sound.start.feedAll lines
  refine ⟨sound, isGreatest_deepest lines, ?_⟩
  intro line
  exact ⟨_, closesEach_closeWhile sound.depth_eq _, feed_eq _ line⟩

end SnippetCost.NestingScan
