import Mathlib.Data.List.Induction
import Mathlib.Order.Bounds.Basic
import Mathlib.Order.MinMax
import SnippetCost.Nesting.Open
import SnippetCost.Proofs.Nesting.Line

/-!
# The loops that a scan holds open

A scan closes loops once and for all, and counts apart how many are open. Still it holds open just
the loops that no line behind their headers closes, in their order, so its depth can be told from the
lines without following the scan, and the deepest one is the largest over all beginnings of the
lines.

`feedAll_columns` tells the columns of a scan from the lines, `feedAll_depth` the depth, and
`isGreatest_deepest` the deepest depth. The main result is `depth_eq_openLoops`.
-/

namespace SnippetCost

/-- In a list where nothing to be dropped stands behind anything to be kept, dropping from the front
is dropping everywhere. -/
lemma dropWhile_eq_filter {α : Type} {r : α → α → Prop} {drops keeps : α → Bool} {l : List α}
    (ordered : l.Pairwise r) (front : ∀ a b, r a b → drops b → drops a)
    (other : ∀ a, keeps a = !drops a) : l.dropWhile drops = l.filter keeps := by
  induction l with
  | nil => rfl
  | cons a l ih =>
    obtain ⟨first, ordered⟩ := List.pairwise_cons.1 ordered
    by_cases h : drops a
    · rw [List.dropWhile_cons_of_pos h, List.filter_cons_of_neg (by simp [other, h])]
      exact ih ordered
    · have all : ∀ b ∈ a :: l, keeps b := by
        intro b mem
        rw [other]
        rcases List.mem_cons.1 mem with rfl | mem
        · simpa using h
        · simpa using fun hb => h (front a b (first b mem) hb)
      rw [List.dropWhile_cons_of_neg h, List.filter_eq_self.2 all]

/-- The columns of the loops that stay open, the innermost first. -/
def openColumns : List Text → List Nat
  | [] => []
  | header :: later =>
    if Text.staysOpen header later then openColumns later ++ [Text.indentation header]
    else openColumns later

/-- The columns of the open loops are as many as the open loops. -/
lemma length_openColumns (lines : List Text) : (openColumns lines).length = openLoops lines := by
  induction lines with
  | nil => rfl
  | cons header later ih =>
    rw [openColumns, openLoops]
    split
    · rw [List.length_append, List.length_singleton, ih]
    · exact ih

/-- One line more opens a loop at most, and closes those that it does not leave open. -/
lemma openColumns_append_singleton (lines : List Text) (line : Text) :
    openColumns (lines ++ [line]) =
      (if Text.opensLoop line then [Text.indentation line] else []) ++
        (openColumns lines).filter (fun column => Text.leavesOpen column line) := by
  induction lines with
  | nil => simp [openColumns, Text.staysOpen]
  | cons header later ih =>
    have stays : Text.staysOpen header (later ++ [line]) =
        (Text.staysOpen header later && Text.leavesOpen (Text.indentation header) line) := by
      simp [Text.staysOpen, Bool.and_assoc]
    rw [List.cons_append, openColumns, openColumns, stays, ih]
    by_cases before : Text.staysOpen header later
    · by_cases leaves : Text.leavesOpen (Text.indentation header) line <;>
        simp [before, leaves, List.filter_append]
    · simp [before]

namespace NestingScan

/-- The columns behind a line are those before it that the line leaves open, and its own if it opens
a loop. -/
lemma Sound.feed_columns {s : NestingScan} (h : s.Sound) (line : Text) :
    (s.feed line).columns =
      (if Text.opensLoop line then [Text.indentation line] else []) ++
        s.columns.filter (fun column => Text.leavesOpen column line) := by
  by_cases sig : Text.isSignificant line
  · by_cases opens : Text.opensLoop line
    · have closed : s.columns.dropWhile (Text.indentation line ≤ ·) =
          s.columns.filter (fun column => Text.leavesOpen column line) := by
        apply dropWhile_eq_filter h.descending
        · simp only [decide_eq_true_eq]
          omega
        · simp [Text.leavesOpen, sig, opens, ← decide_not]
      rw [feed_header sig opens, openAt_columns, closeWhile_columns, closed, if_pos opens]
      rfl
    · have closed : s.columns.dropWhile (Text.indentation line < ·) =
          s.columns.filter (fun column => Text.leavesOpen column line) := by
        apply dropWhile_eq_filter h.descending
        · simp only [decide_eq_true_eq]
          omega
        · simp [Text.leavesOpen, sig, opens, ← decide_not]
      rw [feed_plain sig (by simpa using opens), closeWhile_columns, closed, if_neg opens]
      rfl
  · have plain : ¬ Text.opensLoop line := fun opens => sig (Text.isSignificant_of_opensLoop opens)
    have all : ∀ column ∈ s.columns, Text.leavesOpen column line := by
      intro column _
      rw [Text.leavesOpen, if_neg sig]
    rw [feed_insignificant (by simpa using sig), if_neg plain, List.filter_eq_self.2 all]
    rfl

/-- A scan from the start holds open what stays open. -/
lemma feedAll_columns (lines : List Text) :
    (start.feedAll lines).columns = openColumns lines := by
  induction lines using List.reverseRecOn with
  | nil => rfl
  | append_singleton lines line ih =>
    have sound := Sound.start.feedAll lines
    rw [feedAll_append, feedAll_cons, feedAll_nil, sound.feed_columns, ih,
      openColumns_append_singleton]

/-- The depth of a scan is the number of the loops that are open. -/
lemma feedAll_depth (lines : List Text) : (start.feedAll lines).depth = openLoops lines := by
  rw [(Sound.start.feedAll lines).depth_eq, feedAll_columns, length_openColumns]

/-- The deepest depth takes in the depth behind each line. -/
lemma Sound.feed_deepest {s : NestingScan} (h : s.Sound) (line : Text) :
    (s.feed line).deepest = max s.deepest (s.feed line).depth := by
  have le := h.depth_le
  by_cases sig : Text.isSignificant line
  · by_cases opens : Text.opensLoop line
    · rw [feed_header sig opens]
      rfl
    · rw [feed_plain sig (by simpa using opens)]
      exact (max_eq_left ((Nat.sub_le _ _).trans le)).symm
  · rw [feed_insignificant (by simpa using sig)]
    exact (max_eq_left le).symm

/-- The deepest depth of a scan is the largest that it has come to. -/
lemma isGreatest_deepest (lines : List Text) :
    IsGreatest {n | ∃ before, before <+: lines ∧ (start.feedAll before).depth = n}
      (start.feedAll lines).deepest := by
  induction lines using List.reverseRecOn with
  | nil =>
    refine ⟨⟨[], List.nil_prefix, rfl⟩, ?_⟩
    rintro n ⟨before, hb, rfl⟩
    rw [List.prefix_nil.1 hb]
    exact Nat.le_refl 0
  | append_singleton lines line ih =>
    obtain ⟨⟨before, hb, reached⟩, bound⟩ := ih
    have sound := Sound.start.feedAll lines
    rw [feedAll_append, feedAll_cons, feedAll_nil, sound.feed_deepest]
    have last : start.feedAll (lines ++ [line]) = (start.feedAll lines).feed line := by
      rw [feedAll_append, feedAll_cons, feedAll_nil]
    refine ⟨?_, ?_⟩
    · rcases max_cases (start.feedAll lines).deepest ((start.feedAll lines).feed line).depth
        with ⟨e, -⟩ | ⟨e, -⟩
      · rw [e]
        exact ⟨before, hb.trans (List.prefix_append lines [line]), reached⟩
      · rw [e]
        exact ⟨lines ++ [line], List.prefix_rfl, by rw [last]⟩
    · rintro n ⟨other, ho, rfl⟩
      rcases List.prefix_concat_iff.1 ho with rfl | ho
      · rw [last]
        exact le_max_right _ _
      · exact (bound ⟨other, ho, rfl⟩).trans (le_max_left _ _)

/-- The depth behind any lines is the number of those lines that open a loop which no later one
closes, and the depth of the lines is the largest of these numbers over their beginnings. -/
theorem depth_eq_openLoops (lines : List Text) :
    (start.feedAll lines).depth = openLoops lines ∧
      IsGreatest {n | ∃ before, before <+: lines ∧ openLoops before = n}
        (loopDepthOfLines lines) := by
  refine ⟨feedAll_depth lines, ?_⟩
  have greatest := isGreatest_deepest lines
  simp only [feedAll_depth] at greatest
  exact greatest

end NestingScan

end SnippetCost
