import Mathlib.Tactic.Lemma
import SnippetCost.Nesting.Open

/-!
# What a scan keeps

What one line can do to a scan, and what every run of lines keeps: the columns of the open loops
descend strictly, their number is the depth, and the depth never exceeds the deepest one. A line
leaves alone the loops that are open to the left of it.

What a line does is `feed_insignificant`, `feed_header` or `feed_plain`. The invariant is
`NestingScan.Sound`, kept by `Sound.feed` and `Sound.feedAll`; what stands to the left of a line is
kept by `feed_columns_left` and `feedAll_columns_left`.
-/

namespace SnippetCost

section DropWhile

variable {α : Type} {p q : α → Bool} {l : List α}

/-- Dropping by a weaker condition may start with dropping by a stronger one. -/
lemma dropWhile_dropWhile_of_imp (h : ∀ a, p a → q a) (l : List α) :
    (l.dropWhile p).dropWhile q = l.dropWhile q := by
  induction l with
  | nil => rfl
  | cons a l ih =>
    by_cases hp : p a
    · have hq := h a hp
      rw [List.dropWhile_cons_of_pos hp, List.dropWhile_cons_of_pos hq]
      exact ih
    · rw [List.dropWhile_cons_of_neg hp]

/-- Predicates that agree on a list drop the same of it. -/
lemma dropWhile_congr (h : ∀ x ∈ l, p x = q x) : l.dropWhile p = l.dropWhile q := by
  induction l with
  | nil => rfl
  | cons x l ih =>
    obtain ⟨hx, h⟩ := List.forall_mem_cons.1 h
    rw [List.dropWhile_cons, List.dropWhile_cons, hx, ih h]

/-- Nothing is dropped where the predicate holds nowhere. -/
lemma dropWhile_of_forall (h : ∀ c ∈ l, p c = false) : l.dropWhile p = l := by
  cases l with
  | nil => rfl
  | cons c l => exact List.dropWhile_cons_of_neg (by simp [h c List.mem_cons_self])

/-- In a descending list, what is left when the numbers from a bound on are dropped lies below it. -/
lemma lt_of_mem_dropWhile {l : List Nat} (desc : l.Pairwise (· > ·)) {bound c : Nat}
    (mem : c ∈ l.dropWhile (bound ≤ ·)) : c < bound := by
  induction l with
  | nil => cases mem
  | cons d l ih =>
    obtain ⟨below, desc⟩ := List.pairwise_cons.1 desc
    by_cases h : bound ≤ d
    · rw [List.dropWhile_cons_of_pos (by simpa using h)] at mem
      exact ih desc mem
    · rw [List.dropWhile_cons_of_neg (by simpa using h)] at mem
      rcases List.mem_cons.1 mem with rfl | mem
      · omega
      · have := below c mem
        omega

end DropWhile

namespace NestingScan

/-- Closing loops drops their columns. -/
@[simp]
lemma closeWhile_columns (p : Nat → Bool) (s : NestingScan) :
    (s.closeWhile p).columns = s.columns.dropWhile p := rfl

/-- Closing loops leaves the deepest depth as it is. -/
@[simp]
lemma closeWhile_deepest (p : Nat → Bool) (s : NestingScan) :
    (s.closeWhile p).deepest = s.deepest := rfl

/-- A loop that is opened is the innermost. -/
@[simp]
lemma openAt_columns (column : Nat) (s : NestingScan) :
    (s.openAt column).columns = column :: s.columns := rfl

/-- Opening a loop may make the deepest depth larger. -/
@[simp]
lemma openAt_deepest (column : Nat) (s : NestingScan) :
    (s.openAt column).deepest = max s.deepest (s.depth + 1) := rfl

/-- A line that says nothing changes nothing. -/
lemma feed_insignificant {s : NestingScan} {line : Text} (h : Text.isSignificant line = false) :
    s.feed line = s := by
  simp [feed, h]

/-- A loop header closes the loops at its column and beyond, and opens its own. -/
lemma feed_header {s : NestingScan} {line : Text} (sig : Text.isSignificant line)
    (opens : Text.opensLoop line) :
    s.feed line =
      (s.closeWhile (Text.indentation line ≤ ·)).openAt (Text.indentation line) := by
  simp [feed, sig, opens]

/-- Any other line closes the loops beyond its column. -/
lemma feed_plain {s : NestingScan} {line : Text} (sig : Text.isSignificant line)
    (plain : Text.opensLoop line = false) :
    s.feed line = s.closeWhile (Text.indentation line < ·) := by
  simp [feed, sig, plain]

/-- Without lines nothing changes. -/
@[simp]
lemma feedAll_nil (s : NestingScan) : s.feedAll [] = s := rfl

/-- Lines are read from the first on. -/
@[simp]
lemma feedAll_cons (s : NestingScan) (line : Text) (lines : List Text) :
    s.feedAll (line :: lines) = (s.feed line).feedAll lines := rfl

/-- Lines behind others are read after them. -/
@[simp]
lemma feedAll_append (s : NestingScan) (lines more : List Text) :
    s.feedAll (lines ++ more) = (s.feedAll lines).feedAll more :=
  List.foldl_append

/-- A new scan is sound. -/
lemma Sound.start : Sound .start where
  descending := .nil
  depth_eq := rfl
  depth_le := Nat.le_refl 0

/-- Closing loops keeps a scan sound: the depth falls by as many as are closed. -/
lemma Sound.closeWhile {s : NestingScan} (h : s.Sound) (p : Nat → Bool) :
    (s.closeWhile p).Sound where
  descending := h.descending.sublist (List.dropWhile_sublist p)
  depth_eq := by
    -- the depth falls by the number of columns that are dropped
    have len := congrArg List.length (List.takeWhile_append_dropWhile (p := p) (l := s.columns))
    rw [List.length_append] at len
    have depth := h.depth_eq
    simp only [NestingScan.closeWhile]
    omega
  depth_le := by
    have le := h.depth_le
    simp only [NestingScan.closeWhile]
    omega

/-- Opening a loop to the right of all open ones keeps a scan sound. -/
lemma Sound.openAt {s : NestingScan} (h : s.Sound) {column : Nat}
    (right : ∀ c ∈ s.columns, c < column) : (s.openAt column).Sound where
  descending := .cons right h.descending
  depth_eq := by
    have depth := h.depth_eq
    simp only [NestingScan.openAt, List.length_cons]
    omega
  depth_le := Nat.le_max_right _ _

/-- One line keeps a scan sound. -/
lemma Sound.feed {s : NestingScan} (h : s.Sound) (line : Text) : (s.feed line).Sound := by
  by_cases sig : Text.isSignificant line
  · by_cases opens : Text.opensLoop line
    · rw [feed_header sig opens]
      exact (h.closeWhile _).openAt fun c mem => lt_of_mem_dropWhile h.descending mem
    · rw [feed_plain sig (by simpa using opens)]
      exact h.closeWhile _
  · rw [feed_insignificant (by simpa using sig)]
    exact h

/-- A scan that is sound is sound behind any lines. -/
lemma Sound.feedAll {s : NestingScan} (h : s.Sound) (lines : List Text) :
    (s.feedAll lines).Sound := by
  induction lines generalizing s with
  | nil => exact h
  | cons line lines ih => exact ih (h.feed line)

/-- A line leaves alone the loops that are open at columns to the left of it. -/
lemma feed_columns_left {s : NestingScan} {line : Text} {column : Nat}
    (right : column < Text.indentation line) :
    (s.feed line).columns.dropWhile (column < ·) = s.columns.dropWhile (column < ·) := by
  by_cases sig : Text.isSignificant line
  · by_cases opens : Text.opensLoop line
    · -- the column of the header itself lies to the right, and is dropped first
      rw [feed_header sig opens, openAt_columns, closeWhile_columns,
        List.dropWhile_cons_of_pos (by simpa using right)]
      apply dropWhile_dropWhile_of_imp
      intro c le
      simp only [decide_eq_true_eq] at le ⊢
      omega
    · rw [feed_plain sig (by simpa using opens), closeWhile_columns]
      apply dropWhile_dropWhile_of_imp
      intro c lt
      simp only [decide_eq_true_eq] at lt ⊢
      omega
  · rw [feed_insignificant (by simpa using sig)]

/-- Lines to the right of a column leave the loops up to it open. -/
lemma feedAll_columns_left {s : NestingScan} {lines : List Text} {column : Nat}
    (right : ∀ line ∈ lines, column < Text.indentation line) :
    (s.feedAll lines).columns.dropWhile (column < ·) = s.columns.dropWhile (column < ·) := by
  induction lines generalizing s with
  | nil => rfl
  | cons line lines ih =>
    obtain ⟨first, right⟩ := List.forall_mem_cons.1 right
    rw [feedAll_cons, ih right, feed_columns_left first]

end NestingScan

end SnippetCost
