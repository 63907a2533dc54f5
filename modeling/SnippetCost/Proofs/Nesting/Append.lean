import SnippetCost.Proofs.Nesting.Open

/-!
# Loops one after another

What lines behind other lines add to the depth. The loops open in lines read alone are open as well
when other lines stand before them, and the lines before add at most the loops that they leave open.
A loop header to the left of all loops before it leaves none of them open, so from there on the depth
is counted anew, and loops one after another at the left margin are as deep as the deepest of them.

The count of open loops is followed by `openLoops_le_append` and `openLoops_append_le`, and where the
loops before are closed by `openLoops_append_of_closed`. The bounds on the depth are
`loopDepthOfLines_le_append_left`, `loopDepthOfLines_le_append_right` and
`loopDepthOfLines_append_le`, and the main result is `loopDepthOfLines_append`.
-/

namespace SnippetCost

variable {a b lines later before : List Text} {line header : Text} {column : Nat}

/-- A beginning of joined lists is one of the first, or goes on into the second. -/
lemma prefix_or_exists_append {α : Type} {k l p : List α} (h : p <+: k ++ l) :
    p <+: k ∨ ∃ q, q <+: l ∧ p = k ++ q := by
  rcases List.prefix_or_prefix_of_prefix h (List.prefix_append k l) with inside | ⟨q, rfl⟩
  · exact .inl inside
  · exact .inr ⟨q, (List.prefix_append_right_inj k).1 h, rfl⟩

/-- A line that says nothing leaves every loop open. -/
lemma leavesOpen_of_insignificant (h : Text.isSignificant line = false) (column : Nat) :
    Text.leavesOpen column line := by
  simp [Text.leavesOpen, h]

/-- A loop stays open through lines exactly if it does through both parts of them. -/
lemma staysOpen_append (header : Text) (lines later : List Text) :
    Text.staysOpen header (lines ++ later) =
      (Text.staysOpen header lines && later.all (Text.leavesOpen (Text.indentation header))) := by
  rw [Text.staysOpen, Text.staysOpen, List.all_append, Bool.and_assoc]

/-- The loops of later lines are open whatever stands before them. -/
lemma openLoops_le_append (lines later : List Text) :
    openLoops later ≤ openLoops (lines ++ later) := by
  induction lines with
  | nil => exact Nat.le_refl _
  | cons header lines ih =>
    rw [List.cons_append, openLoops]
    split
    · exact Nat.le_succ_of_le ih
    · exact ih

/-- Later lines open no loops of the lines before them. -/
lemma openLoops_append_le (lines later : List Text) :
    openLoops (lines ++ later) ≤ openLoops lines + openLoops later := by
  induction lines with
  | nil => exact Nat.le_add_left _ _
  | cons header lines ih =>
    rw [List.cons_append, openLoops, openLoops, staysOpen_append]
    by_cases stays : Text.staysOpen header lines
    · rw [stays, Bool.true_and, if_pos rfl]
      split <;> omega
    · have closed : Text.staysOpen header lines = false := by simpa using stays
      rw [closed, Bool.false_and, if_neg Bool.false_ne_true, if_neg Bool.false_ne_true]
      exact ih

/-- Only the later loops are open where each loop before them is closed. -/
lemma openLoops_append_of_closed
    (closed : ∀ header ∈ lines, Text.opensLoop header →
      ∃ line ∈ later, Text.leavesOpen (Text.indentation header) line = false) :
    openLoops (lines ++ later) = openLoops later := by
  induction lines with
  | nil => rfl
  | cons header lines ih =>
    obtain ⟨first, closed⟩ := List.forall_mem_cons.1 closed
    have stays : ¬ Text.staysOpen header (lines ++ later) := by
      intro stays
      rw [staysOpen_append, Bool.and_eq_true, Text.staysOpen, Bool.and_eq_true] at stays
      obtain ⟨⟨opens, -⟩, left⟩ := stays
      obtain ⟨line, mem, closes⟩ := first opens
      rw [List.all_eq_true.1 left line mem] at closes
      cases closes
    rw [List.cons_append, openLoops, if_neg stays, ih closed]

/-- Blank lines and comments behind other lines open and close nothing. -/
lemma openLoops_append_of_insignificant (h : ∀ line ∈ later, Text.isSignificant line = false) :
    openLoops (lines ++ later) = openLoops lines := by
  have none : openLoops later = 0 := by
    induction later with
    | nil => rfl
    | cons line later ih =>
      obtain ⟨first, h⟩ := List.forall_mem_cons.1 h
      have plain : ¬ Text.staysOpen line later := by
        intro stays
        rw [Text.staysOpen, Bool.and_eq_true] at stays
        rw [Text.isSignificant_of_opensLoop stays.1] at first
        cases first
      rw [openLoops, if_neg plain, ih h]
  induction lines with
  | nil => exact none
  | cons header lines ih =>
    have all : later.all (Text.leavesOpen (Text.indentation header)) := by
      rw [List.all_eq_true]
      intro line mem
      exact leavesOpen_of_insignificant (h line mem) _
    rw [List.cons_append, openLoops, openLoops, staysOpen_append, all, Bool.and_true, ih]

/-- A loop header leaves no loop open that does not stand to its left. -/
lemma leavesOpen_eq_false (opens : Text.opensLoop line) (le : Text.indentation line ≤ column) :
    Text.leavesOpen column line = false := by
  have sig := Text.isSignificant_of_opensLoop opens
  rw [Text.leavesOpen, if_pos sig, if_pos opens]
  exact decide_eq_false (Nat.not_lt.2 le)

/-- The depth of lines is at least the number of loops open behind any beginning of them. -/
lemma openLoops_le_loopDepthOfLines (h : before <+: lines) :
    openLoops before ≤ loopDepthOfLines lines := by
  have bound := (NestingScan.isGreatest_deepest lines).2
  exact bound ⟨before, h, NestingScan.feedAll_depth before⟩

/-- The depth of lines is the number of loops open behind some beginning of them. -/
lemma exists_openLoops_eq (lines : List Text) :
    ∃ before, before <+: lines ∧ openLoops before = loopDepthOfLines lines := by
  obtain ⟨before, h, reached⟩ := (NestingScan.isGreatest_deepest lines).1
  exact ⟨before, h, (NestingScan.feedAll_depth before).symm.trans reached⟩

/-- Lines behind others do not lower the depth. -/
lemma loopDepthOfLines_le_append_left (a b : List Text) :
    loopDepthOfLines a ≤ loopDepthOfLines (a ++ b) := by
  obtain ⟨before, h, e⟩ := exists_openLoops_eq a
  rw [← e]
  exact openLoops_le_loopDepthOfLines (h.trans (List.prefix_append a b))

/-- Lines before others do not lower the depth. -/
lemma loopDepthOfLines_le_append_right (a b : List Text) :
    loopDepthOfLines b ≤ loopDepthOfLines (a ++ b) := by
  obtain ⟨before, h, e⟩ := exists_openLoops_eq b
  rw [← e]
  apply (openLoops_le_append a before).trans
  exact openLoops_le_loopDepthOfLines ((List.prefix_append_right_inj a).2 h)

/-- Lines behind other lines add their own depth at most. -/
lemma loopDepthOfLines_append_le (a b : List Text) :
    loopDepthOfLines (a ++ b) ≤ loopDepthOfLines a + loopDepthOfLines b := by
  obtain ⟨before, h, e⟩ := exists_openLoops_eq (a ++ b)
  rw [← e]
  rcases prefix_or_exists_append h with inside | ⟨q, hq, rfl⟩
  · exact Nat.le_add_right_of_le (openLoops_le_loopDepthOfLines inside)
  · apply (openLoops_append_le a q).trans
    apply Nat.add_le_add
    · exact openLoops_le_loopDepthOfLines List.prefix_rfl
    · exact openLoops_le_loopDepthOfLines hq

namespace BeginsWithLoopAt

/-- Lines behind others do not change what these begin with. -/
lemma append (begins : BeginsWithLoopAt column a) (b : List Text) :
    BeginsWithLoopAt column (a ++ b) := by
  obtain ⟨header, first, opens, place⟩ := begins
  refine ⟨header, ?_, opens, place⟩
  rw [List.find?_append, first, Option.some_or]

/-- A beginning of lines that begin with a loop holds its header, or nothing that is significant. -/
lemma beginning_cases (begins : BeginsWithLoopAt column b) (h : before <+: b) :
    (∀ line ∈ before, Text.isSignificant line = false) ∨
      ∃ header ∈ before, Text.opensLoop header ∧ Text.indentation header = column := by
  obtain ⟨header, first, opens, place⟩ := begins
  obtain ⟨rest, rfl⟩ := h
  cases found : before.find? Text.isSignificant with
  | none =>
    left
    intro line mem
    simpa using List.find?_eq_none.1 found line mem
  | some other =>
    right
    rw [List.find?_append, found, Option.some_or, Option.some_inj] at first
    subst first
    exact ⟨other, List.mem_of_find?_eq_some found, opens, place⟩

/-- The depth is counted anew from a loop header on that stands to the right of no loop before it. -/
lemma depth_append (begins : BeginsWithLoopAt column b)
    (right : ∀ header ∈ a, Text.opensLoop header → column ≤ Text.indentation header) :
    loopDepthOfLines (a ++ b) = max (loopDepthOfLines a) (loopDepthOfLines b) := by
  apply Nat.le_antisymm
  · obtain ⟨before, h, e⟩ := exists_openLoops_eq (a ++ b)
    rw [← e]
    rcases prefix_or_exists_append h with inside | ⟨q, hq, rfl⟩
    · exact le_max_of_le_left (openLoops_le_loopDepthOfLines inside)
    · cases begins.beginning_cases hq with
      | inl insignificant =>
        rw [openLoops_append_of_insignificant insignificant]
        exact le_max_of_le_left (openLoops_le_loopDepthOfLines List.prefix_rfl)
      | inr found =>
        -- the header closes all loops that the lines before it have left open
        obtain ⟨header, mem, opens, rfl⟩ := found
        rw [openLoops_append_of_closed]
        · exact le_max_of_le_right (openLoops_le_loopDepthOfLines hq)
        · intro other memOther opensOther
          exact ⟨header, mem, leavesOpen_eq_false opens (right other memOther opensOther)⟩
  · apply max_le
    · exact loopDepthOfLines_le_append_left a b
    · exact loopDepthOfLines_le_append_right a b

/-- Loops one after another at the left margin are as deep as the deepest of them. -/
lemma depth_flatten {groups : List (List Text)}
    (begin : ∀ group ∈ groups, BeginsWithLoopAt 0 group) :
    loopDepthOfLines groups.flatten = (groups.map loopDepthOfLines).foldr max 0 := by
  induction groups with
  | nil => rfl
  | cons group groups ih =>
    obtain ⟨-, begin⟩ := List.forall_mem_cons.1 begin
    rw [List.map_cons, List.foldr_cons, ← ih begin, List.flatten_cons]
    cases groups with
    | nil => simp [loopDepthOfLines, NestingScan.start]
    | cons next groups =>
      have first := (List.forall_mem_cons.1 begin).1
      have begins : BeginsWithLoopAt 0 (next :: groups).flatten := first.append groups.flatten
      exact begins.depth_append fun _ _ _ => Nat.zero_le _

end BeginsWithLoopAt

/-- Lines behind other lines are at least as deep as both and at most as deep as both together. They
are as deep as the deeper ones if the later ones begin with a loop to the right of none before it, so
loops one after another at the left margin are as deep as the deepest of them. -/
theorem loopDepthOfLines_append :
    (∀ a b, max (loopDepthOfLines a) (loopDepthOfLines b) ≤ loopDepthOfLines (a ++ b) ∧
      loopDepthOfLines (a ++ b) ≤ loopDepthOfLines a + loopDepthOfLines b) ∧
    (∀ a b column, BeginsWithLoopAt column b →
      (∀ header ∈ a, Text.opensLoop header → column ≤ Text.indentation header) →
      loopDepthOfLines (a ++ b) = max (loopDepthOfLines a) (loopDepthOfLines b)) ∧
    ∀ groups : List (List Text), (∀ group ∈ groups, BeginsWithLoopAt 0 group) →
      loopDepthOfLines groups.flatten = (groups.map loopDepthOfLines).foldr max 0 := by
  refine ⟨fun a b => ⟨?_, ?_⟩, ?_, ?_⟩
  · apply max_le
    · exact loopDepthOfLines_le_append_left a b
    · exact loopDepthOfLines_le_append_right a b
  · exact loopDepthOfLines_append_le a b
  · intro a b column begins right
    exact begins.depth_append right
  · intro groups begin
    exact BeginsWithLoopAt.depth_flatten begin

/-- Two loops, one within the other. -/
def nestedLoops : List Text :=
  ["  for a in x:", "      while b:", "    c = 1"].map String.toList

/-- A loop behind a blank line and a comment, at the column of the outer one of `nestedLoops`. -/
def loopBehindComment : List Text :=
  ["", "# again", "  for d in y:", " e = 2"].map String.toList

/-- Two loops at the left margin, the second behind a blank line. -/
def loopsAtMargin : List (List Text) :=
  [["for a in x:", "    for b in y:"], ["", "while c:"]].map fun group => group.map String.toList

/-- A loop behind deeper ones does not add to them, at their column or at the left margin. -/
theorem loopDepthOfLines_append_behindComment :
    BeginsWithLoopAt 2 loopBehindComment ∧
      (∀ header ∈ nestedLoops, Text.opensLoop header → 2 ≤ Text.indentation header) ∧
      loopDepthOfLines (nestedLoops ++ loopBehindComment) = 2 ∧
      (∀ group ∈ loopsAtMargin, BeginsWithLoopAt 0 group) ∧
      loopDepthOfLines loopsAtMargin.flatten = 2 := by
  have begins : BeginsWithLoopAt 2 loopBehindComment :=
    ⟨"  for d in y:".toList, by decide, by decide, by decide⟩
  have right : ∀ header ∈ nestedLoops, Text.opensLoop header → 2 ≤ Text.indentation header := by
    decide
  have margin : ∀ group ∈ loopsAtMargin, BeginsWithLoopAt 0 group := by
    refine List.forall_mem_cons.2 ⟨?_, List.forall_mem_singleton.2 ?_⟩
    · exact ⟨"for a in x:".toList, by decide, by decide, by decide⟩
    · exact ⟨"while c:".toList, by decide, by decide, by decide⟩
  refine ⟨begins, right, ?_, margin, ?_⟩
  · rw [loopDepthOfLines_append.2.1 nestedLoops loopBehindComment 2 begins right]
    decide
  · rw [loopDepthOfLines_append.2.2 loopsAtMargin margin]
    decide

end SnippetCost
