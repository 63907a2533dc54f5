import SnippetCost.Nesting.Layout
import SnippetCost.Proofs.Nesting.Line

/-!
# Loops in laid out programs

A program is a tree of blocks, and its text lays the tree out by indentation. The scan sees the text
only. What it counts on the way to a loop are the loops around it, and also the branches around it
that stand behind a loop of their own block: such a loop has ended, but no line has closed it. Where
no branch with loops in it stands behind a loop, the depth is that of the tree.

What the scan holds open before a block is `NestingScan.Awaits`; it goes through a header by
`Awaits.header`, through a plain line by `Awaits.plain`, and through a branch by `Awaits.branch` and
`Awaits.after_body`. The induction over a laid out block is `LaidOut.feedAll_deepest`, and the main
result is `loopDepth_of_laidOut`.
-/

namespace SnippetCost

namespace Block

/-- The scan counts every loop around a loop. -/
lemma nesting_le_heldNesting (held : Bool) (b : Block) : b.nesting ≤ b.heldNesting held := by
  induction b generalizing held with
  | done => exact Nat.le_refl 0
  | simple _ _ rest ih => exact ih held
  | loop _ _ body rest ihBody ihRest =>
    have inner := ihBody false
    have after := ihRest true
    simp only [nesting, heldNesting]
    omega
  | branch _ _ body rest ihBody ihRest =>
    have inner := ihBody false
    have after := ihRest held
    simp only [nesting, heldNesting]
    omega

/-- In a separated block the scan counts nothing else. A block behind a loop may itself count as
that loop did. -/
lemma heldNesting_le_of_isSeparated {held : Bool} {b : Block} (sep : b.isSeparated held) :
    b.heldNesting held ≤ max b.nesting held.toNat := by
  induction b generalizing held with
  | done => exact Nat.zero_le _
  | simple _ _ rest ih => exact ih sep
  | loop _ _ body rest ihBody ihRest =>
    simp only [isSeparated, Bool.and_eq_true] at sep
    have inner := ihBody sep.1
    have after := ihRest sep.2
    simp only [nesting, heldNesting, Bool.toNat_false, Bool.toNat_true] at inner after ⊢
    omega
  | branch _ _ body rest ihBody ihRest =>
    simp only [isSeparated, Bool.and_eq_true, Bool.or_eq_true, Bool.not_eq_true',
      decide_eq_true_eq] at sep
    obtain ⟨⟨empty, sepBody⟩, sepRest⟩ := sep
    have inner := ihBody sepBody
    have after := ihRest sepRest
    simp only [nesting, heldNesting, Bool.toNat_false] at inner after ⊢
    rcases empty with rfl | empty
    · simp only [Bool.toNat_false] at after ⊢
      omega
    · omega

end Block

section Line

variable {column : Nat} {indent : Text} {line : BareLine}

/-- The text of a line begins with a character that is no blank and begins no comment. -/
lemma BareLine.exists_cons (line : BareLine) :
    ∃ c rest, line.text = c :: rest ∧ isBlank c = false ∧ c ≠ '#' := by
  have flush := line.flush
  cases h : line.text with
  | nil => simp [h] at flush
  | cons c rest =>
    simp only [h, List.head?_cons, Option.any_some, Bool.and_eq_true, Bool.not_eq_true',
      decide_eq_true_eq] at flush
    exact ⟨c, rest, rfl, flush.1, flush.2⟩

/-- Without its indentation a line is its text. -/
lemma IsIndent.trimStart (h : IsIndent column indent) :
    Text.trimStart (indent ++ line.text) = line.text := by
  obtain ⟨c, rest, e, solid, _⟩ := line.exists_cons
  rw [Text.trimStart_append h.blanks, e, Text.trimStart_cons_of_not_isBlank solid]

/-- A line is indented by its column. -/
lemma IsIndent.indentation (h : IsIndent column indent) :
    Text.indentation (indent ++ line.text) = column := by
  obtain ⟨c, rest, e, solid, _⟩ := line.exists_cons
  rw [e, Text.indentation_append h.blanks solid, h.length_eq]

/-- An indented line says something. -/
lemma IsIndent.isSignificant (h : IsIndent column indent) :
    Text.isSignificant (indent ++ line.text) := by
  obtain ⟨c, rest, e, _, ne⟩ := line.exists_cons
  rw [Text.isSignificant, h.trimStart, e]
  simpa using ne

/-- Indentation does not change whether a line opens a loop. -/
lemma IsIndent.opensLoop (h : IsIndent column indent) :
    Text.opensLoop (indent ++ line.text) = line.opensLoop := by
  rw [Text.opensLoop, h.trimStart, BareLine.opensLoop]

/-- An indented line has no line feed in it. -/
lemma IsIndent.notMem (h : IsIndent column indent) : '\n' ∉ indent ++ line.text := by
  intro mem
  rcases List.mem_append.1 mem with mem | mem
  · exact h.oneLine mem
  · exact line.oneLine mem

/-- What the scan does at an indented header of a loop. -/
lemma IsIndent.feed_header {s : NestingScan} (h : IsIndent column indent) (opens : line.opensLoop) :
    s.feed (indent ++ line.text) = (s.closeWhile (column ≤ ·)).openAt column := by
  rw [NestingScan.feed_header h.isSignificant (h.opensLoop.trans opens), h.indentation]

/-- A line that opens no loop closes the loops to the right of its column. -/
lemma IsIndent.feed_plain {s : NestingScan} (h : IsIndent column indent)
    (plain : line.opensLoop = false) :
    s.feed (indent ++ line.text) = s.closeWhile (column < ·) := by
  rw [NestingScan.feed_plain h.isSignificant (h.opensLoop.trans plain), h.indentation]

end Line

namespace LaidOut

variable {column : Nat} {b : Block} {lines : List Text}

/-- No line of a laid out block stands to the left of the block. -/
lemma le_indentation (h : LaidOut column b lines) :
    ∀ line ∈ lines, column ≤ Text.indentation line := by
  induction h with
  | done =>
    intro line mem
    cases mem
  | simple hi _ ih =>
    intro line mem
    rcases List.mem_cons.1 mem with rfl | mem
    · exact Nat.le_of_eq hi.indentation.symm
    · exact ih line mem
  | loop hi deeper _ _ ihBody ihRest | branch hi deeper _ _ ihBody ihRest =>
    intro line mem
    rcases List.mem_cons.1 mem with rfl | mem
    · exact Nat.le_of_eq hi.indentation.symm
    · rcases List.mem_append.1 mem with mem | mem
      · exact Nat.le_trans (Nat.le_of_lt deeper) (ihBody line mem)
      · exact ihRest line mem

/-- All lines of a block stand to the right of what its column stands to the right of. -/
lemma lt_indentation {left : Nat} (h : LaidOut column b lines) (lt : left < column) :
    ∀ line ∈ lines, left < Text.indentation line := by
  intro line mem
  exact Nat.lt_of_lt_of_le lt (h.le_indentation line mem)

/-- The lines of a laid out block are lines. -/
lemma notMem (h : LaidOut column b lines) : ∀ line ∈ lines, '\n' ∉ line := by
  induction h with
  | done =>
    intro line mem
    cases mem
  | simple hi _ ih => exact List.forall_mem_cons.2 ⟨hi.notMem, ih⟩
  | loop hi _ _ _ ihBody ihRest | branch hi _ _ _ ihBody ihRest =>
    exact List.forall_mem_cons.2 ⟨hi.notMem, List.forall_mem_append.2 ⟨ihBody, ihRest⟩⟩

end LaidOut

/-- The column of a block, if a loop of the block is held open there. -/
def heldColumn (held : Bool) (column : Nat) : List Nat :=
  if held then [column] else []

/-- A scan that is about to read a block: beyond the loops to the left of the block, at most one loop
of the block itself is open, or what the next line of the block closes. -/
structure NestingScan.Awaits (s : NestingScan) (column : Nat) (held : Bool) (outer : List Nat) :
    Prop where
  sound : s.Sound
  columns_eq : s.columns.dropWhile (column < ·) = heldColumn held column ++ outer
  left : ∀ c ∈ outer, c < column

namespace NestingScan

variable {s : NestingScan} {column deeper : Nat} {held : Bool} {outer : List Nat}

/-- Nothing that is held open stands to the right of the column. -/
lemma heldColumn_append_le (left : ∀ c ∈ outer, c < column) :
    ∀ c ∈ heldColumn held column ++ outer, c ≤ column := by
  intro c mem
  rcases List.mem_append.1 mem with mem | mem
  · cases held with
    | false => cases mem
    | true => exact Nat.le_of_eq (List.mem_singleton.1 mem)
  · exact Nat.le_of_lt (left c mem)

/-- The loops that a scan awaiting a block holds open, as far as a line of the block leaves them. -/
lemma Awaits.length_le (h : s.Awaits column held outer) :
    outer.length + held.toNat ≤ s.deepest := by
  have sub := (List.dropWhile_sublist (column < ·) (l := s.columns)).length_le
  rw [h.columns_eq, List.length_append] at sub
  have depth := h.sound.depth_eq
  have le := h.sound.depth_le
  have len : (heldColumn held column).length = held.toNat := by cases held <;> rfl
  omega

/-- A loop header of the block leaves open the loops to the left of the block. -/
lemma Awaits.closed_columns (h : s.Awaits column held outer) :
    (s.closeWhile (column ≤ ·)).columns = outer := by
  have weaker : ∀ c : Nat, decide (column < c) → decide (column ≤ c) := by
    intro c lt
    simp only [decide_eq_true_eq] at lt ⊢
    omega
  have drop : outer.dropWhile (column ≤ ·) = outer := by
    apply dropWhile_of_forall
    intro c mem
    have := h.left c mem
    simpa using this
  -- what lies to the right of the column goes first, which leaves what the scan awaits
  rw [closeWhile_columns, ← dropWhile_dropWhile_of_imp weaker, h.columns_eq]
  cases held with
  | false => exact drop
  | true =>
    rw [heldColumn, if_pos rfl, List.singleton_append, List.dropWhile_cons_of_pos (by simp)]
    exact drop

/-- Behind a loop header of the block the scan awaits the body, with one loop more around it. -/
lemma Awaits.header (h : s.Awaits column held outer) (right : column < deeper) :
    ((s.closeWhile (column ≤ ·)).openAt column).Awaits deeper false (column :: outer) where
  sound := by
    apply (h.sound.closeWhile _).openAt
    rw [h.closed_columns]
    exact h.left
  columns_eq := by
    rw [openAt_columns, h.closed_columns, heldColumn]
    exact List.dropWhile_cons_of_neg (by simp; omega)
  left := by
    refine List.forall_mem_cons.2 ⟨right, ?_⟩
    intro c mem
    exact Nat.lt_trans (h.left c mem) right

/-- What the depth has become behind a loop header of the block. -/
lemma Awaits.header_deepest (h : s.Awaits column held outer) :
    ((s.closeWhile (column ≤ ·)).openAt column).deepest = max s.deepest (outer.length + 1) := by
  rw [openAt_deepest, closeWhile_deepest, (h.sound.closeWhile _).depth_eq, h.closed_columns]

/-- Behind any other line of the block the scan still awaits the block. -/
lemma Awaits.plain (h : s.Awaits column held outer) :
    (s.closeWhile (column < ·)).Awaits column held outer where
  sound := h.sound.closeWhile _
  columns_eq := by
    rw [closeWhile_columns, dropWhile_dropWhile_of_imp (fun _ lt => lt), h.columns_eq]
  left := h.left

/-- Behind any other line the scan also awaits a body, around which a loop that is held counts. -/
lemma Awaits.branch (h : s.Awaits column held outer) (right : column < deeper) :
    (s.closeWhile (column < ·)).Awaits deeper false (heldColumn held column ++ outer) where
  sound := h.sound.closeWhile _
  columns_eq := by
    rw [closeWhile_columns, h.columns_eq]
    apply dropWhile_of_forall
    intro c mem
    have := heldColumn_append_le h.left c mem
    simp only [decide_eq_false_iff_not]
    omega
  left := by
    intro c mem
    have := heldColumn_append_le h.left c mem
    omega

/-- Behind a body the scan awaits the rest of the block around it. -/
lemma Awaits.after_body {inner : List Text} (sound : s.Sound)
    (columns : s.columns = heldColumn held column ++ outer) (left : ∀ c ∈ outer, c < column)
    (right : ∀ line ∈ inner, column < Text.indentation line) :
    (s.feedAll inner).Awaits column held outer where
  sound := sound.feedAll inner
  columns_eq := by
    rw [feedAll_columns_left right, columns]
    apply dropWhile_of_forall
    intro c mem
    have := heldColumn_append_le left c mem
    simp only [decide_eq_false_iff_not]
    omega
  left := left

end NestingScan

/-- What reading a laid out block makes of the depth, by induction on the layout: the scan holds open
the loops to the left of the block, and a loop of the block itself behind its body. -/
theorem LaidOut.feedAll_deepest {column : Nat} {b : Block} {lines : List Text}
    (h : LaidOut column b lines) {s : NestingScan} {held : Bool} {outer : List Nat}
    (aw : s.Awaits column held outer) :
    (s.feedAll lines).deepest = max s.deepest (outer.length + b.heldNesting held) := by
  induction h generalizing s held outer with
  | done =>
    have le := aw.length_le
    simp only [NestingScan.feedAll_nil, Block.heldNesting]
    omega
  | @simple column indent line plain rest lines hi _ ih =>
    rw [NestingScan.feedAll_cons, hi.feed_plain plain, ih aw.plain, Block.heldNesting,
      NestingScan.closeWhile_deepest]
  | @loop column deeper indent header opens body rest inner lines hi right hBody _ ihBody ihRest =>
    -- nothing in the body closes the loop, so it is held while the rest is read
    have columns : ((s.closeWhile (column ≤ ·)).openAt column).columns =
        heldColumn true column ++ outer := by
      rw [NestingScan.openAt_columns, aw.closed_columns]
      rfl
    have after := NestingScan.Awaits.after_body (aw.header right).sound columns aw.left
      (hBody.lt_indentation right)
    rw [NestingScan.feedAll_cons, hi.feed_header opens, NestingScan.feedAll_append, ihRest after,
      ihBody (aw.header right), aw.header_deepest, Block.heldNesting, List.length_cons]
    omega
  | @branch column deeper indent header plain body rest inner lines hi right hBody _ ihBody ihRest =>
    -- a loop that is held stands to the left of the body, and counts in it as if around it
    have columns : (s.closeWhile (column < ·)).columns = heldColumn held column ++ outer :=
      aw.columns_eq
    have after := NestingScan.Awaits.after_body aw.plain.sound columns aw.left
      (hBody.lt_indentation right)
    have len : (heldColumn held column).length = held.toNat := by cases held <;> rfl
    rw [NestingScan.feedAll_cons, hi.feed_plain plain, NestingScan.feedAll_append, ihRest after,
      ihBody (aw.branch right), NestingScan.closeWhile_deepest, Block.heldNesting,
      List.length_append, len]
    omega

/-- The depth of a text is that of the lines that it holds. -/
lemma loopDepth_of_holdsLines {t : Text} {lines : List Text} (ht : t.HoldsLines lines)
    (oneLine : ∀ line ∈ lines, '\n' ∉ line) : loopDepth t = loopDepthOfLines lines := by
  rw [loopDepth_eq_cutLines]
  by_cases e : lines = []
  · subst e
    rcases ht with rfl | rfl <;> rfl
  · rcases ht with rfl | rfl
    · rw [Text.cutLines_joinLines e oneLine]
    · have oneLine' : ∀ line ∈ lines ++ [[]], '\n' ∉ line := by
        intro line mem
        rcases List.mem_append.1 mem with mem | mem
        · exact oneLine line mem
        · rw [List.mem_singleton.1 mem]
          exact List.not_mem_nil
      rw [← Text.joinLines_append_nil e, Text.cutLines_joinLines (by simp) oneLine',
        loopDepthOfLines, loopDepthOfLines, NestingScan.feedAll_append]
      simp only [NestingScan.feedAll_cons, NestingScan.feedAll_nil]
      rw [NestingScan.feed_insignificant rfl]

/-- The depth of a laid out program counts, on the way to a loop, the loops and the branches that
stand behind a loop of their own block. It is never less than the nesting of the loops, and no more
than that unless a branch with loops in it stands behind a loop. -/
theorem loopDepth_of_laidOut {column : Nat} {b : Block} {lines : List Text} {t : Text}
    (h : LaidOut column b lines) (ht : t.HoldsLines lines) :
    loopDepth t = b.heldNesting false ∧ b.nesting ≤ loopDepth t ∧
      (b.isSeparated false → loopDepth t = b.nesting) := by
  have aw : NestingScan.start.Awaits column false [] := {
    sound := .start
    columns_eq := rfl
    left := by
      intro c mem
      cases mem }
  have depth : loopDepth t = b.heldNesting false := by
    rw [loopDepth_of_holdsLines ht h.notMem, loopDepthOfLines, h.feedAll_deepest aw]
    simp [NestingScan.start]
  refine ⟨depth, ?_, ?_⟩
  · rw [depth]
    exact b.nesting_le_heldNesting false
  · intro sep
    have lower := b.nesting_le_heldNesting false
    have upper := Block.heldNesting_le_of_isSeparated sep
    rw [Bool.toNat_false, Nat.max_zero] at upper
    omega

/-- Spaces are an indentation. -/
lemma isIndent_spaces (column : Nat) : IsIndent column (List.replicate column ' ') where
  length_eq := List.length_replicate
  blanks := by
    intro c mem
    rw [List.eq_of_mem_replicate mem]
    decide
  oneLine := by
    intro mem
    exact absurd (List.eq_of_mem_replicate mem) (by decide)

/-- A loop over one line, and what stands behind it. -/
def oneLineLoop (rest : Block) : Block :=
  .loop { text := "for a in x:".toList } rfl (.simple { text := "y = a".toList } rfl .done) rest

/-- A branch with a loop in it, and what stands behind it. -/
def loopInBranch (rest : Block) : Block :=
  .branch { text := "if c:".toList } rfl
    (.loop { text := "for b in x:".toList } rfl (.simple { text := "z = b".toList } rfl .done) .done)
    rest

/-- The lines of `oneLineLoop`, indented by four spaces. -/
def oneLineLoopLines : List Text :=
  ["for a in x:", "    y = a"].map String.toList

/-- The lines of `loopInBranch`, indented by four spaces. -/
def loopInBranchLines : List Text :=
  ["if c:", "    for b in x:", "        z = b"].map String.toList

/-- The lines of a loop of one line lay it out. -/
lemma laidOut_oneLineLoop {rest : Block} {lines : List Text} (h : LaidOut 0 rest lines) :
    LaidOut 0 (oneLineLoop rest) (oneLineLoopLines ++ lines) :=
  .loop (isIndent_spaces 0) (show 0 < 4 by decide) (.simple (isIndent_spaces 4) .done) h

/-- The lines of a loop in a branch lay it out. -/
lemma laidOut_loopInBranch {rest : Block} {lines : List Text} (h : LaidOut 0 rest lines) :
    LaidOut 0 (loopInBranch rest) (loopInBranchLines ++ lines) :=
  .branch (isIndent_spaces 0) (show 0 < 4 by decide)
    (.loop (isIndent_spaces 4) (show 4 < 8 by decide) (.simple (isIndent_spaces 8) .done) .done) h

/-- A branch before a loop is separated from it, and the two loops do not add up. -/
theorem loopDepth_loopInBranch_oneLineLoop :
    LaidOut 0 (loopInBranch (oneLineLoop .done)) (loopInBranchLines ++ oneLineLoopLines) ∧
      (loopInBranch (oneLineLoop .done)).isSeparated false ∧
      loopDepth (Text.joinLines (loopInBranchLines ++ oneLineLoopLines)) = 1 := by
  have h := laidOut_loopInBranch (laidOut_oneLineLoop .done)
  have sep : (loopInBranch (oneLineLoop .done)).isSeparated false := by decide
  exact ⟨h, sep, (loopDepth_of_laidOut h (.inl rfl)).2.2 sep⟩

/-- The same two the other way around: the loop is held open beside the branch, and the depth is more
than the nesting of the loops. -/
theorem loopDepth_oneLineLoop_loopInBranch :
    LaidOut 0 (oneLineLoop (loopInBranch .done)) (oneLineLoopLines ++ loopInBranchLines) ∧
      (oneLineLoop (loopInBranch .done)).hasFilledBodies ∧
      (oneLineLoop (loopInBranch .done)).nesting = 1 ∧
      loopDepth (Text.joinLines (oneLineLoopLines ++ loopInBranchLines)) ≠
        (oneLineLoop (loopInBranch .done)).nesting := by
  refine ⟨laidOut_oneLineLoop (laidOut_loopInBranch .done), by decide, by decide, ?_⟩
  decide

end SnippetCost
