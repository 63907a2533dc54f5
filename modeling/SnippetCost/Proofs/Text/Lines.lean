import SnippetCost.Proofs.Text.Pieces

/-!
# Cutting and joining lines

Cutting a text at its line feeds and joining lines by line feeds undo each other, and a line of the
text differs from the piece between two line feeds by no more than a carriage return at its end.

The main results are `joinLines_cutLines` and `cutLines_joinLines`, and `lines_append_feed` for the
lines of a text with a line feed in it.
-/

namespace SnippetCost.Text

variable {l t : Text} {ls : List Text}

/-- There is a piece at least. -/
lemma cutLines_ne_nil (t : Text) : cutLines t ≠ [] :=
  cutAt_ne_nil _ t

/-- A line feed at the start has the empty piece in front of it. -/
lemma cutLines_feed (t : Text) : cutLines ('\n' :: t) = [] :: cutLines t := rfl

/-- Any other character belongs to the first piece. -/
lemma cutLines_cons {c : Char} (h : c ≠ '\n') (t : Text) :
    cutLines (c :: t) = consFirst c (cutLines t) := by
  simp [cutLines, cutAt, h]

/-- Without line feeds there is one piece. -/
lemma cutLines_of_notMem (h : '\n' ∉ l) : cutLines l = [l] :=
  cutAt_of_forall fun _ mem => decide_eq_false (ne_of_mem_of_not_mem mem h)

/-- A piece reaches to the first line feed. -/
lemma cutLines_append (h : '\n' ∉ l) (t : Text) : cutLines (l ++ '\n' :: t) = l :: cutLines t :=
  cutAt_append (fun _ mem => decide_eq_false (ne_of_mem_of_not_mem mem h)) (by simp) t

/-- A line feed cuts a text wherever it stands. -/
lemma cutLines_append_feed (s t : Text) : cutLines (s ++ '\n' :: t) = cutLines s ++ cutLines t := by
  induction s with
  | nil => exact cutLines_feed t
  | cons c s ih =>
    by_cases h : c = '\n'
    · subst h
      rw [List.cons_append, cutLines_feed, cutLines_feed, ih, List.cons_append]
    · rw [List.cons_append, cutLines_cons h, cutLines_cons h, ih]
      cases e : cutLines s with
      | nil => exact absurd e (cutLines_ne_nil s)
      | cons piece pieces => rfl

/-- No piece has a line feed in it. -/
lemma notMem_of_mem_cutLines (t : Text) : ∀ l ∈ cutLines t, '\n' ∉ l := by
  induction t with
  | nil => simp [cutLines, cutAt]
  | cons c t ih =>
    by_cases h : c = '\n'
    · subst h
      rw [cutLines_feed]
      exact List.forall_mem_cons.2 ⟨List.not_mem_nil, ih⟩
    · rw [cutLines_cons h]
      cases e : cutLines t with
      | nil => simp [consFirst, Ne.symm h]
      | cons piece pieces =>
        rw [e] at ih
        obtain ⟨hp, hps⟩ := List.forall_mem_cons.1 ih
        refine List.forall_mem_cons.2 ⟨?_, hps⟩
        exact List.not_mem_cons_of_ne_of_not_mem (Ne.symm h) hp

/-- One line is joined to itself. -/
@[simp]
lemma joinLines_singleton (l : Text) : joinLines [l] = l := by
  simp [joinLines, List.intercalate]

/-- A line feed stands between a line and the lines behind it. -/
lemma joinLines_cons (l : Text) (h : ls ≠ []) : joinLines (l :: ls) = l ++ '\n' :: joinLines ls := by
  cases ls with
  | nil => exact absurd rfl h
  | cons m ls => simp [joinLines, List.intercalate]

/-- A line feed behind joined lines ends the last of them. -/
lemma joinLines_append_nil (h : ls ≠ []) : joinLines (ls ++ [[]]) = joinLines ls ++ ['\n'] := by
  induction ls with
  | nil => exact absurd rfl h
  | cons l ls ih =>
    by_cases e : ls = []
    · subst e
      rw [List.singleton_append, joinLines_cons l (by simp), joinLines_singleton,
        joinLines_singleton]
    · rw [List.cons_append, joinLines_cons l (by simp), joinLines_cons l e, ih e, List.append_assoc,
        List.cons_append]

/-- Joining the pieces of a text gives the text. -/
lemma joinLines_cutLines (t : Text) : joinLines (cutLines t) = t := by
  induction t with
  | nil => rfl
  | cons c t ih =>
    by_cases h : c = '\n'
    · subst h
      rw [cutLines_feed, joinLines_cons _ (cutLines_ne_nil t), ih]
      rfl
    · rw [cutLines_cons h]
      cases e : cutLines t with
      | nil => exact absurd e (cutLines_ne_nil t)
      | cons piece pieces =>
        rw [e] at ih
        cases pieces with
        | nil =>
          rw [joinLines_singleton] at ih
          simp [consFirst, ih]
        | cons next pieces =>
          rw [joinLines_cons _ (by simp)] at ih
          rw [consFirst, joinLines_cons _ (by simp), List.cons_append, ih]

/-- Lines without line feeds are the pieces of what they are joined to. -/
lemma cutLines_joinLines (ne : ls ≠ []) (h : ∀ l ∈ ls, '\n' ∉ l) : cutLines (joinLines ls) = ls := by
  induction ls with
  | nil => exact absurd rfl ne
  | cons l ls ih =>
    obtain ⟨hl, hls⟩ := List.forall_mem_cons.1 h
    by_cases e : ls = []
    · subst e
      rw [joinLines_singleton]
      exact cutLines_of_notMem hl
    · rw [joinLines_cons l e, cutLines_append hl, ih e hls]

/-- Dropping a carriage return takes nothing else from a line. -/
lemma exists_dropReturn_append (l : Text) : ∃ v, (∀ c ∈ v, c = '\r') ∧ l = dropReturn l ++ v := by
  fun_induction dropReturn l with
  | case1 => exact ⟨[], by simp, rfl⟩
  | case2 => exact ⟨['\r'], by simp, rfl⟩
  | case3 c rest _ ih =>
    obtain ⟨v, hv, e⟩ := ih
    exact ⟨v, hv, by rw [List.cons_append, ← e]⟩

/-- A line that does not end in a carriage return stays as it is. -/
lemma dropReturn_of_getLast? (h : l.getLast? ≠ some '\r') : dropReturn l = l := by
  fun_induction dropReturn l with
  | case1 => rfl
  | case2 => exact absurd rfl h
  | case3 c rest ne ih =>
    cases rest with
    | nil => rfl
    | cons d rest => rw [ih (by simpa using h)]

/-- What is not in a line is not in it without its carriage return. -/
lemma notMem_dropReturn {c : Char} (h : c ∉ l) : c ∉ dropReturn l := by
  obtain ⟨v, -, e⟩ := exists_dropReturn_append l
  rw [e, List.mem_append, not_or] at h
  exact h.1

/-- What no piece has in it no line has. -/
lemma notMem_of_mem_linesOfPieces {c : Char} {pieces : List Text} (h : ∀ piece ∈ pieces, c ∉ piece) :
    ∀ line ∈ linesOfPieces pieces, c ∉ line := by
  fun_induction linesOfPieces pieces with
  | case1 => exact h
  | case2 last empty => simp
  | case3 last _ => exact h
  | case4 piece pieces _ ih =>
    obtain ⟨first, rest⟩ := List.forall_mem_cons.1 h
    exact List.forall_mem_cons.2 ⟨notMem_dropReturn first, ih rest⟩

/-- No line has a line feed in it. -/
lemma notMem_of_mem_lines (t : Text) : ∀ line ∈ lines t, '\n' ∉ line :=
  notMem_of_mem_linesOfPieces (notMem_of_mem_cutLines t)

/-- A text without line feeds is its only line. -/
lemma lines_of_notMem (feed : '\n' ∉ l) (ne : l ≠ []) : lines l = [l] := by
  rw [lines, cutLines_of_notMem feed, linesOfPieces]
  simp [ne]

/-- The pieces that have others behind them end in a line feed, so their carriage returns go. -/
lemma linesOfPieces_append (pieces : List Text) (ne : ls ≠ []) :
    linesOfPieces (pieces ++ ls) = pieces.map dropReturn ++ linesOfPieces ls := by
  induction pieces with
  | nil => rfl
  | cons piece pieces ih =>
    rw [List.cons_append, linesOfPieces, ih, List.map_cons, List.cons_append]
    simp [ne]

/-- A line feed behind a text makes lines of all its pieces. -/
lemma lines_append_feed (s t : Text) :
    lines (s ++ '\n' :: t) = (cutLines s).map dropReturn ++ lines t := by
  rw [lines, cutLines_append_feed, linesOfPieces_append _ (cutLines_ne_nil t), lines]

/-- A line with a line feed behind it is the first line of a text. -/
lemma lines_append (feed : '\n' ∉ l) (noReturn : l.getLast? ≠ some '\r') (t : Text) :
    lines (l ++ '\n' :: t) = l :: lines t := by
  rw [lines_append_feed, cutLines_of_notMem feed, List.map_singleton,
    dropReturn_of_getLast? noReturn, List.singleton_append]

/-- The pieces of a text with a line feed behind it are its lines. -/
lemma lines_append_of_pieces {s : Text} (h : ∀ l ∈ cutLines s, l.getLast? ≠ some '\r') (t : Text) :
    lines (s ++ '\n' :: t) = cutLines s ++ lines t := by
  have same : (cutLines s).map dropReturn = (cutLines s).map id :=
    List.map_congr_left fun l mem => dropReturn_of_getLast? (h l mem)
  rw [lines_append_feed, same, List.map_id]

end SnippetCost.Text
