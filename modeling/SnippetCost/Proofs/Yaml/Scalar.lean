import SnippetCost.Proofs.Yaml.Cursor

/-!
# Reading keys and leaves

A key is read up to its colon, and a leaf up to the end of its line. Behind a plain leaf the gap before
the next line has been read too; a leaf in quotes ends at the second quote.

The main results are `readPlain?_key`, `readPlain?_leaf` and `readQuoted?_leaf`. What a plain scalar
ends at is `readPlainFrom_colon` for a key and `readPlainFrom_lineEnd` for a leaf.
-/

namespace SnippetCost.Yaml

variable {c : Char} {t rest : Text} {floor line column : Nat}

/-- A safe run is read as it stands, and what follows it is read as if it stood alone. -/
lemma readPlainFrom_append (h : t.all isSafeChar) (floor line column : Nat) (rest : Text) :
    readPlainFrom false floor .none line column (t ++ rest) =
      (readPlainFrom false floor .none line (column + t.length) rest).map
        fun (u, after) => (t ++ u, after) := by
  induction t generalizing column with
  | nil => simp
  | cons c t ih =>
    rw [List.all_cons, Bool.and_eq_true] at h
    obtain ⟨hc, ht⟩ := h
    have noGap : endsAfterGap false floor .none ⟨line, column, Gap.none.endsLine, c :: (t ++ rest)⟩ =
        false := rfl
    have noStray : isStrayColon false c (t ++ rest) = false := rfl
    have noEnd : endsPlain false c (t ++ rest) = false := by
      simp [endsPlain, ne_of_isSafeChar hc (d := ':') rfl]
    rw [List.cons_append, readPlainFrom, isSpace_of_isSafeChar hc, isBreak_of_isSafeChar hc, noGap,
      noStray, noEnd, ih ht, Option.map_map]
    simp only [Bool.false_eq_true, if_false, List.length_cons]
    rw [Nat.add_assoc, Nat.add_comm 1]
    rfl

/-- A plain scalar ends at a colon that ends a word. -/
lemma readPlainFrom_colon (h : endsWord rest) (floor line column : Nat) :
    readPlainFrom false floor .none line column (':' :: rest) =
      some ([], ⟨line, column, false, ':' :: rest⟩) := by
  have noGap : endsAfterGap false floor .none ⟨line, column, Gap.none.endsLine, ':' :: rest⟩ =
      false := rfl
  have noStray : isStrayColon false ':' rest = false := rfl
  have ends : endsPlain false ':' rest := by
    simp [endsPlain, h]
  have solid : isSpace ':' = false ∧ isBreak ':' = false := ⟨rfl, rfl⟩
  rw [readPlainFrom, solid.1, solid.2, noGap, noStray, ends]
  rfl

/-- A plain scalar ends before a line that is not within its mapping. -/
lemma readPlainFrom_indent (hc : isSafeChar c) {k : Nat} (shallow : column + k < floor)
    (breaks : Text) (line : Nat) (rest : Text) :
    readPlainFrom false floor (.breaks breaks) line column (List.replicate k ' ' ++ c :: rest) =
      some ([], ⟨line, column + k, true, c :: rest⟩) := by
  induction k generalizing column with
  | zero =>
    have ends : endsAfterGap false floor (.breaks breaks) ⟨line, column, true, c :: rest⟩ := by
      have lt : column < floor := shallow
      simp [endsAfterGap, Gap.none, Gap.endsLine, lt]
    have line : (Gap.breaks breaks).endsLine = true := rfl
    rw [List.replicate_zero, List.nil_append, readPlainFrom, isSpace_of_isSafeChar hc,
      isBreak_of_isSafeChar hc, line, ends]
    rfl
  | succ k ih =>
    have space : isSpace ' ' = true := rfl
    have noTab : (decide (' ' = '\t')) = false := rfl
    rw [List.replicate_succ, List.cons_append, readPlainFrom, space, noTab]
    simp only [Bool.and_false, Bool.false_and, Bool.false_eq_true, if_false, if_true]
    have lost : (Gap.breaks breaks).addSpace ' ' = .breaks breaks := rfl
    rw [lost, ih (by omega), Nat.add_right_comm, Nat.add_assoc]

/-- A plain scalar ends with its line where what follows is not within its mapping. -/
lemma readPlainFrom_lineEnd (outside : IsOutside column rest) (shallow : column < floor)
    (line place : Nat) :
    ∃ after, readPlainFrom false floor .none line place ('\n' :: rest) = some ([], after) ∧
      after.skipGap false = (⟨line + 1, 0, true, rest⟩ : Cursor).skipGap false := by
  have read : readPlainFrom false floor .none line place ('\n' :: rest) =
      readPlainFrom false floor (.breaks ['\n']) (line + 1) 0 rest := rfl
  rw [read]
  rcases outside with rfl | ⟨k, le, c, t, hc, rfl⟩
  · exact ⟨_, rfl, rfl⟩
  · refine ⟨_, readPlainFrom_indent hc (by omega) _ _ _, ?_⟩
    rw [Cursor.skipGap, Cursor.skipGap, Cursor.skipGapFrom_safe hc, Cursor.skipGapFrom_indent hc]

/-- A safe run between quotes is read as it stands. -/
lemma readSingleFrom_safe (h : t.all isSafeChar) (later : 0 < column) (line : Nat) :
    readSingleFrom .none line column (t ++ '\'' :: '\n' :: rest) =
      some (t, ⟨line, column + t.length + 1, false, '\n' :: rest⟩) := by
  induction t generalizing column with
  | nil =>
    have space : isSpace '\'' = false := rfl
    have feed : isBreak '\'' = false := rfl
    rw [List.nil_append, readSingleFrom, space, feed, Cursor.atMarker_later later]
    · rfl
    · simp
  | cons c t ih =>
    rw [List.all_cons, Bool.and_eq_true] at h
    obtain ⟨hc, ht⟩ := h
    have ne := ne_of_isSafeChar hc (d := '\'') rfl
    rw [List.cons_append, readSingleFrom, isSpace_of_isSafeChar hc, isBreak_of_isSafeChar hc,
      Cursor.atMarker_later later, if_neg (by simp), if_neg (by simp), if_neg (by simp), if_neg ne,
      ih ht (Nat.succ_pos _), Option.map_some, List.length_cons, Nat.succ_add, Nat.add_succ]
    · rfl
    · intro _ h
      exact absurd h ne

/-- A safe character other than a dash has no meaning at the beginning of a scalar. -/
lemma not_mem_indicators (hc : isSafeChar c) (ne : c ≠ '-') : c ∉ indicators := by
  have all : indicators.all fun d => d = '-' || !isSafeChar d := by decide
  intro mem
  have := List.all_eq_true.1 all c mem
  simp [ne, hc] at this

/-- A plain scalar can begin with a safe character, with a dash only before another one. -/
lemma beginsPlain_of_isSafeChar (hc : isSafeChar c) (dash : c = '-' → endsWord rest = false) :
    beginsPlain false c rest := by
  rw [beginsPlain]
  by_cases isDash : c = '-'
  · rw [if_pos isDash, dash isDash]
    rfl
  · have noMark : ¬ (c = '?' || c = ':') := by
      simp [ne_of_isSafeChar hc (d := '?') rfl, ne_of_isSafeChar hc (d := ':') rfl]
    have noIndicator : indicators.contains c = false := by
      rw [← Bool.not_eq_true, List.contains_iff_mem]
      exact not_mem_indicators hc isDash
    rw [if_neg isDash, if_neg noMark, noIndicator, endsWord_of_isSafeChar hc]
    rfl

/-- A key is read up to its colon. -/
lemma readPlain?_key (h : isKeyText t) (word : endsWord rest) (floor line column : Nat)
    (fresh : Bool) :
    readPlain? false floor ⟨line, column, fresh, t ++ ':' :: rest⟩ =
      some (t, ⟨line, column + t.length, false, ':' :: rest⟩) := by
  have read := readPlainFrom_append (Tree.all_isSafeChar_of_isKeyText h) floor line column
    (':' :: rest)
  simp only [readPlainFrom_colon word, Option.map_some, List.append_nil] at read
  obtain ⟨c, t, rfl, hc, noDash⟩ := Tree.exists_cons_of_isKeyText h
  have begins : beginsPlain false c (t ++ ':' :: rest) :=
    beginsPlain_of_isSafeChar hc fun isDash => absurd isDash noDash
  rw [List.cons_append, readPlain?]
  simp only [begins, if_true]
  exact read

/-- A plain leaf is read up to the end of its line. -/
lemma readPlain?_leaf (h : isLeafText true t) (outside : IsOutside column rest)
    (shallow : column < floor) (line place : Nat) (fresh : Bool) :
    ∃ after, readPlain? false floor ⟨line, place, fresh, t ++ '\n' :: rest⟩ = some (t, after) ∧
      after.skipGap false = (⟨line + 1, 0, true, rest⟩ : Cursor).skipGap false := by
  have safe := Tree.all_isSafeChar_of_isLeafText h
  cases t with
  | nil => cases h
  | cons c t =>
    have begins : beginsPlain false c (t ++ '\n' :: rest) := by
      rw [List.all_cons, Bool.and_eq_true] at safe
      apply beginsPlain_of_isSafeChar safe.1
      rintro rfl
      cases t with
      | nil => cases h
      | cons d t =>
        rw [List.all_cons, Bool.and_eq_true] at safe
        exact endsWord_of_isSafeChar safe.2.1 _
    obtain ⟨after, ends, next⟩ :=
      readPlainFrom_lineEnd outside shallow line (place + (c :: t).length)
    have read := readPlainFrom_append safe floor line place ('\n' :: rest)
    simp only [ends, Option.map_some, List.append_nil] at read
    refine ⟨after, ?_, next⟩
    rw [List.cons_append, readPlain?]
    simp only [begins, if_true]
    exact read

/-- A leaf in quotes is read up to the second quote. -/
lemma readQuoted?_leaf (h : t.all isSafeChar) (line column : Nat) (fresh : Bool) (rest : Text) :
    ∃ after, readQuoted? ⟨line, column, fresh, '\'' :: (t ++ '\'' :: '\n' :: rest)⟩ =
        some (t, after) ∧
      after.skipGap false = (⟨line + 1, 0, true, rest⟩ : Cursor).skipGap false := by
  refine ⟨⟨line, column + 1 + t.length + 1, false, '\n' :: rest⟩, ?_, rfl⟩
  rw [readQuoted?]
  exact readSingleFrom_safe h (Nat.succ_pos _) line

end SnippetCost.Yaml
