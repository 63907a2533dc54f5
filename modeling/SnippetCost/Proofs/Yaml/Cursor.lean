import Mathlib.Tactic.Lemma
import SnippetCost.Yaml.Written

/-!
# Characters and places of a written document

A written document is made of safe characters, spaces, colons, quotes and line feeds. Safe characters
have no meaning of their own, so reading skips over none of them.

What a safe character is not is `ne_of_isSafeChar` and the lemmas behind it; what a document is
written with is `isWritten_writeMembers`. The main results say that reading skips nothing:
`skipGapFrom_safe`, `skipGapFrom_indent` and `unifyBreaks_eq_self`.
-/

namespace SnippetCost.Yaml

variable {c d : Char} {t rest : Text}

/-- A safe character is none of the characters that have a meaning. -/
lemma ne_of_isSafeChar (hc : isSafeChar c) (hd : isSafeChar d = false) : c ≠ d := by
  rintro rfl
  rw [hc] at hd
  cases hd

/-- A safe character is none of several that have a meaning. -/
lemma not_mem_of_isSafeChar (hc : isSafeChar c) {l : List Char} (hl : l.all fun d => !isSafeChar d) :
    c ∉ l := by
  intro mem
  have := List.all_eq_true.1 hl c mem
  simp [hc] at this

/-- A safe character is no line break. -/
lemma isBreak_of_isSafeChar (hc : isSafeChar c) : isBreak c = false := by
  simp [isBreak, ne_of_isSafeChar hc (d := '\n') rfl, ne_of_isSafeChar hc (d := '\u2028') rfl,
    ne_of_isSafeChar hc (d := '\u2029') rfl]

/-- A safe character is no space. -/
lemma isSpace_of_isSafeChar (hc : isSafeChar c) : isSpace c = false := by
  simp [isSpace, ne_of_isSafeChar hc (d := ' ') rfl, ne_of_isSafeChar hc (d := '\t') rfl]

/-- A safe character ends no word. -/
lemma endsWord_of_isSafeChar (hc : isSafeChar c) (rest : Text) : endsWord (c :: rest) = false := by
  rw [endsWord, isBreak_of_isSafeChar hc, isSpace_of_isSafeChar hc, Bool.or_false]

/-- A character between two others has its code point between theirs. -/
lemma toNat_mem_range {a b : Char} {lo hi : Nat} (ha : a ≤ c) (hb : c ≤ b) (hlo : lo ≤ a.toNat)
    (hhi : b.toNat ≤ hi) : lo ≤ c.toNat ∧ c.toNat ≤ hi :=
  ⟨Nat.le_trans hlo (UInt32.le_iff_toNat_le.1 ha), Nat.le_trans (UInt32.le_iff_toNat_le.1 hb) hhi⟩

/-- A safe character is allowed in a document. -/
lemma isAllowed_of_isSafeChar (hc : isSafeChar c) : isAllowed c := by
  have range : 0x20 ≤ c.toNat ∧ c.toNat ≤ 0x7E := by
    simp only [isSafeChar, isAsciiAlphanumeric, isAsciiLetter, isAsciiDigit, Bool.or_eq_true,
      Bool.and_eq_true, decide_eq_true_eq] at hc
    rcases hc with (((⟨lo, hi⟩ | ⟨lo, hi⟩) | ⟨lo, hi⟩) | rfl) | rfl
    · exact toNat_mem_range lo hi (by decide) (by decide)
    · exact toNat_mem_range lo hi (by decide) (by decide)
    · exact toNat_mem_range lo hi (by decide) (by decide)
    · decide
    · decide
  simp [isAllowed, range.1, range.2]

/-- The characters of a written document. -/
def IsWritten (c : Char) : Prop :=
  isSafeChar c ∨ c = ' ' ∨ c = ':' ∨ c = '\'' ∨ c = '\n'

/-- A character that is written is allowed in a document. -/
lemma IsWritten.isAllowed (h : IsWritten c) : isAllowed c := by
  rcases h with safe | rfl | rfl | rfl | rfl
  · exact isAllowed_of_isSafeChar safe
  all_goals decide

/-- The ends of lines of a written document are the same already. -/
lemma unifyBreaks_eq_self (h : ∀ c ∈ t, IsWritten c) : unifyBreaks t = t := by
  have ne : ∀ c ∈ t, c ≠ '\r' ∧ c ≠ '\u0085' := by
    intro c mem
    rcases h c mem with safe | rfl | rfl | rfl | rfl
    · exact ⟨ne_of_isSafeChar safe rfl, ne_of_isSafeChar safe rfl⟩
    all_goals decide
  clear h
  fun_induction unifyBreaks t with
  | case1 rest _ => exact absurd rfl (ne _ (.head _)).1
  | case2 rest _ _ => exact absurd rfl (ne _ (.head _)).1
  | case3 rest _ => exact absurd rfl (ne _ (.head _)).2
  | case4 c rest _ _ _ ih => rw [ih (List.forall_mem_cons.1 ne).2]
  | case5 => rfl

namespace Tree

/-- Safe characters are written. -/
lemma isWritten_of_all (h : t.all isSafeChar) : ∀ c ∈ t, IsWritten c := by
  intro c mem
  exact .inl (List.all_eq_true.1 h c mem)

/-- Between quotes a safe text stands as it is. -/
lemma quote_of_isSafeChar (h : t.all isSafeChar) : quote t = '\'' :: (t ++ ['\'']) := by
  have same : t.flatMap (fun c => if c = '\'' then ['\'', '\''] else [c]) = t := by
    induction t with
    | nil => rfl
    | cons c t ih =>
      rw [List.all_cons, Bool.and_eq_true] at h
      rw [List.flatMap_cons, ih h.2, if_neg (ne_of_isSafeChar h.1 rfl), List.singleton_append]
  rw [quote, same, List.cons_append]

/-- A leaf of safe characters is written with characters that are written. -/
lemma isWritten_writeLeaf {plain : Bool} (h : t.all isSafeChar) :
    ∀ c ∈ writeLeaf plain t, IsWritten c := by
  have safe := isWritten_of_all h
  rw [writeLeaf]
  split
  · exact safe
  · rw [quote_of_isSafeChar h, List.forall_mem_cons, List.forall_mem_append]
    have quote : IsWritten '\'' := .inr (.inr (.inr (.inl rfl)))
    exact ⟨quote, safe, List.forall_mem_singleton.2 quote⟩

/-- So is a line with a safe key. -/
lemma isWritten_writeLine {indent : Nat} {key rest : Text} (hk : key.all isSafeChar)
    (hr : ∀ c ∈ rest, IsWritten c) : ∀ c ∈ writeLine indent key rest, IsWritten c := by
  have space : IsWritten ' ' := .inr (.inl rfl)
  have colon : IsWritten ':' := .inr (.inr (.inl rfl))
  have feed : IsWritten '\n' := .inr (.inr (.inr (.inr rfl)))
  rw [writeLine, List.forall_mem_append, List.forall_mem_append, List.forall_mem_append,
    List.forall_mem_cons]
  refine ⟨⟨⟨?_, isWritten_of_all hk⟩, colon, hr⟩, List.forall_mem_singleton.2 feed⟩
  intro c mem
  rwa [List.eq_of_mem_replicate mem]

/-- A key has safe characters only. -/
lemma all_isSafeChar_of_isKeyText (h : isKeyText t) : t.all isSafeChar := by
  simp only [isKeyText, Bool.and_eq_true] at h
  exact h.1.2

/-- A key begins with a safe character other than a dash. -/
lemma exists_cons_of_isKeyText (h : isKeyText t) :
    ∃ c rest, t = c :: rest ∧ isSafeChar c ∧ c ≠ '-' := by
  have safe := all_isSafeChar_of_isKeyText h
  cases t with
  | nil => cases h
  | cons c t =>
    rw [List.all_cons, Bool.and_eq_true] at safe
    refine ⟨c, t, rfl, safe.1, ?_⟩
    rintro rfl
    cases h

/-- A leaf has safe characters only. -/
lemma all_isSafeChar_of_isLeafText {plain : Bool} (h : isLeafText plain t) :
    t.all isSafeChar := by
  rw [isLeafText, Bool.and_eq_true] at h
  exact h.1

mutual

/-- A readable member is written with characters that are written. -/
lemma isWritten_writeMember (indent : Nat) {key : Text} (hk : isKeyText key) (value : Tree)
    (h : value.IsReadable) : ∀ c ∈ writeMember indent key value, IsWritten c := by
  have key := all_isSafeChar_of_isKeyText hk
  cases value with
  | leaf plain t =>
    rw [IsReadable] at h
    have space : IsWritten ' ' := .inr (.inl rfl)
    have leaf : ∀ c ∈ writeLeaf plain t, IsWritten c :=
      isWritten_writeLeaf (all_isSafeChar_of_isLeafText h)
    exact isWritten_writeLine key (List.forall_mem_cons.2 ⟨space, leaf⟩)
  | mapping ms =>
    rw [IsReadable] at h
    rw [writeMember, List.forall_mem_append]
    have header : ∀ c ∈ writeLine indent _ [], IsWritten c := isWritten_writeLine key (by simp)
    exact ⟨header, isWritten_writeMembers (indent + 2) ms h.2⟩

/-- A readable tree is written with the characters of documents only. -/
lemma isWritten_writeMembers (indent : Nat) (ms : List (Text × Tree)) (h : AreReadable ms) :
    ∀ c ∈ writeMembers indent ms, IsWritten c := by
  match ms with
  | [] => simp [writeMembers]
  | (key, value) :: ms =>
    rw [AreReadable] at h
    rw [writeMembers, List.forall_mem_append]
    exact ⟨isWritten_writeMember indent h.1 value h.2.1, isWritten_writeMembers indent ms h.2.2⟩

end

end Tree

/-- A text that is not within a mapping in the column: it is empty, or its first line is indented by
`column` at most. -/
def IsOutside (column : Nat) (t : Text) : Prop :=
  t = [] ∨ ∃ k ≤ column, ∃ c rest, isSafeChar c ∧ t = List.replicate k ' ' ++ c :: rest

namespace Cursor

variable {line column : Nat} {fresh : Bool}

/-- A place before a safe character is behind all gaps. -/
lemma skipGapFrom_safe (hc : isSafeChar c) (line column : Nat) (fresh : Bool) (rest : Text) :
    skipGapFrom false false line column fresh (c :: rest) = ⟨line, column, fresh, c :: rest⟩ := by
  rw [skipGapFrom]
  simp [isBreak_of_isSafeChar hc, ne_of_isSafeChar hc (d := '#') rfl,
    ne_of_isSafeChar hc (d := ' ') rfl, ne_of_isSafeChar hc (d := '\t') rfl,
    ne_of_isSafeChar hc (d := '\ufeff') rfl]

/-- At the start of a line the gap is the indentation. -/
lemma skipGapFrom_indent (hc : isSafeChar c) (line column k : Nat) (rest : Text) :
    skipGapFrom false false line column true (List.replicate k ' ' ++ c :: rest) =
      ⟨line, column + k, true, c :: rest⟩ := by
  induction k generalizing column with
  | zero => exact skipGapFrom_safe hc line column true rest
  | succ k ih =>
    rw [List.replicate_succ, List.cons_append, skipGapFrom]
    have space : isBreak ' ' = false := rfl
    simp only [space]
    rw [if_neg (by simp), if_neg (by simp), if_pos (by simp), ih, Nat.add_right_comm,
      Nat.add_assoc]

/-- A document begins and ends at the start of a line only. -/
lemma atMarker_later (later : 0 < column) (line : Nat) (fresh : Bool) (t : Text) :
    (⟨line, column, fresh, t⟩ : Cursor).atMarker = false := by
  simp [atMarker, hasMarker, Nat.ne_of_gt later]

/-- No marker of a document begins with a safe character other than a dash. -/
lemma atMarker_of_isSafeChar (hc : isSafeChar c) (dash : c ≠ '-') (rest : Text) :
    (⟨line, column, fresh, c :: rest⟩ : Cursor).atMarker = false := by
  have dot := ne_of_isSafeChar hc (d := '.') rfl
  simp [atMarker, hasMarker, Text.dropLead?, dash.symm, dot.symm]

end Cursor

end SnippetCost.Yaml
