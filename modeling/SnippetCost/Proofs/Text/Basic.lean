import Mathlib.Tactic.Lemma
import SnippetCost.Text.Ranges

/-!
# Parts of texts

What it says that a text includes another one, `Text.includes_iff`, or begins with it,
`Text.dropLead?_eq_some`, that a table of ranges has a code point, `Ranges.exists_of_has`, and how many
bytes joined texts take, `Text.byteSize_append`.
-/

namespace SnippetCost

/-- A code point that is found lies in one of the ranges. -/
lemma Ranges.exists_of_has {t : Ranges} {n : Nat} (h : t.has n = true) :
    ∃ r ∈ t, r.1 ≤ n ∧ n ≤ r.2 := by
  induction t with
  | nil => simp [has] at h
  | cons r rest ih =>
    simp only [has, Bool.and_eq_true, Bool.or_eq_true, decide_eq_true_eq] at h
    rcases h with ⟨hlo, hhi | hrest⟩
    · exact ⟨r, by simp, hlo, hhi⟩
    · obtain ⟨s, hs, h⟩ := ih hrest
      exact ⟨s, by simp [hs], h⟩

namespace Text

/-- A text that includes another one goes on in front of it and behind it. -/
lemma includes_iff {needle t : Text} :
    includes needle t = true ↔ ∃ u v, t = u ++ needle ++ v := by
  induction t with
  | nil =>
    simp [includes, List.isEmpty_iff]
  | cons c rest ih =>
    rw [includes, Bool.or_eq_true, ih, List.isPrefixOf_iff_prefix]
    constructor
    · rintro (⟨v, hv⟩ | ⟨u, v, rfl⟩)
      · exact ⟨[], v, by simp [hv]⟩
      · exact ⟨c :: u, v, rfl⟩
    · rintro ⟨u, v, h⟩
      cases u with
      | nil => exact .inl ⟨v, by simpa using h.symm⟩
      | cons d u =>
        simp only [List.cons_append, List.cons.injEq] at h
        exact .inr ⟨u, v, h.2⟩

/-- What follows the lead makes up the text with it. -/
lemma dropLead?_eq_some {lead t rest : Text} :
    dropLead? lead t = some rest ↔ t = lead ++ rest := by
  induction lead generalizing t with
  | nil => simp [dropLead?]
  | cons l lead ih =>
    cases t with
    | nil => simp [dropLead?]
    | cons c t =>
      by_cases h : l = c
      · simp [dropLead?, h, ih]
      · simp [dropLead?, h, Ne.symm h]

/-- Texts one behind another take the bytes of both. -/
lemma byteSize_append (u v : Text) : byteSize (u ++ v) = byteSize u + byteSize v := by
  rw [byteSize, String.ofList_append, String.utf8ByteSize_append, byteSize, byteSize]

/-- One character takes its own bytes. -/
lemma byteSize_singleton (c : Char) : byteSize [c] = c.utf8Size := by
  rw [byteSize, ← String.singleton_eq_ofList, String.utf8ByteSize_singleton]

/-- A character in front adds its bytes. -/
lemma byteSize_cons (c : Char) (t : Text) : byteSize (c :: t) = c.utf8Size + byteSize t := by
  rw [← List.singleton_append, byteSize_append, byteSize_singleton]

/-- A character repeated takes its bytes as often. -/
lemma byteSize_replicate (n : Nat) (c : Char) : byteSize (List.replicate n c) = n * c.utf8Size := by
  induction n with
  | zero => rw [Nat.zero_mul, List.replicate_zero, byteSize, String.ofList_nil, String.utf8ByteSize_empty]
  | succ n ih => rw [List.replicate_succ, byteSize_cons, ih, Nat.succ_mul, Nat.add_comm]

end Text

end SnippetCost
