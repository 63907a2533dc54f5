import SnippetCost.Proofs.Text.Basic
import SnippetCost.Text.Replace

/-!
# What replacing does to pieces of a text

A piece in which no match begins stays as it is, and a match at the front is replaced; what follows is
treated as if it stood alone.

The main results are `replaceEach_append`, for a piece in which no match begins, and `replaceAll_old`.
-/

namespace SnippetCost.Text

variable {after? : Text → Option Text} {new old t rest : Text} {c : Char}

/-- Where no match begins the character stays. -/
lemma replaceEach_cons_of_none (h : after? (c :: rest) = none) :
    replaceEach after? new (c :: rest) = c :: replaceEach after? new rest := by
  rw [replaceEach, h]

/-- A match at the front is replaced, if it takes something. -/
lemma replaceEach_of_some (h : after? t = some rest) (lt : rest.length < t.length) :
    replaceEach after? new t = new ++ replaceEach after? new rest := by
  cases t with
  | nil => cases lt
  | cons c t => simp only [replaceEach, h, Nat.lt_succ_iff.1 lt, if_pos]

/-- A piece stays as it is if nothing is found at any of its characters. -/
lemma replaceEach_append {u : Text} (h : ∀ c ∈ u, ∀ rest, after? (c :: rest) = none) (t : Text) :
    replaceEach after? new (u ++ t) = u ++ replaceEach after? new t := by
  induction u with
  | nil => rfl
  | cons c u ih =>
    obtain ⟨hc, hu⟩ := List.forall_mem_cons.1 h
    rw [List.cons_append, replaceEach_cons_of_none (hc _), ih hu, List.cons_append]

/-- What follows a text in front of another one is the other one. -/
lemma dropLead?_append (lead t : Text) : dropLead? lead (lead ++ t) = some t :=
  dropLead?_eq_some.2 rfl

/-- A text with another first character does not begin with the lead. -/
lemma dropLead?_of_ne {l : Char} {lead : Text} (h : l ≠ c) (rest : Text) :
    dropLead? (l :: lead) (c :: rest) = none :=
  if_neg h

/-- There is nothing to replace in the empty text. -/
lemma replaceAll_nil (old new : Text) : replaceAll old new [] = [] := by
  rw [replaceAll, replaceEach]

/-- A match at the front is replaced. -/
lemma replaceAll_old (ne : old ≠ []) (t : Text) :
    replaceAll old new (old ++ t) = new ++ replaceAll old new t := by
  apply replaceEach_of_some (dropLead?_append old t)
  rw [List.length_append]
  have := List.length_pos_iff.2 ne
  omega

/-- A character that no match begins with stays. -/
lemma replaceAll_of_ne {l : Char} {old : Text} (h : l ≠ c) (t : Text) :
    replaceAll (l :: old) new (c :: t) = c :: replaceAll (l :: old) new t :=
  replaceEach_cons_of_none (dropLead?_of_ne h t)

end SnippetCost.Text
