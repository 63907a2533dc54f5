import Mathlib.Tactic.Lemma
import SnippetCost.Token.Cutting
import SnippetCost.Token.Grammar

/-!
# Where a string ends

Cutting passes over a backslash together with the character behind it, while the grammar counts the
backslashes in front of a quote. Both find the same end: a backslash and the character behind it
change for no later quote whether the number of backslashes in front of it is odd.

`escapesNext_cons` and `escapesNext_pair` are the two steps. Cutting gives a body of the grammar,
`isStringBody_cutString`, and there is no other, `IsStringBody.unique`; the main result is
`IsStringBody.cutString_eq`.
-/

namespace SnippetCost.Token

variable {quote c : Char} {t u v body rest : Text}

/-- A string and what follows it make up the text. -/
lemma cutString_append (quote : Char) (t : Text) :
    (cutString quote t).1 ++ (cutString quote t).2 = t := by
  fun_induction cutString quote t with
  | case1 => rfl
  | case2 c rest body after h ih => simpa [h] using ih
  | case3 rest => rfl
  | case4 c rest _ hq body after h ih => simpa [h] using ih

/-- Nothing escapes no character. -/
lemma not_escapesNext_nil : ¬ EscapesNext [] := by
  simp [EscapesNext]

/-- One backslash escapes the character behind it. -/
lemma escapesNext_backslash : EscapesNext ['\\'] := by
  simp [EscapesNext]

/-- Only backslashes at the end of a text escape what follows it. -/
lemma escapesNext_cons (h : c ≠ '\\') : EscapesNext (c :: t) ↔ EscapesNext t := by
  rw [EscapesNext, EscapesNext, List.reverse_cons, List.takeWhile_append]
  split
  · next all =>
    rw [all]
    simp [h]
  · rfl

/-- A backslash and the character behind it escape nothing further. -/
lemma escapesNext_pair (c : Char) : EscapesNext ('\\' :: c :: t) ↔ EscapesNext t := by
  rw [EscapesNext, EscapesNext, List.reverse_cons, List.reverse_cons, List.append_assoc,
    List.takeWhile_append]
  split
  · next all =>
    rw [all]
    by_cases h : c = '\\'
    · simp [h, Nat.add_mod_right]
    · simp [h]
  · rfl

/-- In the empty text every quote is escaped. -/
lemma allEscaped_nil (quote : Char) : AllEscaped quote [] := by
  intro u v e
  simp at e

/-- A backslash is no quote that could close a string. -/
lemma allEscaped_backslash (h : quote ≠ '\\') : AllEscaped quote ['\\'] := by
  intro u v e
  cases u with
  | nil => exact absurd (List.cons.inj e).1.symm h
  | cons d u => simp at e

/-- A character in front, neither quote nor backslash, leaves every quote escaped. -/
lemma AllEscaped.cons (h : c ≠ '\\') (ne : c ≠ quote) (all : AllEscaped quote t) :
    AllEscaped quote (c :: t) := by
  intro u v e
  cases u with
  | nil => exact absurd (List.cons.inj e).1 ne
  | cons d u =>
    obtain ⟨rfl, tail⟩ := List.cons.inj e
    exact (escapesNext_cons h).2 (all u v tail)

/-- A backslash and the character behind it leave every quote escaped. -/
lemma AllEscaped.pair (h : quote ≠ '\\') (c : Char) (all : AllEscaped quote t) :
    AllEscaped quote ('\\' :: c :: t) := by
  intro u v e
  cases u with
  | nil => exact absurd (List.cons.inj e).1.symm h
  | cons d u =>
    obtain ⟨rfl, tail⟩ := List.cons.inj e
    cases u with
    | nil => exact escapesNext_backslash
    | cons d u =>
      obtain ⟨rfl, behind⟩ := List.cons.inj tail
      exact (escapesNext_pair c).2 (all u v behind)

/-- A character in front, neither quote nor backslash, leaves the body of a string one. -/
lemma IsStringBody.cons (h : c ≠ '\\') (ne : c ≠ quote) (body : IsStringBody quote t rest) :
    IsStringBody quote (c :: t) rest := by
  cases body with
  | @closed inner _ all free => exact .closed (all.cons h ne) (by rwa [escapesNext_cons h])
  | unclosed all => exact .unclosed (all.cons h ne)

/-- A backslash and the character behind it leave the body of a string one. -/
lemma IsStringBody.pair (h : quote ≠ '\\') (c : Char) (body : IsStringBody quote t rest) :
    IsStringBody quote ('\\' :: c :: t) rest := by
  cases body with
  | @closed inner _ all free => exact .closed (all.pair h c) (by rwa [escapesNext_pair])
  | unclosed all => exact .unclosed (all.pair h c)

/-- Cutting finds the end of a string. -/
lemma isStringBody_cutString (h : quote ≠ '\\') (t : Text) :
    IsStringBody quote (cutString quote t).1 (cutString quote t).2 := by
  fun_induction cutString quote t with
  | case1 => exact .unclosed (allEscaped_nil quote)
  | case2 c rest body after e ih =>
    rw [e] at ih
    exact ih.pair h c
  | case3 rest =>
    exact .closed (allEscaped_nil _) not_escapesNext_nil
  | case4 c rest pair ne body after e ih =>
    rw [e] at ih
    by_cases backslash : c = '\\'
    · -- a backslash that no character stands behind ends the text
      subst backslash
      cases rest with
      | nil =>
        cases e
        exact .unclosed (allEscaped_backslash h)
      | cons d rest => exact absurd rfl (pair d rest rfl)
    · exact ih.cons backslash ne

/-- Where all quotes are escaped, none stands behind a text that escapes nothing. -/
lemma AllEscaped.eq_nil_of_append {s : Text} (all : AllEscaped quote (u ++ v))
    (free : ¬ EscapesNext u) (e : quote :: s = v ++ t) : v = [] := by
  cases v with
  | nil => rfl
  | cons d v =>
    obtain ⟨rfl, -⟩ := List.cons.inj e
    exact absurd (all u v rfl) free

/-- A string has one end: the first quote that is not escaped cannot stand in front of another that
is the first. -/
lemma IsStringBody.unique {body' rest' : Text} (h : IsStringBody quote body rest)
    (h' : IsStringBody quote body' rest') (e : body ++ rest = body' ++ rest') :
    body = body' ∧ rest = rest' := by
  cases h with
  | @closed inner _ all free =>
    cases h' with
    | @closed inner' _ all' free' =>
      rw [List.append_assoc, List.append_assoc] at e
      rcases List.append_eq_append_iff.1 e with ⟨w, rfl, ew⟩ | ⟨w, rfl, ew⟩
      · obtain rfl := all'.eq_nil_of_append free ew
        exact ⟨by rw [List.append_nil], (List.cons.inj ew).2⟩
      · obtain rfl := all.eq_nil_of_append free' ew
        exact ⟨by rw [List.append_nil], (List.cons.inj ew).2.symm⟩
    | unclosed all' =>
      rw [List.append_nil, List.append_assoc] at e
      exact absurd (all' _ _ e.symm) free
  | unclosed all =>
    cases h' with
    | @closed inner' _ all' free' =>
      rw [List.append_nil, List.append_assoc] at e
      exact absurd (all _ _ e) free'
    | unclosed all' =>
      rw [List.append_nil, List.append_nil] at e
      exact ⟨e, rfl⟩

/-- The body of a string is what is cut. -/
lemma IsStringBody.cutString_eq (h : quote ≠ '\\') (string : IsStringBody quote body rest) :
    cutString quote (body ++ rest) = (body, rest) := by
  obtain ⟨eb, er⟩ :=
    (isStringBody_cutString h (body ++ rest)).unique string (cutString_append quote _)
  exact Prod.ext eb er

end SnippetCost.Token
