import Mathlib.Order.Bounds.Basic
import SnippetCost.Proofs.Token.Grammar
import SnippetCost.Token.StringEnd

/-!
# Strings end at the first quote that closes them

Cutting a string takes a backslash and the character behind it at once. It ends all the same at the
first quote with an even number of backslashes in front of it, whatever characters stand in the string
and however many bytes they take.

`closesAt_iff` tells closing places by what stands in front of them, `isLeast_closesAt` and
`not_closesAt` are the two cases of a string, and the main result is `stringEnd_closes`.
-/

namespace SnippetCost

namespace Text

variable {u v w s : Text}

/-- A place behind the first character is counted from behind its bytes. -/
lemma behindBytes_cons {n : Nat} (pos : 0 < n) (c : Char) (t : Text) :
    behindBytes n (c :: t) = behindBytes (n - c.utf8Size) t := by
  cases n with
  | zero => cases pos
  | succ n => rfl

/-- Behind the bytes of the front stands the rest. -/
lemma behindBytes_append (u v : Text) : behindBytes (byteSize u) (u ++ v) = v := by
  induction u with
  | nil => cases v <;> rfl
  | cons c u ih =>
    have pos := c.utf8Size_pos
    rw [byteSize_cons, List.cons_append, behindBytes_cons (by omega), Nat.add_sub_cancel_left, ih]

/-- A place of a text tells what stands in front of it. -/
lemma append_inj_of_byteSize (e : u ++ v = w ++ s) (size : byteSize u = byteSize w) :
    u = w ∧ v = s := by
  have behind : v = s := by
    rw [← behindBytes_append u v, e, size, behindBytes_append]
  rw [behind] at e
  exact ⟨List.append_cancel_right e, behind⟩

/-- The bytes of a front end between two characters. -/
lemma isBoundary_append (u v : Text) : IsBoundary (u ++ v) (byteSize u) := by
  refine String.Pos.Raw.isValid_ofList.2 ⟨u.length, ?_⟩
  rw [List.take_left, byteSize]

end Text

namespace Token

open Text (byteSize byteSize_append byteSize_cons)

variable {front rest t : Text} {quote : Char} {n : Nat}

/-- The end of a string is where cutting it ends. -/
lemma stringEnd_eq (front rest : Text) (quote : Char) :
    stringEnd (front ++ quote :: rest) (byteSize front) quote =
      byteSize (front ++ quote :: (cutString quote rest).1) := by
  have body : byteSize front + quote.utf8Size = byteSize (front ++ [quote]) := by
    rw [byteSize_append, Text.byteSize_singleton]
  have split : front ++ quote :: rest = (front ++ [quote]) ++ rest := by
    rw [List.append_assoc, List.singleton_append]
  rw [stringEnd, body, split, Text.behindBytes_append, ← byteSize_append, List.append_assoc,
    List.singleton_append]

/-- A place closes a string exactly if a quote ends there that nothing escapes. -/
lemma closesAt_iff : ClosesAt (front ++ quote :: rest) (byteSize front) quote n ↔
    ∃ inner behind : Text, rest = inner ++ quote :: behind ∧ ¬ EscapesNext inner ∧
      byteSize (front ++ quote :: (inner ++ [quote])) = n := by
  constructor
  · rintro ⟨front', inner, behind, e, size, free, place⟩
    obtain ⟨rfl, behindFront⟩ := Text.append_inj_of_byteSize e size.symm
    exact ⟨inner, behind, (List.cons.inj behindFront).2, free, place⟩
  · rintro ⟨inner, behind, rfl, free, place⟩
    exact ⟨front, inner, behind, rfl, rfl, free, place⟩

/-- No quote that closes a string stands in front of one with only escaped quotes in front of it. -/
lemma AllEscaped.exists_append {inner other after behind : Text} (all : AllEscaped quote inner)
    (free : ¬ EscapesNext other) (e : inner ++ quote :: after = other ++ quote :: behind) :
    ∃ w, other = inner ++ w := by
  rcases List.append_eq_append_iff.1 e with ⟨w, rfl, -⟩ | ⟨w, rfl, ew⟩
  · exact ⟨w, rfl⟩
  · obtain rfl := all.eq_nil_of_append free ew
    exact ⟨[], by rw [List.append_nil, List.append_nil]⟩

/-- The first quote that nothing escapes closes a string. -/
lemma isLeast_closesAt {inner after : Text} (all : AllEscaped quote inner)
    (free : ¬ EscapesNext inner) (shape : rest = inner ++ quote :: after) :
    IsLeast {n | ClosesAt (front ++ quote :: rest) (byteSize front) quote n}
      (byteSize (front ++ quote :: (inner ++ [quote]))) := by
  refine ⟨closesAt_iff.2 ⟨inner, after, shape, free, rfl⟩, ?_⟩
  intro n closes
  obtain ⟨other, behind, e, free', rfl⟩ := closesAt_iff.1 closes
  rw [shape] at e
  obtain ⟨w, rfl⟩ := all.exists_append free' e
  simp only [byteSize_append, byteSize_cons]
  omega

/-- Where every quote is escaped no place closes a string. -/
lemma not_closesAt (all : AllEscaped quote rest) (n : Nat) :
    ¬ ClosesAt (front ++ quote :: rest) (byteSize front) quote n := by
  intro closes
  obtain ⟨inner, behind, e, free, -⟩ := closesAt_iff.1 closes
  exact free (all inner behind e)

/-- The string that a quote begins ends behind the first later quote with an even number of
backslashes of the string in front of it, or at the end of the text if there is none. It ends behind
its beginning, and between two characters or at the end of the text. The token that is cut at the
quote reaches from one to the other. -/
theorem stringEnd_closes (isQuote : IsQuote quote) (place : t = front ++ quote :: rest) :
    (IsLeast {n | ClosesAt t (byteSize front) quote n} (stringEnd t (byteSize front) quote) ∨
      (∀ n, ¬ ClosesAt t (byteSize front) quote n) ∧
        stringEnd t (byteSize front) quote = byteSize t) ∧
    byteSize front < stringEnd t (byteSize front) quote ∧
    Text.IsBoundary t (stringEnd t (byteSize front) quote) ∧
    byteSize (front ++ (first quote rest).1.text) = stringEnd t (byteSize front) quote := by
  subst place
  have string := isStringBody_cutString (backslash_of_isQuote isQuote) rest
  have join := cutString_append quote rest
  rw [stringEnd_eq, first_of_isQuote isQuote]
  generalize (cutString quote rest).1 = body at string join ⊢
  generalize (cutString quote rest).2 = after at string join ⊢
  refine ⟨?_, ?_, ?_, rfl⟩
  · cases string with
    | closed all free =>
      left
      rw [List.append_assoc, List.singleton_append] at join
      exact isLeast_closesAt all free join.symm
    | unclosed all =>
      right
      rw [List.append_nil] at join
      rw [← join]
      exact ⟨not_closesAt all, rfl⟩
  · have pos := quote.utf8Size_pos
    rw [byteSize_append, byteSize_cons]
    omega
  · have shape : front ++ quote :: rest = (front ++ quote :: body) ++ after := by
      rw [← join, List.append_assoc, List.cons_append]
    rw [shape]
    exact Text.isBoundary_append _ _

/-- The first quote is escaped and the one behind two backslashes closes the string:
`x = "é\"\\" + y`. -/
theorem stringEnd_closes_escapedQuote :
    IsQuote '"' ∧ "x = \"é\\\"\\\\\" + y".toList = "x = ".toList ++ '"' :: "é\\\"\\\\\" + y".toList ∧
      IsLeast {n | ClosesAt "x = \"é\\\"\\\\\" + y".toList 4 '"' n} 12 := by
  have place : "x = \"é\\\"\\\\\" + y".toList = "x = ".toList ++ '"' :: "é\\\"\\\\\" + y".toList := by
    decide
  have start : byteSize "x = ".toList = 4 := by decide
  have stop : stringEnd "x = \"é\\\"\\\\\" + y".toList 4 '"' = 12 := by decide
  have closes := (stringEnd_closes (.inr rfl) place).1
  rw [start, stop] at closes
  refine ⟨.inr rfl, place, closes.resolve_right ?_⟩
  rintro ⟨-, atEnd⟩
  exact absurd atEnd (by decide)

end Token

end SnippetCost
