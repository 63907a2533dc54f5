import Mathlib.Tactic.Lemma
import SnippetCost.Text.Basic
import SnippetCost.Text.Number

/-!
# Reading numbers back

The digits of a number are digits, the first of which is a zero for zero alone, and they are read as
the number.

The main results are `digits?_ofNat`, which rests on `digitsFrom?_ten`, and `eq_zero_of_head?_ofNat`.
-/

namespace SnippetCost

variable {c : Char} {t : Text}

/-- The digits are those of the library. -/
lemma isAsciiDigit_eq_isDigit (c : Char) : isAsciiDigit c = c.isDigit :=
  rfl

/-- A digit is read as its value. -/
lemma digitOf?_ten (h : isAsciiDigit c) : digitOf? 10 c = some (digitValue c) := by
  have le : c ≤ '9' := by
    simp only [isAsciiDigit, Bool.and_eq_true, decide_eq_true_eq] at h
    exact h.2
  have lt : digitValue c < 10 := by
    have : c.toNat ≤ 57 := UInt32.le_iff_toNat_le.1 le
    have zero : '0'.toNat = 48 := rfl
    rw [digitValue]
    omega
  rw [digitOf?, letterValue?, if_pos h, Option.filter_some, if_pos (by simpa using lt)]

/-- Digits are read from left to right. -/
lemma digitsFrom?_ten (h : t.all isAsciiDigit) (value : Nat) :
    digitsFrom? 10 value t = some (Nat.ofDigitChars 10 t value) := by
  induction t generalizing value with
  | nil => rfl
  | cons c t ih =>
    rw [List.all_cons, Bool.and_eq_true] at h
    rw [digitsFrom?, digitOf?_ten h.1]
    exact ih h.2 _

namespace Text

/-- A number has a digit at least. -/
lemma ofNat_ne_nil (n : Nat) : ofNat n ≠ [] :=
  Nat.toDigits_ne_nil

/-- A number is written in digits. -/
lemma all_isAsciiDigit_ofNat (n : Nat) : (ofNat n).all isAsciiDigit := by
  rw [List.all_eq_true]
  intro c mem
  rw [isAsciiDigit_eq_isDigit]
  exact Nat.isDigit_of_mem_toDigits (by decide) (by decide) mem

/-- A number is read back from its digits. -/
lemma digits?_ofNat (n : Nat) : digits? 10 (ofNat n) = some n := by
  rw [digits?, if_neg (ofNat_ne_nil n), digitsFrom?_ten (all_isAsciiDigit_ofNat n)]
  exact congrArg some (Nat.ofDigitChars_toDigits (by decide) (by decide))

/-- The first digit is a zero for zero alone. -/
lemma eq_zero_of_head?_ofNat {n : Nat} (h : (ofNat n).head? = some '0') : n = 0 := by
  induction n using Nat.strongRecOn with
  | ind n ih =>
    rw [ofNat, Nat.toDigits_eq_if (by decide)] at h
    split at h
    case isTrue lt =>
      have digits : ∀ n < 10, Nat.digitChar n = '0' → n = 0 := by decide
      exact digits n lt (Option.some.inj h)
    case isFalse le =>
      obtain ⟨c, t, digits⟩ := List.exists_cons_of_ne_nil (ofNat_ne_nil (n / 10))
      rw [ofNat] at digits
      rw [digits] at h
      have zero := ih (n / 10) (by omega) (by rw [ofNat, digits]; exact h)
      omega

end Text

end SnippetCost
