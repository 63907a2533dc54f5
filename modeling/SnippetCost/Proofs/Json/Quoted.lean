import Mathlib.Tactic.Lemma
import SnippetCost.Json.Quoted

/-!
# Quoted strings are read back

Every character is read back from its written form, whatever follows it: a letter behind a backslash
stands for one character, and the code point of a control character is no half of a surrogate pair.

The main results are `readPieces?_quoted`, for all the characters of a text up to the quote behind
them, and `assemble?_chars`; the step is `readPieces?_quoteChar`.
-/

namespace SnippetCost.Json

variable {c letter : Char} {n : Nat}

/-- The letter that a character is written by stands for the character. -/
lemma escapeValue?_of_escapeLetter? (h : escapeLetter? c = some letter) :
    escapeValue? letter = some c := by
  rw [escapeLetter?.eq_def] at h
  split at h <;> cases h <;> rfl

/-- A character without an escape of its own ends no string and begins no escape. -/
lemma ne_of_escapeLetter?_eq_none (h : escapeLetter? c = none) : c ≠ '"' ∧ c ≠ '\\' := by
  constructor <;> rintro rfl <;> cases h

/-- A hexadecimal digit is read as the number it is written for. -/
lemma digitOf?_hexDigit (lt : n < 16) : digitOf? 16 (hexDigit n) = some n := by
  have all : ∀ n < 16, digitOf? 16 (hexDigit n) = some n := by decide
  exact all n lt

/-- Only the code points of surrogates are halves of a pair. -/
lemma Piece.ofCode_of_lt (c : Char) (lt : c.toNat < 0xD800) : Piece.ofCode c.toNat = .char c := by
  rw [ofCode, if_neg (by simp; omega), Char.ofNat_toNat]

/-- A character is read back from its written form. -/
lemma readPieces?_quoteChar (c : Char) (t : Text) :
    readPieces? .off (quoteChar c ++ t) =
      (readPieces? .off t).map fun read => (.char c :: read.1, read.2) := by
  rw [quoteChar]
  cases own : escapeLetter? c with
  | some letter =>
    have value := escapeValue?_of_escapeLetter? own
    simp [readPieces?, value]
  | none =>
    obtain ⟨quote, backslash⟩ := ne_of_escapeLetter?_eq_none own
    dsimp only
    split
    case isTrue control =>
      have high := digitOf?_hexDigit (show c.toNat / 16 < 16 by omega)
      have low := digitOf?_hexDigit (show c.toNat % 16 < 16 by omega)
      have zero : digitOf? 16 '0' = some 0 := rfl
      have noValue : escapeValue? 'u' = none := rfl
      have code : 16 * (c.toNat / 16) + c.toNat % 16 = c.toNat := Nat.div_add_mod _ _
      simp [readPieces?, noValue, zero, high, low, code, Piece.ofCode_of_lt c (by omega)]
    case isFalse printed =>
      simp [readPieces?, quote, backslash, printed]

/-- A text is read back from between its quotes. -/
lemma readPieces?_quoted (t rest : Text) :
    readPieces? .off (t.flatMap quoteChar ++ '"' :: rest) = some (t.map .char, rest) := by
  induction t with
  | nil => simp [readPieces?]
  | cons c t ih =>
    rw [List.flatMap_cons, List.append_assoc, readPieces?_quoteChar, ih]
    rfl

/-- Characters that are no halves of a pair make up their text. -/
lemma assemble?_chars (t : Text) : assemble? (t.map .char) = some t := by
  induction t with
  | nil => rfl
  | cons c t ih => rw [List.map_cons, assemble?, ih, Option.map_some]

end SnippetCost.Json
