import SnippetCost.Proofs.Text.Basic
import SnippetCost.Proofs.Text.Number
import SnippetCost.Proofs.Yaml.Cursor
import SnippetCost.Yaml.Scalar

/-!
# What the nodes of written trees stand for

The leaves that stand for texts, numbers and truth values are read back as what they stand for, and a
mapping as its members. A text is quoted if it could be read as something else, but every scalar is
taken as a text where one is expected, so quotes are needed only for the empty text and for a dash.

The main results are `text?_ofText`, `truth?_ofBool` and `word64?_ofNat` for the leaves and
`members?_mapping` for mappings; the numbers rest on `unsigned?_ofNat`.
-/

namespace SnippetCost.Yaml

variable {t : Text}

/-- Digits are safe characters. -/
lemma isSafeChar_of_isAsciiDigit {c : Char} (h : isAsciiDigit c) : isSafeChar c := by
  simp [isSafeChar, isAsciiAlphanumeric, h]

/-- Digits have no sign of another base in front. -/
lemma cutBase?_of_digits (h : t.all isAsciiDigit) : cutBase? t = none := by
  fun_cases cutBase? t with
  | case4 => rfl
  | _ => simp [isAsciiDigit] at h

/-- A written number has no zero in front that says nothing. -/
lemma hasIdleZero_ofNat (n : Nat) : hasIdleZero (Text.ofNat n) = false := by
  generalize digits : Text.ofNat n = t
  fun_cases hasIdleZero t with
  | case1 c rest =>
    have zero : n = 0 := Text.eq_zero_of_head?_ofNat (by rw [digits]; rfl)
    rw [zero] at digits
    cases digits
  | case2 => rfl

/-- A number is read back from its digits. -/
lemma unsigned?_ofNat {n most : Nat} (le : n ≤ most) : unsigned? most (Text.ofNat n) = some n := by
  have digits := Text.all_isAsciiDigit_ofNat n
  have noPlus : Text.dropLead? ['+'] (Text.ofNat n) = none := by
    cases h : Text.dropLead? ['+'] (Text.ofNat n) with
    | none => rfl
    | some rest =>
      rw [Text.dropLead?_eq_some] at h
      rw [h] at digits
      cases digits
  simp [unsigned?, noPlus, cutBase?_of_digits digits, hasIdleZero_ofNat, Text.digits?_ofNat, le]

namespace Tree

/-- No members are readable. -/
lemma areReadable_nil : AreReadable [] := by
  rw [AreReadable]
  trivial

/-- A mapping of readable members, one at least, is readable. -/
lemma isReadable_mapping {ms : List (Text × Tree)} (some : ms ≠ []) (h : AreReadable ms) :
    (mapping ms).IsReadable := by
  rw [Tree.IsReadable]
  exact ⟨some, h⟩

/-- Readable members behind readable members are readable. -/
lemma areReadable_append {ms ms' : List (Text × Tree)} (h : AreReadable ms)
    (h' : AreReadable ms') : AreReadable (ms ++ ms') := by
  induction ms with
  | nil => exact h'
  | cons m ms ih =>
    rw [AreReadable] at h
    rw [List.cons_append, AreReadable]
    exact ⟨h.1, h.2.1, ih h.2.2⟩

/-- The leaf of a text of safe characters is readable. -/
lemma isReadable_ofText (h : t.all isSafeChar) : (ofText t).IsReadable := by
  rw [ofText, IsReadable, isLeafText, h, Bool.true_and]
  cases quotes : needsQuotes t with
  | true => rfl
  | false =>
    have some : t ≠ [] := by
      rintro rfl
      cases quotes
    have noDash : t ≠ ['-'] := by
      rintro rfl
      cases quotes
    simp [some, noDash]

/-- The leaf of a number is readable. -/
lemma isReadable_ofNat (n : Nat) : (ofNat n).IsReadable := by
  have digits := Text.all_isAsciiDigit_ofNat n
  have safe : (Text.ofNat n).all isSafeChar :=
    List.all_eq_true.2 fun c mem => isSafeChar_of_isAsciiDigit (List.all_eq_true.1 digits c mem)
  have noDash : Text.ofNat n ≠ ['-'] := by
    intro h
    rw [h] at digits
    cases digits
  simp [ofNat, IsReadable, isLeafText, safe, noDash, Text.ofNat_ne_nil]

/-- The leaf of a truth value is readable. -/
lemma isReadable_ofBool (b : Bool) : (ofBool b).IsReadable := by
  cases b <;> rfl

end Tree

namespace Node

variable (known : Anchors)

/-- A text is read back from its leaf. -/
lemma text?_ofText (t : Text) : (Tree.ofText t).node.text? known = some t :=
  rfl

/-- A truth value is read back from its leaf. -/
lemma truth?_ofBool (b : Bool) : (Tree.ofBool b).node.truth? known = some b := by
  cases b <;> rfl

/-- A number that is not too large is read back from its leaf. -/
lemma number?_ofNat {n most : Nat} (le : n ≤ most) :
    (Tree.ofNat n).node.number? known most = some n :=
  unsigned?_ofNat le

/-- A word is read back from the leaf of its number. -/
lemma word64?_ofNat (w : UInt64) : (Tree.ofNat w.toNat).node.word64? known = some w := by
  have le : w.toNat ≤ wordMax 64 := Nat.le_sub_one_of_lt w.toNat_lt
  rw [word64?, number?_ofNat known le, Option.map_some, UInt64.ofNat_toNat]

/-- No number reads as nothing. -/
lemma isBlank?_ofNat (n : Nat) : (Tree.ofNat n).node.isBlank? known = some false := by
  have digits := Text.all_isAsciiDigit_ofNat n
  have noWord : Text.ofNat n ∉ blankWords := by
    have words : blankWords.all fun word => !word.all isAsciiDigit := rfl
    intro mem
    have := List.all_eq_true.1 words _ mem
    simp [digits] at this
  have noBlank : Scalar.isBlank? { text := Text.ofNat n } = some false := by
    simp [Scalar.isBlank?, noWord, Text.ofNat_ne_nil]
  exact noBlank

/-- A mapping stands for something. -/
lemma isBlank?_mapping (ms : List (Text × Tree)) :
    (Tree.mapping ms).node.isBlank? known = some false :=
  rfl

/-- The members of a written mapping are the nodes of its members. -/
lemma members?_mapping (ms : List (Text × Tree)) :
    (Tree.mapping ms).node.members? known = some (ms.map fun m => (m.1, m.2.node)) := by
  rw [members?]
  change (Tree.memberNodes ms).mapM _ = _
  induction ms with
  | nil => rfl
  | cons m ms ih =>
    rw [Tree.memberNodes, List.mapM_cons, ih]
    rfl

end Node

end SnippetCost.Yaml
