import Mathlib.Tactic.Lemma
import SnippetCost.Text.Blank
import SnippetCost.Text.Lines
import SnippetCost.Text.Lower

/-!
# ASCII case

Writing a text in ASCII small letters leaves its blanks where they are, so it is cut at them alike.

What holds of all characters is `asciiLower_induction`. The main results are
`trimStart_map_asciiLower` and `cutAt_map_asciiLower`.
-/

namespace SnippetCost

/-- What holds of the ASCII letters and of every character that is its own small letter holds of all
characters and their small letters. -/
lemma asciiLower_induction {p : Char → Char → Prop}
    (letters : ∀ n ≤ 'Z'.toNat, p (Char.ofNat n) (asciiLower (Char.ofNat n)))
    (same : ∀ c, p c c) (c : Char) : p c (asciiLower c) := by
  by_cases capital : 'A' ≤ c ∧ c ≤ 'Z'
  · have letter := letters c.toNat capital.2
    rwa [Char.ofNat_toNat] at letter
  · have self : asciiLower c = c := by
      rw [asciiLower, if_neg (by simpa using capital)]
    rw [self]
    exact same c

/-- A small letter has itself for its small letter. -/
lemma asciiLower_asciiLower (c : Char) : asciiLower (asciiLower c) = asciiLower c :=
  asciiLower_induction (p := fun c d => asciiLower d = asciiLower c) (by decide +kernel)
    (fun _ => rfl) c

/-- The case of a character does not change whether it is a blank. -/
lemma isBlank_asciiLower (c : Char) : isBlank (asciiLower c) = isBlank c :=
  asciiLower_induction (p := fun c d => isBlank d = isBlank c) (by decide +kernel) (fun _ => rfl) c

namespace Text

/-- A text in small letters is its own text in small letters. -/
lemma map_asciiLower_idem (t : Text) : (t.map asciiLower).map asciiLower = t.map asciiLower := by
  rw [List.map_map]
  exact List.map_congr_left fun c _ => asciiLower_asciiLower c

/-- The blanks at the start of a text do not depend on its case. -/
lemma takeWhile_map_asciiLower (t : Text) :
    (t.map asciiLower).takeWhile isBlank = (t.takeWhile isBlank).map asciiLower := by
  have blank : isBlank ∘ asciiLower = isBlank := funext isBlank_asciiLower
  rw [List.takeWhile_map, blank]

/-- Trimming the start of a text does not depend on its case. -/
lemma trimStart_map_asciiLower (t : Text) :
    trimStart (t.map asciiLower) = (trimStart t).map asciiLower := by
  have blank : isBlank ∘ asciiLower = isBlank := funext isBlank_asciiLower
  rw [trimStart, trimStart, List.dropWhile_map, blank]

/-- Cutting a text at its blanks does not depend on its case. -/
lemma cutAt_map_asciiLower (t : Text) :
    cutAt isBlank (t.map asciiLower) = (cutAt isBlank t).map (List.map asciiLower) := by
  induction t with
  | nil => rfl
  | cons c t ih =>
    rw [List.map_cons, cutAt, cutAt, isBlank_asciiLower, ih]
    split
    · rfl
    · cases cutAt isBlank t <;> rfl

/-- Joining pieces does not depend on their case. -/
lemma joinSpaced_map_asciiLower (pieces : List Text) :
    joinSpaced (pieces.map (List.map asciiLower)) = (joinSpaced pieces).map asciiLower := by
  have space : asciiLower ' ' = ' ' := rfl
  induction pieces with
  | nil => rfl
  | cons piece pieces ih =>
    cases pieces with
    | nil => simp [joinSpaced, List.intercalate]
    | cons next pieces => simpa [joinSpaced, List.intercalate, space] using ih

end Text

end SnippetCost
