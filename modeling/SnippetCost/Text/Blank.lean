import SnippetCost.Text.Ranges

/-!
# Blanks

The characters with the Unicode property White_Space, and cutting them off a text. The line feed is a
blank like any other here; `SnippetCost.Text.Lines` cuts texts at it. The class is `isBlank`, and
`Text.trim` cuts blanks off.
-/

namespace SnippetCost

/-- The code points with the property White_Space. -/
def blankRanges : Ranges := [
  (0x9, 0xD), (0x20, 0x20), (0x85, 0x85), (0xA0, 0xA0), (0x1680, 0x1680), (0x2000, 0x200A),
  (0x2028, 0x2029), (0x202F, 0x202F), (0x205F, 0x205F), (0x3000, 0x3000)]

/-- Whether a character is white space. -/
def isBlank (c : Char) : Bool :=
  blankRanges.has c.toNat

namespace Text

/-- Whether all characters of a text are blanks. -/
def IsBlanks (t : Text) : Prop :=
  ∀ c ∈ t, isBlank c

/-- Whether no character of a text is a blank. -/
def IsSolid (t : Text) : Prop :=
  ∀ c ∈ t, isBlank c = false

instance (t : Text) : Decidable t.IsSolid :=
  List.decidableBAll (p := fun c => isBlank c = false) t

/-- The text without the blanks at its start. -/
def trimStart (t : Text) : Text :=
  t.dropWhile isBlank

/-- The text without the blanks at either end. -/
def trim (t : Text) : Text :=
  strip isBlank t

end Text

end SnippetCost
