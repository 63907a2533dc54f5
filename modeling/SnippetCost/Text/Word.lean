import SnippetCost.Text.Letter
import SnippetCost.Text.Number
import SnippetCost.Text.Mark

/-!
# Word characters and name characters

Two classes decide where a word ends, and they differ. Searching a text for a whole word looks at word
characters: letters, marks, decimal digits, connectors such as the underscore, and the joiners. Cutting
a line into words looks at name characters: letters, numbers of every kind, and the underscore. The
classes are `isWordChar` and `isNameChar`.
-/

namespace SnippetCost

/-- The code points of connector punctuation, the underscore among them. -/
def connectorRanges : Ranges := [
  (0x5F, 0x5F), (0x203F, 0x2040), (0x2054, 0x2054), (0xFE33, 0xFE34), (0xFE4D, 0xFE4F),
  (0xFF3F, 0xFF3F)]

/-- Whether a character is the zero-width joiner or non-joiner. -/
def isJoiner (c : Char) : Bool :=
  c = '\u200c' || c = '\u200d'

/-- Whether a character belongs to the words that a search sees. -/
def isWordChar (c : Char) : Bool :=
  isLetter c || isDecimal c || connectorRanges.has c.toNat || isMark c || isJoiner c

/-- Whether a character is a letter or a number. -/
def isAlphanumeric (c : Char) : Bool :=
  isLetter c || isDecimal c || isOtherNumber c

/-- Whether a character can stand within a name. -/
def isNameChar (c : Char) : Bool :=
  c = '_' || isAlphanumeric c

/-- Whether a character can begin a name. -/
def isNameStart (c : Char) : Bool :=
  c = '_' || isLetter c

/-- Whether a character is an ASCII letter. -/
def isAsciiLetter (c : Char) : Bool :=
  ('a' ≤ c && c ≤ 'z') || ('A' ≤ c && c ≤ 'Z')

/-- Whether a character is an ASCII letter or digit. -/
def isAsciiAlphanumeric (c : Char) : Bool :=
  isAsciiLetter c || isAsciiDigit c

end SnippetCost
