import SnippetCost.Text.Basic

/-!
# Lower case

Lower case as far as ASCII words can see it. The ASCII capitals have ASCII small letters, the Kelvin
sign becomes `k`, and the capital `İ` becomes `i` with a combining dot above. The lower case of
every other character lies outside ASCII, like the character itself, so leaving it alone changes no
answer to the question whether the lower case of a text equals or holds an ASCII word.
-/

namespace SnippetCost

/-- The small letter of an ASCII capital; any other character is left alone. -/
def asciiLower (c : Char) : Char :=
  if 'A' ≤ c && c ≤ 'Z' then Char.ofNat (c.toNat + 32) else c

/-- The lower case of a character, where it lies in ASCII. -/
def lowerChar (c : Char) : Text :=
  if c = '\u212a' then ['k']
  else if c = '\u0130' then ['i', '\u0307']
  else [asciiLower c]

/-- The lower case of a text, where it lies in ASCII. -/
def Text.lower (t : Text) : Text :=
  t.flatMap lowerChar

end SnippetCost
