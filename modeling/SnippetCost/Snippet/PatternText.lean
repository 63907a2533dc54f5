import SnippetCost.Text.Basic

/-!
# Patterns as texts

The pattern for the calls of a function is written from its name, `Pattern.callPattern`: the edge of a
word, the characters of the name, those that mean something in a pattern behind a backslash, and an
opening parenthesis. Before it is searched for, a `PatternBuilder` has to build it, and what the builder
may take for one pattern is bounded, so that a pattern can be too large.
-/

namespace SnippetCost

/-- What builds patterns. -/
class PatternBuilder where
  /-- Whether a pattern can be built. -/
  builds : Text → Bool

namespace Pattern

/-- Whether a character means something else than itself in a pattern. -/
def isSpecial (c : Char) : Bool :=
  "\\.+*?()|[]\x7b\x7d^$#&-~".toList.contains c

/-- The pattern that only a text itself matches. -/
def literal (t : Text) : Text :=
  t.flatMap fun c => if isSpecial c then ['\\', c] else [c]

/-- The pattern for the calls of a function. -/
def callPattern (name : Text) : Text :=
  "\\b".toList ++ (literal name ++ "\\(".toList)

end Pattern

/-- The standard builder takes thirty-two bytes for each byte of a pattern, and ten mebibytes at
most. -/
instance PatternBuilder.standard : PatternBuilder where
  builds pattern := 32 * Text.byteSize pattern ≤ 10 * 1024 * 1024

end SnippetCost
