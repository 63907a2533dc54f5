import SnippetCost.Text.Number

/-!
# Escapes

Within quotes a backslash begins an escape. It is followed by one letter, or by a letter and the
hexadecimal digits of a code point.
-/

namespace SnippetCost

/-- How far an escape has been read. -/
inductive Escape where
  /-- No escape has begun. -/
  | off
  /-- The backslash has been read. -/
  | begun
  /-- So many digits of a code point are still to come, behind digits of the given value. -/
  | digits (left value : Nat)
deriving DecidableEq, Repr

end SnippetCost
