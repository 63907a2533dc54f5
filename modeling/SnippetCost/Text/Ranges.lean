import SnippetCost.Text.Basic

/-!
# Ranges of code points

A character class is given by the ranges of its code points. A search goes through the ranges of a
table in order, and stops at the first one that begins beyond the code point.
-/

namespace SnippetCost

/-- A table of inclusive ranges of code points. -/
abbrev Ranges := List (Nat × Nat)

namespace Ranges

/-- Whether a search finds a range that a code point lies in. -/
def has : Ranges → Nat → Bool
  | [], _ => false
  | (lo, hi) :: rest, n => lo ≤ n && (n ≤ hi || has rest n)

end Ranges

end SnippetCost
