import SnippetCost.Text.Lines

/-!
# Paths

A path is read as its parts, `PathPart.ofPath`. A slash at its beginning is the root, and the pieces
between slashes are names. A piece that is empty is no part, so that several slashes count as one and a
slash at the end as none; nor is a single point, unless the path begins with it. Two paths with the
same parts are the same path, whatever files there are.
-/

namespace SnippetCost

/-- A part of a path. -/
inductive PathPart where
  | root
  /-- A single point at the beginning. -/
  | here
  | parent
  | name (t : Text)
deriving DecidableEq, Repr

namespace PathPart

/-- The part that a piece between slashes is, if it is one wherever it stands. -/
def ofPiece? : Text → Option PathPart
  | [] | ['.'] => none
  | ['.', '.'] => some parent
  | piece => some (name piece)

/-- What is a part only at the beginning of a path. -/
def beginning : Text → List PathPart
  | '/' :: _ => [root]
  | ['.'] | '.' :: '/' :: _ => [here]
  | _ => []

/-- The parts of a path. -/
def ofPath (path : Text) : List PathPart :=
  beginning path ++ (Text.cutAt (· = '/') path).filterMap ofPiece?

end PathPart

end SnippetCost
