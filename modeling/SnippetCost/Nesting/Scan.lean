import SnippetCost.Nesting.Line
import SnippetCost.Text.Lines

/-!
# Nesting of loops

The depth to which loops are nested, told by indentation alone. A scan keeps the columns of the loop
headers whose bodies are open. A header that is not indented deeper than the innermost open loop closes
the loops at its own column and beyond; any other line closes the loops beyond its column. Loops one
after another at the same column therefore do not add up. The state is `NestingScan`, one line is
`NestingScan.feed`, and the depth of a text is `loopDepth`.
-/

namespace SnippetCost

/-- What a scan knows after some lines. -/
structure NestingScan where
  /-- The columns of the open loops, the innermost first. -/
  columns : List Nat := []
  /-- How many loops are open. -/
  depth : Nat := 0
  /-- The largest depth so far. -/
  deepest : Nat := 0
deriving DecidableEq, Repr

namespace NestingScan

/-- The scan before the first line. -/
def start : NestingScan := {}

/-- Close the innermost open loops as long as their columns satisfy `p`. -/
def closeWhile (p : Nat → Bool) (s : NestingScan) : NestingScan :=
  { s with
    columns := s.columns.dropWhile p
    depth := s.depth - (s.columns.takeWhile p).length }

/-- Open a loop at a column. -/
def openAt (column : Nat) (s : NestingScan) : NestingScan :=
  { columns := column :: s.columns
    depth := s.depth + 1
    deepest := max s.deepest (s.depth + 1) }

/-- Read one line. Blank lines and comments change nothing. -/
def feed (s : NestingScan) (line : Text) : NestingScan :=
  if Text.isSignificant line then
    let column := Text.indentation line
    if Text.opensLoop line then (s.closeWhile (column ≤ ·)).openAt column
    else s.closeWhile (column < ·)
  else s

/-- Read lines in order. -/
def feedAll (s : NestingScan) (lines : List Text) : NestingScan :=
  lines.foldl feed s

end NestingScan

/-- The largest number of loops open at once in some lines. -/
def loopDepthOfLines (lines : List Text) : Nat :=
  (NestingScan.start.feedAll lines).deepest

/-- The largest number of loops open at once in a text. -/
def loopDepth (t : Text) : Nat :=
  loopDepthOfLines (Text.lines t)

end SnippetCost
