import SnippetCost.Text.Basic

/-!
# Lines

Cutting a text into pieces, and into lines. A line ends at a line feed; one carriage return directly
before the line feed belongs to the line's end, any other carriage return to the line. The text behind
the last line feed is a line only if it is not empty. The pieces are `Text.cutAt` and the lines
`Text.lines`.
-/

namespace SnippetCost.Text

/-- Put a character before the first of the pieces. -/
def consFirst (c : Char) : List Text → List Text
  | [] => [[c]]
  | piece :: pieces => (c :: piece) :: pieces

/-- Cut a text at every character of `p`, which belongs to no piece. -/
def cutAt (p : Char → Bool) : Text → List Text
  | [] => [[]]
  | c :: rest => if p c then [] :: cutAt p rest else consFirst c (cutAt p rest)

/-- Cut a text at its line feeds. -/
def cutLines (t : Text) : List Text :=
  cutAt (· = '\n') t

/-- A line without one carriage return at its end. -/
def dropReturn : Text → Text
  | [] => []
  | ['\r'] => []
  | c :: rest => c :: dropReturn rest

/-- The lines among the pieces between line feeds: only the last piece has no line feed behind it. -/
def linesOfPieces : List Text → List Text
  | [] => []
  | [last] => if last.isEmpty then [] else [last]
  | piece :: pieces => dropReturn piece :: linesOfPieces pieces

/-- The lines of a text. -/
def lines (t : Text) : List Text :=
  linesOfPieces (cutLines t)

/-- Lines joined by line feeds. -/
def joinLines (ls : List Text) : Text :=
  List.intercalate ['\n'] ls

/-- Pieces joined by single spaces. -/
def joinSpaced (ls : List Text) : Text :=
  List.intercalate [' '] ls

end SnippetCost.Text
