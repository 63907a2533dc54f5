import SnippetCost.Yaml.Cursor

/-!
# Folding of lines

A scalar that runs over several lines is joined to one text. A single line's end becomes a space, of
several the first is dropped, and spaces around them are lost; spaces within a line are kept.
-/

namespace SnippetCost.Yaml

/-- What has been read since the last character of a scalar. -/
inductive Gap where
  /-- Spaces and tabs of one line. -/
  | spaces (t : Text)
  /-- Ends of lines, and spaces around them that are lost. -/
  | breaks (t : Text)
  /-- Ends of lines behind one that a backslash has taken away. -/
  | escaped (t : Text)
deriving DecidableEq, Repr

namespace Gap

/-- Nothing has been read. -/
def none : Gap :=
  spaces []

/-- Whether a line has ended. -/
def endsLine : Gap → Bool
  | spaces _ => false
  | breaks _ | escaped _ => true

/-- The gap with a space or tab behind it. -/
def addSpace (c : Char) : Gap → Gap
  | spaces t => spaces (t ++ [c])
  | g => g

/-- The gap with the end of a line behind it. -/
def addBreak (c : Char) : Gap → Gap
  | spaces _ => breaks [c]
  | breaks t => breaks (t ++ [c])
  | escaped t => escaped (t ++ [c])

/-- What a gap between two characters of a scalar is read as. -/
def folded : Gap → Text
  | spaces t => t
  | breaks ['\n'] => [' ']
  | breaks ('\n' :: more) => more
  | breaks t => t
  | escaped t => t

end Gap

end SnippetCost.Yaml
