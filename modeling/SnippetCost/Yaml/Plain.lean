import SnippetCost.Yaml.Folding

/-!
# Plain scalars

A scalar without quotes ends at a colon before a space, at a comment, at a line that is not indented
deeply enough, and within braces at the characters that structure them.
-/

namespace SnippetCost.Yaml

/-- The characters that structure a document written in braces and brackets. -/
def flowMarks : List Char :=
  [',', '[', ']', '\x7b', '\x7d']

/-- The characters that begin something else than a plain scalar. -/
def indicators : List Char :=
  flowMarks ++ ['-', '?', ':', '#', '&', '*', '!', '|', '>', '\'', '"', '%', '@', '\x60']

/-- Whether a plain scalar can begin with `c` before `rest`. -/
def beginsPlain (flow : Bool) (c : Char) (rest : Text) : Bool :=
  if c = '-' then !endsWord rest
  else if c = '?' || c = ':' then !flow && !endsWord rest
  else !indicators.contains c && !endsWord [c]

/-- Whether a plain scalar ends before `c`, whatever stands before it. -/
def endsPlain (flow : Bool) (c : Char) (rest : Text) : Bool :=
  (c = ':' && endsWord rest) || (flow && flowMarks.contains c)

/-- Whether a colon stands where none may: within braces, before a mark that structures them. -/
def isStrayColon (flow : Bool) (c : Char) (rest : Text) : Bool :=
  flow && c = ':' && rest.head?.any fun d => d = '?' || flowMarks.contains d

/-- Whether a plain scalar ends before `c` because of the gap before it: a comment, the mark of a
document, or a line indented less than `floor`. -/
def endsAfterGap (flow : Bool) (floor : Nat) (gap : Gap) (place : Cursor) : Bool :=
  gap ≠ .none &&
    (place.rest.head? = some '#' || place.atMarker
      || (!flow && gap.endsLine && place.column < floor))

/-- Read the rest of a plain scalar behind `gap`. A tab may not indent a line. -/
def readPlainFrom (flow : Bool) (floor : Nat) (gap : Gap) (line column : Nat) :
    Text → Option (Text × Cursor)
  | [] => some ([], ⟨line, column, gap.endsLine, []⟩)
  | c :: rest =>
    if isSpace c then
      if gap.endsLine && c = '\t' && column < floor then none
      else readPlainFrom flow floor (gap.addSpace c) line (column + 1) rest
    else if isBreak c then readPlainFrom flow floor (gap.addBreak c) (line + 1) 0 rest
    else if endsAfterGap flow floor gap ⟨line, column, gap.endsLine, c :: rest⟩ then
      some ([], ⟨line, column, gap.endsLine, c :: rest⟩)
    else if isStrayColon flow c rest then none
    else if endsPlain flow c rest then some ([], ⟨line, column, gap.endsLine, c :: rest⟩)
    else
      (readPlainFrom flow floor .none line (column + 1) rest).map fun (t, after) =>
        (gap.folded ++ c :: t, after)

/-- Read a plain scalar. Its lines behind the first are indented by `floor` or more. -/
def readPlain? (flow : Bool) (floor : Nat) (c : Cursor) : Option (Text × Cursor) :=
  match c.rest with
  | [] => none
  | d :: rest =>
    if beginsPlain flow d rest then readPlainFrom flow floor .none c.line c.column c.rest
    else none

end SnippetCost.Yaml
