import SnippetCost.Report.Basic
import SnippetCost.Report.FieldLine
import SnippetCost.Report.Rating

/-!
# Reading a report

A report is read line by line from free text. Lines between two fences are a block of code, and a fence
that is never closed runs to the end. Outside fences a line can hold a field; the first line that holds
a field decides, and the lines directly behind it continue its text, up to a line that is blank, begins
with a number sign, holds a field or opens a fence. Every text can be read. The state is `Reading`, one
line is `Reading.feed`, and `Report.read` reads a text.
-/

namespace SnippetCost

/-- Three backticks, which begin the line before and the line behind a block of code. -/
def fenceMark : String := "```"

/-- A block of code whose closing fence has not been read. -/
structure OpenBlock where
  language : Option Text
  /-- The lines of the block, the newest first. -/
  newest : List Text := []
deriving DecidableEq, Repr

namespace OpenBlock

/-- The block that a fence opens: what follows the fence names its language. -/
def ofInfo (info : Text) : OpenBlock :=
  let language := Text.trim info
  { language := if language = [] then none else some language }

/-- The block with one more line. -/
def push (b : OpenBlock) (line : Text) : OpenBlock :=
  { b with newest := line :: b.newest }

/-- The block as it stands in a report. -/
def close (b : OpenBlock) : CodeBlock :=
  { language := b.language, code := Text.joinLines b.newest.reverse }

end OpenBlock

/-- A text that is there, if it is not empty. -/
def nonEmpty? (t : Option Text) : Option Text :=
  t.filter (· ≠ [])

/-- What has been read of a report after some lines. -/
structure Reading where
  report : Report := {}
  /-- The block that is open, if a fence is. -/
  block : Option OpenBlock := none
  /-- The field that the next line can continue. -/
  current : Option Field := none
deriving DecidableEq, Repr

namespace Reading

/-- The value behind a label without the blanks and asterisks around it. -/
def cleanValue (t : Text) : Text :=
  Text.trim (Text.strip (· = '*') (Text.trim t))

/-- What follows the fence that a line begins with, its indentation apart. -/
def fenceInfo? (line : Text) : Option Text :=
  Text.dropLead? fenceMark.toList (Text.trimStart line)

/-- Read a line within a block. -/
def feedBlock (s : Reading) (b : OpenBlock) (line : Text) : Reading :=
  match fenceInfo? line with
  | some _ =>
    { s with
      report := { s.report with blocks := s.report.blocks ++ [b.close] }
      block := none }
  | none => { s with block := some (b.push line) }

/-- Take the value of a field: the first line that holds the field decides. A rating can still come
from a later line if the first gives none. -/
def takeField (s : Reading) (f : Field) (value : Text) : Reading :=
  match f with
  | .rating =>
    { s with
      report := { s.report with rating := s.report.rating.or (Rating.read? value) }
      current := none }
  | f =>
    match s.report.text? f with
    | none => { s with report := s.report.setText f (some value), current := some f }
    | some _ => { s with current := none }

/-- A text continued by another line. -/
def continueText (t line : Text) : Text :=
  if t = [] then line else t ++ ' ' :: line

/-- Read a line that continues the current field, if there is one. -/
def feedContinuation (s : Reading) (line : Text) : Reading :=
  match s.current with
  | none => s
  | some f =>
    match s.report.text? f with
    | none => s
    | some t =>
      { s with report := s.report.setText f (some (continueText t (Text.trim line))) }

/-- Whether a line ends the text of a field without holding anything itself. -/
def endsField (line : Text) : Bool :=
  match Text.trimStart line with
  | [] => true
  | c :: _ => c = '#'

/-- Read a line outside fences. -/
def feedProse (s : Reading) (line : Text) : Reading :=
  match fenceInfo? line with
  | some info => { s with block := some (.ofInfo info), current := none }
  | none =>
    match FieldLine.read? line with
    | some (label, value) =>
      match Field.ofLabel? label with
      | some f => s.takeField f (cleanValue value)
      | none => { s with current := none }
    | none => if endsField line then { s with current := none } else s.feedContinuation line

/-- Read one line. -/
def feed (s : Reading) (line : Text) : Reading :=
  match s.block with
  | some b => s.feedBlock b line
  | none => s.feedProse line

/-- Read lines in order. -/
def feedAll (s : Reading) (lines : List Text) : Reading :=
  lines.foldl feed s

/-- The report with a text that was left empty taken as missing. -/
def dropEmpty (r : Report) : Report :=
  { r with
    timeComplexity := nonEmpty? r.timeComplexity
    spaceComplexity := nonEmpty? r.spaceComplexity
    bottleneck := nonEmpty? r.bottleneck
    optimization := nonEmpty? r.optimization }

/-- The report that has been read when no line is left. -/
def finish (s : Reading) : Report :=
  dropEmpty <|
    match s.block with
    | some b => { s.report with blocks := s.report.blocks ++ [b.close] }
    | none => s.report

end Reading

/-- The report that a text holds. -/
def Report.read (t : Text) : Report :=
  (Reading.feedAll {} (Text.lines t)).finish

end SnippetCost
