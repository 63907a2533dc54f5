import Mathlib.Tactic.Lemma
import SnippetCost.Report.Reading

/-!
# Regions of a report

What a report says, told by its regions: the lines outside fences one by one, and the blocks between
fences as wholes. Every part of the report is found in the regions on its own, without the state that
reading line by line carries along. The main definitions are `Region.ofLines` and `Report.ofRegions`.
-/

namespace SnippetCost

/-- A region of a report. -/
inductive Region where
  /-- A line outside fences. -/
  | prose (line : Text)
  /-- The lines behind a fence up to the next one, and what stands behind the first fence itself. -/
  | fenced (info : Text) (lines : List Text)
deriving DecidableEq, Repr

/-- The pieces that are not empty, one space apart. -/
def joinPieces (pieces : List Text) : Text :=
  Text.joinSpaced (pieces.filter (· ≠ []))

namespace Region

/-- Whether a line does not begin with a fence. -/
def isInside (line : Text) : Bool :=
  (Reading.fenceInfo? line).isNone

/-- What stands behind a block is no longer than the lines it begins. -/
lemma length_behind (lines : List Text) :
    ((lines.dropWhile isInside).drop 1).length ≤ lines.length := by
  have suffix := List.dropWhile_suffix isInside (l := lines)
  have := suffix.length_le
  rw [List.length_drop]
  omega

/-- The regions of the lines of a text. -/
def ofLines : List Text → List Region
  | [] => []
  | line :: lines =>
    match Reading.fenceInfo? line with
    | some info =>
      fenced info (lines.takeWhile isInside) :: ofLines ((lines.dropWhile isInside).drop 1)
    | none => prose line :: ofLines lines
termination_by lines => lines.length
decreasing_by
  · have := length_behind lines
    simp only [List.length_cons]
    omega
  · simp

/-- The block of code that a region is. -/
def block? : Region → Option CodeBlock
  | prose _ => none
  | fenced info lines =>
    some { language := nonEmpty? (some (Text.trim info)), code := Text.joinLines lines }

/-- The value that a region gives to a field: it is a line that holds the field. -/
def value? (f : Field) : Region → Option Text
  | prose line =>
    match FieldLine.read? line with
    | some (label, value) =>
      if Field.ofLabel? label = some f then some (Reading.cleanValue value) else none
    | none => none
  | fenced _ _ => none

/-- What a region adds to the text of the field before it: it is a line that is not blank, begins with
no number sign and has not the form of a field. -/
def continuation? : Region → Option Text
  | prose line =>
    if (FieldLine.read? line).isSome || Reading.endsField line then none else some (Text.trim line)
  | fenced _ _ => none

/-- What regions add to the text of the field before them, up to the first that adds nothing. -/
def continuations : List Region → List Text
  | [] => []
  | region :: regions =>
    match region.continuation? with
    | some piece => piece :: continuations regions
    | none => []

/-- The text of a field: the first region that gives the field a value, and what is added to it. -/
def fieldText? (f : Field) : List Region → Option Text
  | [] => none
  | region :: regions =>
    match region.value? f with
    | some value => some (joinPieces (value :: continuations regions))
    | none => fieldText? f regions

/-- The first rating that a value of the field gives. -/
def rating? (regions : List Region) : Option UInt8 :=
  (regions.filterMap (value? .rating)).findSome? Rating.read?

/-- The blocks of code. -/
def blocks (regions : List Region) : List CodeBlock :=
  regions.filterMap block?

/-- Whether one of the regions holds a field, even with a value that is empty when it is cleaned. -/
def holds (f : Field) (regions : List Region) : Bool :=
  regions.any fun region => (region.value? f).isSome

end Region

/-- The report that regions tell. A field whose text is empty is missing. -/
def Report.ofRegions (regions : List Region) : Report where
  timeComplexity := nonEmpty? (Region.fieldText? .timeComplexity regions)
  spaceComplexity := nonEmpty? (Region.fieldText? .spaceComplexity regions)
  bottleneck := nonEmpty? (Region.fieldText? .bottleneck regions)
  optimization := nonEmpty? (Region.fieldText? .optimization regions)
  rating := Region.rating? regions
  blocks := Region.blocks regions

/-- Whether a line of a text, outside its fences, holds a field. -/
def Report.holdsField (f : Field) (t : Text) : Bool :=
  Region.holds f (Region.ofLines (Text.lines t))

/-- Whether no block is open when a text has been read to its end. -/
def Report.endsOutside (t : Text) : Bool :=
  (Reading.feedAll {} (Text.lines t)).block.isNone

end SnippetCost
