import SnippetCost.Report.Field
import SnippetCost.Growth.Label

/-!
# Reports

An analysis report: four fields of free text, a rating out of ten, and blocks of code. Anything can be
missing. The main definition is `Report`, with `Report.text?` for the text of a field.
-/

namespace SnippetCost

/-- A block of code in a report. -/
structure CodeBlock where
  /-- What the block says about its language, if it says anything. -/
  language : Option Text
  code : Text
deriving DecidableEq, Repr

/-- An analysis report. -/
structure Report where
  timeComplexity : Option Text := none
  spaceComplexity : Option Text := none
  bottleneck : Option Text := none
  optimization : Option Text := none
  /-- The score out of ten. -/
  rating : Option UInt8 := none
  blocks : List CodeBlock := []
deriving DecidableEq, Repr

namespace Report

/-- The text of a field; the rating has none. -/
def text? (r : Report) : Field → Option Text
  | .timeComplexity => r.timeComplexity
  | .spaceComplexity => r.spaceComplexity
  | .bottleneck => r.bottleneck
  | .optimization => r.optimization
  | .rating => none

/-- The report with another text in a field; the rating keeps what it has. -/
def setText (r : Report) (f : Field) (t : Option Text) : Report :=
  match f with
  | .timeComplexity => { r with timeComplexity := t }
  | .spaceComplexity => { r with spaceComplexity := t }
  | .bottleneck => { r with bottleneck := t }
  | .optimization => { r with optimization := t }
  | .rating => r

/-- The label of growth in the field on running time. -/
def timeLabel (r : Report) : Option Label :=
  r.timeComplexity.map Label.read

/-- The label of growth in the field on memory. -/
def spaceLabel (r : Report) : Option Label :=
  r.spaceComplexity.map Label.read

/-- Whether a report has a field of text or a rating. -/
def hasFields (r : Report) : Bool :=
  Field.all.any (fun f => (r.text? f).isSome) || r.rating.isSome

/-- Whether a report says nothing at all. -/
def isEmpty (r : Report) : Bool :=
  !r.hasFields && r.blocks.isEmpty

end Report

end SnippetCost
