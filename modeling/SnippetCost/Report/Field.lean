import SnippetCost.Text.Blank
import SnippetCost.Text.Lines
import SnippetCost.Text.Lower

/-!
# Fields of a report

The five labelled fields of an analysis report, in the order in which they are shown. The main
definitions are `Field` and `Field.ofLabel?`.
-/

namespace SnippetCost

/-- A labelled field of a report. -/
inductive Field where
  | timeComplexity
  | spaceComplexity
  | bottleneck
  | optimization
  | rating
deriving DecidableEq, Repr

namespace Field

/-- All fields, in the order in which they are shown. -/
def all : List Field :=
  [timeComplexity, spaceComplexity, bottleneck, optimization, rating]

/-- The label of a field. -/
def label : Field → String
  | timeComplexity => "Time Complexity"
  | spaceComplexity => "Space Complexity"
  | bottleneck => "Bottleneck"
  | optimization => "Optimization"
  | rating => "Rating"

/-- The name that a field is stored by. -/
def name : Field → String
  | timeComplexity => "time_complexity"
  | spaceComplexity => "space_complexity"
  | bottleneck => "bottleneck"
  | optimization => "optimization"
  | rating => "rating"

/-- A label in ASCII small letters, its words one space apart. -/
def plainLabel (t : Text) : Text :=
  (Text.joinSpaced ((Text.cutAt isBlank t).filter (· ≠ []))).map asciiLower

/-- The field of a label. ASCII case and the blanks around the words do not matter. -/
def ofLabel? (t : Text) : Option Field :=
  all.find? fun f => plainLabel f.label.toList = plainLabel t

end Field

end SnippetCost
