import SnippetCost.Snippet.Estimate
import SnippetCost.Growth.Label
import SnippetCost.Json.Reading
import SnippetCost.Json.Writing
import SnippetCost.Json.Record

/-!
# Stored estimates and labels

Estimates and labels in JSON documents: how they are read, and how an estimate is shown. The main
definitions are `Estimate.read?` and `Label.read?`.
-/

namespace SnippetCost

open Json

namespace Estimate

/-- The estimate that a value stands for. -/
def ofValue? (v : Value) : Option Estimate := do
  let ms ← v.record? false 3 ["complexity", "rule", "max_depth"]
  let growth ← Value.required? (Value.choice? Growth.ofName?) "complexity" ms
  let rule ← Value.required? (Value.choice? Rule.ofName?) "rule" ms
  let depth ← Value.required? (Value.natural? (wordMax 64)) "max_depth" ms
  return { growth, rule, depth }

/-- The estimate that a text stores. -/
def read? (t : Text) : Option Estimate :=
  (Value.read? t).bind ofValue?

/-- An estimate as it is shown: the label of its class, the rule, the depth, and both in words. -/
def toValue (e : Estimate) : Value :=
  .object [
    Value.field "complexity" (.text e.label.toList),
    Value.field "rule" (.text e.rule.name.toList),
    Value.field "max_depth" (.natural e.depth),
    Value.field "slow" (.bool e.isSlow),
    Value.field "explanation" (.text e.explanation)]

/-- The text that shows an estimate. -/
def write (e : Estimate) : Text :=
  e.toValue.write

end Estimate

namespace Label

/-- The label that a value stands for: a class, or free text. -/
def ofValue? : Value → Option Label
  | .text t => some (ofStored t)
  | v => (v.choice? Growth.ofName?).map known

/-- The label that a text stores. -/
def read? (t : Text) : Option Label :=
  (Value.read? t).bind ofValue?

/-- The value that stores a label. -/
def toValue (l : Label) : Value :=
  .text l.stored

end Label

end SnippetCost
