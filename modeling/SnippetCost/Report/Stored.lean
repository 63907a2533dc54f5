import SnippetCost.Report.Basic
import SnippetCost.Json.Reading
import SnippetCost.Json.Writing
import SnippetCost.Json.Record

/-!
# Stored reports

Reports in JSON documents. What is stored of a report is read back as it was. The main definitions are
`Report.store` and `Report.restore?`.
-/

namespace SnippetCost

open Json

namespace CodeBlock

/-- The names of the fields. -/
def fieldNames : List String := ["language", "code"]

/-- The block that a value stands for. -/
def ofValue? (v : Value) : Option CodeBlock := do
  let ms ← v.record? false 2 fieldNames
  let language ← Value.optional? Value.text? "language" ms
  let code ← Value.required? Value.text? "code" ms
  return { language, code }

/-- The value that stores a block. -/
def toValue (b : CodeBlock) : Value :=
  .object [Value.fieldOrNull "language" .text b.language, Value.field "code" (.text b.code)]

/-- The block that a text stores. -/
def read? (t : Text) : Option CodeBlock :=
  (Value.read? t).bind ofValue?

end CodeBlock

namespace Report

/-- The names of the fields. -/
def fieldNames : List String :=
  ["time_complexity", "space_complexity", "bottleneck", "optimization", "rating", "code_blocks"]

/-- The blocks that a value stands for. -/
def blocks? (v : Value) : Option (List CodeBlock) :=
  v.items?.bind fun items => items.mapM CodeBlock.ofValue?

/-- The report that a value stands for. -/
def ofValue? (v : Value) : Option Report := do
  let ms ← v.record? false 6 fieldNames
  let timeComplexity ← Value.optional? Value.text? "time_complexity" ms
  let spaceComplexity ← Value.optional? Value.text? "space_complexity" ms
  let bottleneck ← Value.optional? Value.text? "bottleneck" ms
  let optimization ← Value.optional? Value.text? "optimization" ms
  let rating ← Value.optional? Value.word8? "rating" ms
  let blocks ← Value.required? blocks? "code_blocks" ms
  return { timeComplexity, spaceComplexity, bottleneck, optimization, rating, blocks }

/-- The value that stores a report. -/
def toValue (r : Report) : Value :=
  .object [
    Value.fieldOrNull "time_complexity" .text r.timeComplexity,
    Value.fieldOrNull "space_complexity" .text r.spaceComplexity,
    Value.fieldOrNull "bottleneck" .text r.bottleneck,
    Value.fieldOrNull "optimization" .text r.optimization,
    Value.fieldOrNull "rating" (fun score => .natural score.toNat) r.rating,
    Value.field "code_blocks" (.array (r.blocks.map CodeBlock.toValue))]

/-- The report that a text stores. -/
def restore? (t : Text) : Option Report :=
  (Value.read? t).bind ofValue?

/-- The text that stores a report. -/
def store (r : Report) : Text :=
  r.toValue.write

end Report

end SnippetCost
