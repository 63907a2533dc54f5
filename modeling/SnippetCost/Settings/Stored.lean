import SnippetCost.Settings.Basic
import SnippetCost.Json.Reading
import SnippetCost.Json.Record

/-!
# Stored settings

Settings in JSON documents. The sections admit no unknown fields, and what they hold need not be
sound.
-/

namespace SnippetCost

open Json

namespace CacheSettings

/-- The section that a value stands for. -/
def ofValue? (v : Value) : Option CacheSettings := do
  let ms ← v.record? true 2 ["enabled", "capacity"]
  let enabled ← Value.required? Value.bool? "enabled" ms
  let capacity ← Value.required? Value.word64? "capacity" ms
  return { enabled, capacity }

end CacheSettings

namespace HighlightSettings

/-- The section that a value stands for; a class that is not given is empty. -/
def ofValue? (v : Value) : Option HighlightSettings := do
  let ms ← v.record? true 0 ["class_prefix"]
  match ms.lookup "class_prefix".toList with
  | none => some {}
  | some value => value.text?.map fun classLead => { classLead }

end HighlightSettings

namespace BatchSettings

/-- The section that a value stands for. -/
def ofValue? (v : Value) : Option BatchSettings := do
  let ms ← v.record? true 2 ["parallel", "min_parallel_batch"]
  let parallel ← Value.required? Value.bool? "parallel" ms
  let threshold ← Value.required? Value.word64? "min_parallel_batch" ms
  return { parallel, threshold }

end BatchSettings

namespace Settings

/-- The settings that a value stands for. -/
def ofValue? (v : Value) : Option Settings := do
  let ms ← v.record? false 4 ["preset", "cache", "highlight", "batch"]
  let preset ← Value.required? (Value.choice? Preset.ofExactName?) "preset" ms
  let cache ← Value.required? CacheSettings.ofValue? "cache" ms
  let highlight ← Value.required? HighlightSettings.ofValue? "highlight" ms
  let batch ← Value.required? BatchSettings.ofValue? "batch" ms
  return { preset, cache, highlight, batch }

/-- The settings that a text stores. -/
def restore? (t : Text) : Option Settings :=
  (Value.read? t).bind ofValue?

end Settings

end SnippetCost
