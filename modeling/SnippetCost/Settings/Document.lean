import SnippetCost.Settings.Basic
import SnippetCost.Yaml.Reading
import SnippetCost.Yaml.Scalar
import SnippetCost.Yaml.Writing

/-!
# Settings documents

The form in which settings are stored: the version of the form, the name of a preset, and the sections
that replace those of the preset. Every name must be known and stand once. A document that has this
form can still be refused: its version must be there and be supported, its preset known, and the
settings that it stands for sound. A text is read as a document by `SettingsDocument.read?`, and as
settings by `Settings.read`; `Settings.write` writes them.
-/

namespace SnippetCost

/-- The sections that replace those of a preset. -/
structure Overrides where
  cache : Option CacheSettings := none
  highlight : Option HighlightSettings := none
  batch : Option BatchSettings := none
deriving DecidableEq, Repr

/-- A settings document. -/
structure SettingsDocument where
  version : Option Nat
  preset : Text
  overrides : Option Overrides := none
deriving DecidableEq, Repr

open Yaml (Anchors Node Tree)

namespace SettingsDocument

/-- The versions of the form that can be read. -/
def supportedVersions : List Nat := [1]

/-- The members of a mapping all of whose keys are among `names`, none of them twice. -/
def record? (known : Anchors) (names : List String) (n : Node) : Option (List (Text × Node)) := do
  let ms ← n.members? known
  let keys := ms.map Prod.fst
  if keys.all (fun key => names.any fun name => name.toList = key) && decide keys.Nodup then
    some ms
  else none

/-- The value of a member that must be there. -/
def required? {α : Type} (read : Node → Option α) (name : String) (ms : List (Text × Node)) :
    Option α :=
  (ms.lookup name.toList).bind read

/-- The value of a member that may be missing or stand for nothing. -/
def optional? {α : Type} (known : Anchors) (read : Node → Option α) (name : String)
    (ms : List (Text × Node)) : Option (Option α) :=
  match ms.lookup name.toList with
  | none => some none
  | some n => do
    if ← n.isBlank? known then some none else (read n).map some

/-- The section on the cache in a document. -/
def cache? (known : Anchors) (n : Node) : Option CacheSettings := do
  let ms ← record? known ["enabled", "capacity"] n
  let enabled ← required? (Node.truth? known) "enabled" ms
  let capacity ← required? (Node.word64? known) "capacity" ms
  return { enabled, capacity }

/-- The section on highlighting in a document; a class that is not given is empty. -/
def highlight? (known : Anchors) (n : Node) : Option HighlightSettings := do
  let ms ← record? known ["class_prefix"] n
  match ms.lookup "class_prefix".toList with
  | none => some {}
  | some value => (value.text? known).map fun classLead => { classLead }

/-- The section on batches in a document. -/
def batch? (known : Anchors) (n : Node) : Option BatchSettings := do
  let ms ← record? known ["parallel", "min_parallel_batch"] n
  let parallel ← required? (Node.truth? known) "parallel" ms
  let threshold ← required? (Node.word64? known) "min_parallel_batch" ms
  return { parallel, threshold }

/-- The sections that replace those of the preset in a document. -/
def overrides? (known : Anchors) (n : Node) : Option Overrides := do
  let ms ← record? known ["cache", "highlight", "batch"] n
  let cache ← optional? known (cache? known) "cache" ms
  let highlight ← optional? known (highlight? known) "highlight" ms
  let batch ← optional? known (batch? known) "batch" ms
  return { cache, highlight, batch }

/-- The settings document that a tree holds. Its anchors are known everywhere in it. -/
def ofNode? (n : Node) : Option SettingsDocument := do
  let known := n.anchors.reverse
  let ms ← record? known ["version", "preset", "overrides"] n
  let version ← optional? known (Node.number? known (wordMax 32)) "version" ms
  let preset ← required? (Node.text? known) "preset" ms
  let overrides ← optional? known (overrides? known) "overrides" ms
  return { version, preset, overrides }

/-- The settings document that a text holds. -/
def read? (t : Text) : Option SettingsDocument :=
  (Node.read? t).bind ofNode?

/-- The settings of a preset with some sections replaced. -/
def overlay (preset : Preset) (o : Overrides) : Settings :=
  let base := Settings.ofPreset preset
  { base with
    cache := o.cache.getD base.cache
    highlight := o.highlight.getD base.highlight
    batch := o.batch.getD base.batch }

/-- The settings that a document stands for, or the first thing that is wrong with it. -/
def settings (d : SettingsDocument) : Except SettingsFault Settings :=
  match d.version with
  | none => .error .missingVersion
  | some version =>
    if !supportedVersions.contains version then
      .error (.unsupportedVersion version supportedVersions)
    else
      match Preset.ofName? d.preset with
      | none => .error (.unknownPreset d.preset)
      | some preset => (overlay preset (d.overrides.getD {})).check

/-- The document that stores settings: it replaces every section of the preset. -/
def ofSettings (s : Settings) : SettingsDocument :=
  { version := some 1
    preset := s.preset.name.toList
    overrides := some
      { cache := some s.cache, highlight := some s.highlight, batch := some s.batch } }

/-- A member of a mapping. -/
def member (name : String) (value : Tree) : Text × Tree :=
  (name.toList, value)

/-- A member that may be missing. -/
def member? {α : Type} (name : String) (toTree : α → Tree) : Option α → List (Text × Tree)
  | none => []
  | some value => [member name (toTree value)]

/-- The tree of a section on the cache. -/
def cacheTree (s : CacheSettings) : Tree :=
  .mapping [member "enabled" (.ofBool s.enabled), member "capacity" (.ofNat s.capacity.toNat)]

/-- The tree of a section on highlighting. -/
def highlightTree (s : HighlightSettings) : Tree :=
  .mapping [member "class_prefix" (.ofText s.classLead)]

/-- The tree of a section on batches. -/
def batchTree (s : BatchSettings) : Tree :=
  .mapping [member "parallel" (.ofBool s.parallel),
    member "min_parallel_batch" (.ofNat s.threshold.toNat)]

/-- The tree of the sections that replace those of the preset. -/
def overridesTree (o : Overrides) : Tree :=
  .mapping (member? "cache" cacheTree o.cache ++ member? "highlight" highlightTree o.highlight
    ++ member? "batch" batchTree o.batch)

/-- The tree of a settings document. -/
def toTree (d : SettingsDocument) : Tree :=
  .mapping (member? "version" .ofNat d.version ++ member "preset" (.ofText d.preset)
    :: member? "overrides" overridesTree d.overrides)

end SettingsDocument

namespace Settings

/-- The settings that a text holds, or the first thing that is wrong with it. -/
def read (t : Text) : Except SettingsFault Settings :=
  match SettingsDocument.read? t with
  | none => .error .unreadable
  | some d => d.settings

/-- The text that stores settings. -/
def write (s : Settings) : Text :=
  (SettingsDocument.ofSettings s).toTree.write

end Settings

end SnippetCost
