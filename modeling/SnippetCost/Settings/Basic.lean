import SnippetCost.Settings.Preset
import SnippetCost.Settings.Fault
import SnippetCost.Text.Word

/-!
# Settings

The settings have three sections: the cache of estimates, the classes of highlighted tokens, and
batches. A preset fills all three. Settings are sound if every section is, and the first fault is
reported in the order of the sections. The main definitions are `Settings` and its check,
`Settings.fault?`.
-/

namespace SnippetCost

/-- How many estimates are kept, if any are. -/
structure CacheSettings where
  enabled : Bool
  capacity : UInt64
deriving DecidableEq, Repr

/-- How highlighted tokens are marked. -/
structure HighlightSettings where
  /-- What the class of every token begins with. -/
  classLead : Text := []
deriving DecidableEq, Repr

/-- Which batches are worth splitting. -/
structure BatchSettings where
  parallel : Bool
  /-- The size of the smallest batch worth splitting. -/
  threshold : UInt64
deriving DecidableEq, Repr

/-- The settings of the program. -/
structure Settings where
  preset : Preset
  cache : CacheSettings
  highlight : HighlightSettings
  batch : BatchSettings
deriving DecidableEq, Repr

namespace CacheSettings

/-- The largest number of estimates that a cache may keep. -/
def maxCapacity : Nat := 100000

/-- The name of the section in answers about its soundness. -/
def typeName : String := "CacheConfig"

/-- The section in a preset. -/
def ofPreset : Preset → CacheSettings
  | .interactive => ⟨true, 512⟩
  | .batch => ⟨true, 4096⟩
  | .minimal => ⟨false, 1⟩

/-- What is wrong with the section. -/
def fault? (s : CacheSettings) : Option SettingsFault :=
  if 1 ≤ s.capacity.toNat ∧ s.capacity.toNat ≤ maxCapacity then none
  else some (.outOfRange "cache.capacity" s.capacity.toNat 1 maxCapacity
    "Cache must hold at least one snippet")

end CacheSettings

namespace HighlightSettings

/-- The name of the section in answers about its soundness. -/
def typeName : String := "HighlightConfig"

/-- The section in a preset. -/
def ofPreset (_ : Preset) : HighlightSettings :=
  {}

/-- Whether a class name may hold a character. -/
def isClassChar (c : Char) : Bool :=
  isAsciiAlphanumeric c || c = '-' || c = '_'

/-- What is wrong with the section: the first character that may not stand in a class name. -/
def fault? (s : HighlightSettings) : Option SettingsFault :=
  match s.classLead.find? fun c => !isClassChar c with
  | some c => some (.badCharacter "highlight.class_prefix" c)
  | none => none

end HighlightSettings

namespace BatchSettings

/-- The largest threshold. -/
def maxThreshold : Nat := Nat.pow 2 64 - 1

/-- The name of the section in answers about its soundness. -/
def typeName : String := "BatchConfig"

/-- The section in a preset. -/
def ofPreset : Preset → BatchSettings
  | .interactive => ⟨false, 64⟩
  | .batch => ⟨true, 32⟩
  | .minimal => ⟨false, 1⟩

/-- What is wrong with the section. -/
def fault? (s : BatchSettings) : Option SettingsFault :=
  if 1 ≤ s.threshold.toNat then none
  else some (.outOfRange "batch.min_parallel_batch" s.threshold.toNat 1 maxThreshold
    "Batch threshold must be positive")

/-- Whether a batch of so many snippets is split. -/
def splits (s : BatchSettings) (size : Nat) : Bool :=
  s.parallel && s.threshold.toNat ≤ size

end BatchSettings

namespace Settings

/-- The name of the settings in answers about their soundness. -/
def typeName : String := "EstimatorConfig"

/-- The settings of a preset. -/
def ofPreset (p : Preset) : Settings :=
  { preset := p
    cache := .ofPreset p
    highlight := .ofPreset p
    batch := .ofPreset p }

/-- The settings that hold where nothing else is said. -/
def standard : Settings :=
  ofPreset .standard

/-- The first thing that is wrong with the settings. -/
def fault? (s : Settings) : Option SettingsFault :=
  s.cache.fault?.or (s.highlight.fault?.or s.batch.fault?)

/-- The settings, if nothing is wrong with them. -/
def check (s : Settings) : Except SettingsFault Settings :=
  match s.fault? with
  | some fault => .error fault
  | none => .ok s

end Settings

/-- The name under which an optional part is reported, whatever the part. -/
def optionalTypeName : String := "Config"

end SnippetCost
