import SnippetCost.Settings.Document

/-!
# What comes of a settings document

Which settings are sound, which settings a document asks for, and what a document is refused for, each
said on its own. The faults are told in the order in which a document is checked: a fault counts only
where everything before it is in order. The three parts are `Settings.IsSound`,
`SettingsDocument.AsksFor` and `SettingsDocument.RefusedFor`.
-/

namespace SnippetCost

/-- Whether a settings document can be read back from its text. Sections are either left out, or some
are given. -/
structure SettingsDocument.IsStorable (d : SettingsDocument) : Prop where
  version : ∀ n ∈ d.version, n ≤ wordMax 32
  preset : d.preset.all Yaml.isSafeChar
  given : ∀ o ∈ d.overrides, o ≠ {}
  classLead : ∀ o ∈ d.overrides, ∀ s ∈ o.highlight, s.classLead.all Yaml.isSafeChar

/-- Whether a cache keeps at least one estimate, and not too many. -/
def CacheSettings.IsSound (s : CacheSettings) : Prop :=
  1 ≤ s.capacity.toNat ∧ s.capacity.toNat ≤ 100000

/-- Whether a character is an ASCII letter or digit, a hyphen or an underscore. -/
def HighlightSettings.IsAllowed (c : Char) : Prop :=
  c.isAlphanum ∨ c = '-' ∨ c = '_'

/-- Whether every character may stand in the name of a class. -/
def HighlightSettings.IsSound (s : HighlightSettings) : Prop :=
  ∀ c ∈ s.classLead, IsAllowed c

/-- Whether no batch is split that has no snippet. -/
def BatchSettings.IsSound (s : BatchSettings) : Prop :=
  1 ≤ s.threshold.toNat

instance (s : CacheSettings) : Decidable s.IsSound :=
  inferInstanceAs (Decidable (1 ≤ s.capacity.toNat ∧ s.capacity.toNat ≤ 100000))

instance (c : Char) : Decidable (HighlightSettings.IsAllowed c) :=
  inferInstanceAs (Decidable (c.isAlphanum ∨ c = '-' ∨ c = '_'))

instance (s : HighlightSettings) : Decidable s.IsSound :=
  List.decidableBAll (p := HighlightSettings.IsAllowed) s.classLead

instance (s : BatchSettings) : Decidable s.IsSound :=
  inferInstanceAs (Decidable (1 ≤ s.threshold.toNat))

/-- Whether every section of settings is sound. -/
structure Settings.IsSound (s : Settings) : Prop where
  cache : s.cache.IsSound
  highlight : s.highlight.IsSound
  batch : s.batch.IsSound

namespace SettingsDocument

/-- Whether a document is of a version that can be read. -/
def HasVersion (d : SettingsDocument) : Prop :=
  ∃ version ∈ supportedVersions, d.version = some version

/-- Whether a document asks for settings: its preset is theirs in some case, they have the sections that
it overrides, and all others from the preset. -/
structure AsksFor (d : SettingsDocument) (s : Settings) : Prop where
  version : d.HasVersion
  preset : Text.lower d.preset = s.preset.name.toList
  cache : s.cache = (d.overrides.bind Overrides.cache).getD (.ofPreset s.preset)
  highlight : s.highlight = (d.overrides.bind Overrides.highlight).getD (.ofPreset s.preset)
  batch : s.batch = (d.overrides.bind Overrides.batch).getD (.ofPreset s.preset)

/-- Whether a document is refused for a fault: the check that it is for is the first that fails. -/
inductive RefusedFor (d : SettingsDocument) : SettingsFault → Prop where
  | missingVersion : d.version = none → d.RefusedFor .missingVersion
  | unsupportedVersion {version : Nat} :
    d.version = some version → version ∉ supportedVersions →
      d.RefusedFor (.unsupportedVersion version supportedVersions)
  | unknownPreset :
    d.HasVersion → (∀ p : Preset, Text.lower d.preset ≠ p.name.toList) →
      d.RefusedFor (.unknownPreset d.preset)
  | cache {s : Settings} :
    d.AsksFor s → ¬ s.cache.IsSound →
      d.RefusedFor (.outOfRange "cache.capacity" s.cache.capacity.toNat 1 100000
        "Cache must hold at least one snippet")
  | highlight {s : Settings} {front rest : Text} {c : Char} :
    d.AsksFor s → s.cache.IsSound → s.highlight.classLead = front ++ c :: rest →
      (∀ a ∈ front, HighlightSettings.IsAllowed a) → ¬ HighlightSettings.IsAllowed c →
        d.RefusedFor (.badCharacter "highlight.class_prefix" c)
  | batch {s : Settings} :
    d.AsksFor s → s.cache.IsSound → s.highlight.IsSound → ¬ s.batch.IsSound →
      d.RefusedFor (.outOfRange "batch.min_parallel_batch" s.batch.threshold.toNat 1
        18446744073709551615 "Batch threshold must be positive")

end SettingsDocument

end SnippetCost
