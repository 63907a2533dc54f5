import SnippetCost.Settings.Outcome
import SnippetCost.Proofs.Settings.Document

/-!
# Settings are loaded exactly if they are sound

A document that asks for sound settings is read as these, and every other document is refused for the
first check that it fails. Every document does one of the two, and reading follows either.

`asksFor_or_refusedFor` says that every document is one of the two kinds; `AsksFor.settings_eq` and
`RefusedFor.settings_eq` follow them, so that `settings_eq_ok_iff` and `settings_eq_error_iff` are
exact. The main result is `read_outcome`.
-/

namespace SnippetCost

/-- Sound cache settings have no fault. -/
lemma CacheSettings.fault?_of_isSound {s : CacheSettings} (sound : s.IsSound) : s.fault? = none :=
  if_pos sound

/-- The fault of other cache settings is that their capacity is out of range. -/
lemma CacheSettings.fault?_of_not_isSound {s : CacheSettings} (unsound : ¬ s.IsSound) :
    s.fault? = some (.outOfRange "cache.capacity" s.capacity.toNat 1 100000
      "Cache must hold at least one snippet") :=
  if_neg unsound

/-- Sound batch settings have no fault. -/
lemma BatchSettings.fault?_of_isSound {s : BatchSettings} (sound : s.IsSound) : s.fault? = none :=
  if_pos sound

/-- The fault of other batch settings is that their threshold is out of range. -/
lemma BatchSettings.fault?_of_not_isSound {s : BatchSettings} (unsound : ¬ s.IsSound) :
    s.fault? = some (.outOfRange "batch.min_parallel_batch" s.threshold.toNat 1
      18446744073709551615 "Batch threshold must be positive") :=
  if_neg unsound

namespace HighlightSettings

variable {s : HighlightSettings} {c : Char}

/-- The check of a character is exact. -/
lemma isClassChar_iff : isClassChar c ↔ IsAllowed c := by
  have upper : ('A' ≤ c && c ≤ 'Z') = c.isUpper := (Bool.decide_and ('A' ≤ c) (c ≤ 'Z')).symm
  have letter : isAsciiLetter c = c.isAlpha := by
    rw [isAsciiLetter, upper]
    exact Bool.or_comm c.isLower c.isUpper
  have alphanumeric : isAsciiAlphanumeric c = c.isAlphanum := by
    rw [isAsciiAlphanumeric, letter, isAsciiDigit_eq_isDigit, Char.isAlphanum]
  rw [isClassChar, alphanumeric, IsAllowed, Bool.or_eq_true, Bool.or_eq_true, decide_eq_true_eq,
    decide_eq_true_eq, or_assoc]

/-- Sound highlighting settings have no fault. -/
lemma fault?_of_isSound (sound : s.IsSound) : s.fault? = none := by
  have none : s.classLead.find? (fun c => !isClassChar c) = none := by
    rw [List.find?_eq_none]
    intro c mem
    simpa using isClassChar_iff.2 (sound c mem)
  rw [fault?, none]

/-- The first character that is not allowed is named. -/
lemma fault?_of_first {front rest : Text} (lead : s.classLead = front ++ c :: rest)
    (allowed : ∀ a ∈ front, IsAllowed a) (bad : ¬ IsAllowed c) :
    s.fault? = some (.badCharacter "highlight.class_prefix" c) := by
  have found : s.classLead.find? (fun c => !isClassChar c) = some c := by
    rw [List.find?_eq_some_iff_append]
    refine ⟨?_, front, rest, lead, ?_⟩
    · simpa using fun h => bad (isClassChar_iff.1 h)
    · intro a mem
      simpa using isClassChar_iff.2 (allowed a mem)
  rw [fault?, found]

/-- A lead that is not sound has a first character that is not allowed. -/
lemma exists_first_of_not_isSound (unsound : ¬ s.IsSound) : ∃ front c rest,
    s.classLead = front ++ c :: rest ∧ (∀ a ∈ front, IsAllowed a) ∧ ¬ IsAllowed c := by
  cases found : s.classLead.find? fun c => !isClassChar c with
  | none =>
    refine absurd ?_ unsound
    intro c mem
    exact isClassChar_iff.1 (by simpa using List.find?_eq_none.1 found c mem)
  | some c =>
    obtain ⟨bad, front, rest, lead, allowed⟩ := List.find?_eq_some_iff_append.1 found
    refine ⟨front, c, rest, lead, ?_, ?_⟩
    · intro a mem
      exact isClassChar_iff.1 (by simpa using allowed a mem)
    · intro h
      rw [isClassChar_iff.2 h] at bad
      cases bad

end HighlightSettings

namespace Settings

variable {s : Settings}

/-- Sound settings have no fault. -/
lemma fault?_of_isSound (sound : s.IsSound) : s.fault? = none := by
  rw [fault?, CacheSettings.fault?_of_isSound sound.cache,
    HighlightSettings.fault?_of_isSound sound.highlight,
    BatchSettings.fault?_of_isSound sound.batch]
  rfl

/-- Sound settings pass the check. -/
lemma check_of_isSound (sound : s.IsSound) : s.check = .ok s := by
  rw [check, fault?_of_isSound sound]

/-- The settings of every preset are sound. -/
lemma isSound_ofPreset (p : Preset) : (ofPreset p).IsSound := by
  have cache : (CacheSettings.ofPreset p).IsSound := by
    cases p <;> exact ⟨by decide, by decide⟩
  have batch : (BatchSettings.ofPreset p).IsSound := by
    cases p <;> exact Nat.succ_le_of_lt (by decide)
  exact ⟨cache, List.forall_mem_nil _, batch⟩

end Settings

/-- A preset is found by its name in any casing and no other text. -/
lemma Preset.ofName?_eq_some {t : Text} {p : Preset} :
    ofName? t = some p ↔ Text.lower t = p.name.toList := by
  constructor
  · intro found
    have name : p.name.toList = Text.lower t := by
      simpa using List.find?_some found
    exact name.symm
  · intro name
    rw [ofName?, name]
    cases p <;> rfl

namespace SettingsDocument

variable {d : SettingsDocument} {s : Settings} {fault : SettingsFault}

/-- A document of a known version and preset asks for the preset with its overrides laid over it. -/
lemma asksFor_overlay (version : d.HasVersion) {p : Preset}
    (preset : Text.lower d.preset = p.name.toList) :
    d.AsksFor (overlay p (d.overrides.getD {})) := by
  refine ⟨version, preset, ?_, ?_, ?_⟩ <;> cases d.overrides <;> rfl

/-- The settings that a document asks for are those of its preset with its overrides laid over. -/
lemma AsksFor.eq_overlay (h : d.AsksFor s) : overlay s.preset (d.overrides.getD {}) = s := by
  have same : overlay s.preset (d.overrides.getD {}) = { s with
      cache := (d.overrides.bind Overrides.cache).getD (.ofPreset s.preset)
      highlight := (d.overrides.bind Overrides.highlight).getD (.ofPreset s.preset)
      batch := (d.overrides.bind Overrides.batch).getD (.ofPreset s.preset) } := by
    cases d.overrides <;> rfl
  rw [same, ← h.cache, ← h.highlight, ← h.batch]

/-- What a document asks for is read if it passes its checks. -/
lemma AsksFor.settings_eq (h : d.AsksFor s) : d.settings = s.check := by
  obtain ⟨version, supported, given⟩ := h.version
  have known : supportedVersions.contains version := List.contains_iff_mem.2 supported
  rw [settings, given]
  dsimp only
  rw [known, Preset.ofName?_eq_some.2 h.preset]
  dsimp only
  rw [h.eq_overlay, Bool.not_true, if_neg Bool.false_ne_true]

/-- Every document asks for sound settings or is refused for a fault. -/
lemma asksFor_or_refusedFor (d : SettingsDocument) :
    (∃ s, d.AsksFor s ∧ s.IsSound) ∨ ∃ fault, d.RefusedFor fault := by
  cases given : d.version with
  | none => exact .inr ⟨_, .missingVersion given⟩
  | some version =>
    by_cases supported : version ∈ supportedVersions
    case neg => exact .inr ⟨_, .unsupportedVersion given supported⟩
    have known : d.HasVersion := ⟨version, supported, given⟩
    by_cases named : ∃ p : Preset, Text.lower d.preset = p.name.toList
    case neg => exact .inr ⟨_, .unknownPreset known (not_exists.1 named)⟩
    obtain ⟨p, preset⟩ := named
    have asks := asksFor_overlay known preset
    generalize overlay p (d.overrides.getD {}) = s at asks
    by_cases cache : s.cache.IsSound
    case neg => exact .inr ⟨_, .cache asks cache⟩
    by_cases highlight : s.highlight.IsSound
    case neg =>
      obtain ⟨front, c, rest, lead, allowed, bad⟩ :=
        HighlightSettings.exists_first_of_not_isSound highlight
      exact .inr ⟨_, .highlight asks cache lead allowed bad⟩
    by_cases batch : s.batch.IsSound
    case neg => exact .inr ⟨_, .batch asks cache highlight batch⟩
    exact .inl ⟨s, asks, cache, highlight, batch⟩

/-- A document is read as the fault that it is refused for. -/
lemma RefusedFor.settings_eq (h : d.RefusedFor fault) : d.settings = .error fault := by
  cases h with
  | missingVersion missing => rw [settings, missing]
  | unsupportedVersion given unsupported =>
    have unknown : supportedVersions.contains _ = false :=
      Bool.eq_false_iff.2 fun h => unsupported (List.contains_iff_mem.1 h)
    rw [settings, given]
    dsimp only
    rw [unknown, Bool.not_false, if_pos rfl]
  | unknownPreset version unnamed =>
    obtain ⟨version, supported, given⟩ := version
    have known : supportedVersions.contains version := List.contains_iff_mem.2 supported
    have none : Preset.ofName? d.preset = none := by
      rw [Option.eq_none_iff_forall_ne_some]
      intro p found
      exact unnamed p (Preset.ofName?_eq_some.1 found)
    rw [settings, given]
    dsimp only
    rw [known, none, Bool.not_true, if_neg Bool.false_ne_true]
  | @cache s asks unsound =>
    rw [asks.settings_eq, Settings.check, Settings.fault?,
      CacheSettings.fault?_of_not_isSound unsound]
    rfl
  | @highlight s front rest c asks cache lead allowed bad =>
    rw [asks.settings_eq, Settings.check, Settings.fault?, CacheSettings.fault?_of_isSound cache,
      HighlightSettings.fault?_of_first lead allowed bad]
    rfl
  | @batch s asks cache highlight unsound =>
    rw [asks.settings_eq, Settings.check, Settings.fault?, CacheSettings.fault?_of_isSound cache,
      HighlightSettings.fault?_of_isSound highlight, BatchSettings.fault?_of_not_isSound unsound]
    rfl

/-- A document gives settings exactly if it asks for them and they are sound. -/
lemma settings_eq_ok_iff : d.settings = .ok s ↔ d.AsksFor s ∧ s.IsSound := by
  constructor
  · intro loaded
    rcases d.asksFor_or_refusedFor with ⟨s', asks, sound⟩ | ⟨fault, refused⟩
    · rw [asks.settings_eq, Settings.check_of_isSound sound] at loaded
      cases loaded
      exact ⟨asks, sound⟩
    · rw [refused.settings_eq] at loaded
      cases loaded
  · rintro ⟨asks, sound⟩
    rw [asks.settings_eq, Settings.check_of_isSound sound]

/-- A document is refused for a fault exactly if that is the first check it fails. -/
lemma settings_eq_error_iff : d.settings = .error fault ↔ d.RefusedFor fault := by
  constructor
  · intro failed
    rcases d.asksFor_or_refusedFor with ⟨s, asks, sound⟩ | ⟨fault', refused⟩
    · rw [asks.settings_eq, Settings.check_of_isSound sound] at failed
      cases failed
    · rw [refused.settings_eq] at failed
      cases failed
      exact refused
  · exact RefusedFor.settings_eq

end SettingsDocument

namespace Settings

/-- Reading a text that holds a document gives what the document gives. -/
lemma read_of_document {t : Text} {d : SettingsDocument}
    (document : SettingsDocument.read? t = some d) : read t = d.settings := by
  rw [read, document]

/-- A text that holds a settings document is read as settings exactly if these are sound and the
document asks for them, and fails with a fault exactly if the document is refused for it. Every document
that can be stored is held by some text, and all settings that are read are sound, like all presets. -/
theorem read_outcome :
    (∀ (t : Text) (d : SettingsDocument), SettingsDocument.read? t = some d →
      (∀ s, read t = .ok s ↔ d.AsksFor s ∧ s.IsSound) ∧
        ∀ fault, read t = .error fault ↔ d.RefusedFor fault) ∧
      (∀ d : SettingsDocument, d.IsStorable → ∃ t, SettingsDocument.read? t = some d) ∧
      (∀ (t : Text) (s : Settings), read t = .ok s → s.fault? = none) ∧
      ∀ p : Preset, (ofPreset p).fault? = none := by
  refine ⟨?_, ?_, ?_, ?_⟩
  · intro t d document
    rw [read_of_document document]
    exact ⟨fun _ => SettingsDocument.settings_eq_ok_iff,
      fun _ => SettingsDocument.settings_eq_error_iff⟩
  · intro d storable
    exact ⟨d.toTree.write, SettingsDocument.read?_write storable⟩
  · intro t s
    exact fault?_of_read
  · intro p
    exact fault?_of_isSound (isSound_ofPreset p)

/-- A document with a preset in capitals that leaves the section on the cache to the preset. -/
def overriding (classLead threshold : String) : Text :=
  ("version: 1\npreset: BATCH\noverrides:\n  cache: ~\n  highlight:\n    class_prefix: " ++ classLead ++
    "\n  batch: \x7bparallel: false, min_parallel_batch: " ++ threshold ++ "\x7d\n").toList

/-- What such a document says. -/
def overridden (classLead : String) (threshold : UInt64) : SettingsDocument where
  version := some 1
  preset := "BATCH".toList
  overrides := some ⟨none, some ⟨classLead.toList⟩, some ⟨false, threshold⟩⟩

/-- The document of the example asks for its preset with two sections laid over. -/
lemma asksFor_overridden (classLead : String) (threshold : UInt64) :
    (overridden classLead threshold).AsksFor
      ⟨.batch, ⟨true, 4096⟩, ⟨classLead.toList⟩, ⟨false, threshold⟩⟩ :=
  ⟨⟨1, by decide, rfl⟩, (by decide : Text.lower "BATCH".toList = "batch".toList), rfl, rfl, rfl⟩

/-- Of two faults the first is told, and of two characters that may not stand in a class the first. Once
they are mended the document is read, with the cache of its preset. -/
theorem read_outcome_overriding :
    read (overriding "a b<" "0") = .error (.badCharacter "highlight.class_prefix" ' ') ∧
      read (overriding "a-b" "2") = .ok ⟨.batch, ⟨true, 4096⟩, ⟨"a-b".toList⟩, ⟨false, 2⟩⟩ ∧
      ∃ t, read t = .error (.unsupportedVersion 2 [1]) := by
  have faulty : SettingsDocument.read? (overriding "a b<" "0") = some (overridden "a b<" 0) := by
    decide +kernel
  have mended : SettingsDocument.read? (overriding "a-b" "2") = some (overridden "a-b" 2) := by
    decide +kernel
  refine ⟨?_, ?_, ?_⟩
  · apply ((read_outcome.1 _ _ faulty).2 _).2
    have front : ∀ a ∈ ['a'], HighlightSettings.IsAllowed a :=
      List.forall_mem_singleton.2 (by decide)
    exact .highlight (asksFor_overridden "a b<" 0) (by decide) rfl front (by decide)
  · apply ((read_outcome.1 _ _ mended).1 _).2
    exact ⟨asksFor_overridden "a-b" 2, by decide, by decide, by decide⟩
  · have storable : (⟨some 2, "turbo".toList, none⟩ : SettingsDocument).IsStorable :=
      ⟨by decide, by decide, nofun, nofun⟩
    obtain ⟨t, document⟩ := read_outcome.2.1 _ storable
    exact ⟨t, ((read_outcome.1 t _ document).2 _).2 (.unsupportedVersion rfl (by decide))⟩

end Settings

end SnippetCost
