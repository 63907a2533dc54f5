import SnippetCost.Settings.Outcome
import SnippetCost.Proofs.Yaml.Node
import SnippetCost.Proofs.Yaml.Reading

/-!
# Stored settings are read back

Every section is read back from its tree, and so is a settings document, whatever sections it holds.
Sound settings are written with names, digits, truth values and a class of safe characters only, so
what is written is read as the tree it was written from. Settings that were read are sound.

Each section is read back by itself, `cache?_cacheTree`, `highlight?_highlightTree` and
`batch?_batchTree`, then the overrides, `overrides?_overridesTree`, and the document,
`SettingsDocument.read?_write`. `read_write_of_sound` adds that sound settings are storable, and
`fault?_of_read` that settings which were read are sound. The main result is `read_write`.
-/

namespace SnippetCost

open Yaml (Anchors Node Tree isSafeChar isKeyText)

namespace SettingsDocument

variable {known : Anchors}

/-- The members of a mapping all of whose names are known and stand once. -/
lemma record?_mapping {names : List String} {ms : List (Text × Tree)}
    (keys : ((ms.map Prod.fst).all (fun key => names.any fun name => name.toList = key) &&
      decide (ms.map Prod.fst).Nodup) = true) :
    record? known names (Tree.mapping ms).node =
      some (ms.map fun m => (m.1, m.2.node)) := by
  have fst : (ms.map fun m => (m.1, m.2.node)).map Prod.fst = ms.map Prod.fst := by
    rw [List.map_map]
    rfl
  rw [record?, Node.members?_mapping]
  simp only [Option.bind_eq_bind, Option.bind_some, fst, keys, if_true]

/-- A required field is read from the member of its name. -/
lemma required?_of_lookup {α : Type} {read : Node → Option α} {name : String}
    {ms : List (Text × Node)} {n : Node} {value : α} (found : ms.lookup name.toList = some n)
    (reads : read n = some value) : required? read name ms = some value := by
  rw [required?, found, Option.bind_some, reads]

/-- A member that is there if its value is. -/
lemma optional?_of_lookup {α : Type} {read : Node → Option α} {toTree : α → Tree} {name : String}
    {ms : List (Text × Node)} {value : Option α}
    (found : ms.lookup name.toList = value.map fun a => (toTree a).node)
    (solid : ∀ a ∈ value, (toTree a).node.isBlank? known = some false)
    (reads : ∀ a ∈ value, read (toTree a).node = some a) :
    optional? known read name ms = some value := by
  rw [optional?, found]
  cases value with
  | none => rfl
  | some a => simp [solid a rfl, reads a rfl]

/-- The settings of the cache are read back from their tree. -/
lemma cache?_cacheTree (s : CacheSettings) : cache? known (cacheTree s).node = some s := by
  let ms := [("enabled".toList, (Tree.ofBool s.enabled).node),
    ("capacity".toList, (Tree.ofNat s.capacity.toNat).node)]
  have record : record? known ["enabled", "capacity"] (cacheTree s).node = some ms :=
    record?_mapping rfl
  have enabled : required? (Node.truth? known) "enabled" ms = some s.enabled :=
    required?_of_lookup rfl (Node.truth?_ofBool known _)
  have capacity : required? (Node.word64? known) "capacity" ms = some s.capacity :=
    required?_of_lookup rfl (Node.word64?_ofNat known _)
  simp [cache?, record, enabled, capacity]

/-- The settings of highlighting are read back from their tree. -/
lemma highlight?_highlightTree (s : HighlightSettings) :
    highlight? known (highlightTree s).node = some s := by
  have record : record? known ["class_prefix"] (highlightTree s).node =
      some [("class_prefix".toList, (Tree.ofText s.classLead).node)] :=
    record?_mapping rfl
  simp [highlight?, record, Node.text?_ofText]

/-- The settings of batches are read back from their tree. -/
lemma batch?_batchTree (s : BatchSettings) : batch? known (batchTree s).node = some s := by
  let ms := [("parallel".toList, (Tree.ofBool s.parallel).node),
    ("min_parallel_batch".toList, (Tree.ofNat s.threshold.toNat).node)]
  have record : record? known ["parallel", "min_parallel_batch"] (batchTree s).node = some ms :=
    record?_mapping rfl
  have parallel : required? (Node.truth? known) "parallel" ms = some s.parallel :=
    required?_of_lookup rfl (Node.truth?_ofBool known _)
  have threshold : required? (Node.word64? known) "min_parallel_batch" ms = some s.threshold :=
    required?_of_lookup rfl (Node.word64?_ofNat known _)
  simp [batch?, record, parallel, threshold]

/-- The sections are read back, whichever are there. -/
lemma overrides?_overridesTree (o : Overrides) :
    overrides? known (overridesTree o).node = some o := by
  obtain ⟨cache, highlight, batch⟩ := o
  let ms : List (Text × Node) :=
    (member? "cache" cacheTree cache ++ member? "highlight" highlightTree highlight
      ++ member? "batch" batchTree batch).map fun m => (m.1, m.2.node)
  have record : record? known ["cache", "highlight", "batch"]
      (overridesTree ⟨cache, highlight, batch⟩).node = some ms := by
    apply record?_mapping
    cases cache <;> cases highlight <;> cases batch <;> rfl
  have found : ms.lookup "cache".toList = cache.map (fun a => (cacheTree a).node) ∧
      ms.lookup "highlight".toList = highlight.map (fun a => (highlightTree a).node) ∧
      ms.lookup "batch".toList = batch.map (fun a => (batchTree a).node) := by
    cases cache <;> cases highlight <;> cases batch <;> exact ⟨rfl, rfl, rfl⟩
  have cache : optional? known (cache? known) "cache" ms = some cache :=
    optional?_of_lookup found.1 (fun _ _ => Node.isBlank?_mapping known _)
      fun a _ => cache?_cacheTree a
  have highlight : optional? known (highlight? known) "highlight" ms = some highlight :=
    optional?_of_lookup found.2.1 (fun _ _ => Node.isBlank?_mapping known _)
      fun a _ => highlight?_highlightTree a
  have batch : optional? known (batch? known) "batch" ms = some batch :=
    optional?_of_lookup found.2.2 (fun _ _ => Node.isBlank?_mapping known _)
      fun a _ => batch?_batchTree a
  simp [overrides?, record, cache, highlight, batch]

/-- A settings document is read back from its tree. -/
lemma ofNode?_toTree (d : SettingsDocument) (fits : ∀ n ∈ d.version, n ≤ wordMax 32) :
    ofNode? d.toTree.node = some d := by
  obtain ⟨version, preset, overrides⟩ := d
  generalize hk : (toTree ⟨version, preset, overrides⟩).node.anchors.reverse = known
  let ms : List (Text × Node) :=
    (member? "version" .ofNat version ++ member "preset" (.ofText preset)
      :: member? "overrides" overridesTree overrides).map fun m => (m.1, m.2.node)
  have record : record? known ["version", "preset", "overrides"]
      (toTree ⟨version, preset, overrides⟩).node = some ms := by
    apply record?_mapping
    cases version <;> cases overrides <;> rfl
  have found : ms.lookup "version".toList = version.map (fun n => (Tree.ofNat n).node) ∧
      ms.lookup "preset".toList = some (Tree.ofText preset).node ∧
      ms.lookup "overrides".toList = overrides.map (fun o => (overridesTree o).node) := by
    cases version <;> cases overrides <;> exact ⟨rfl, rfl, rfl⟩
  have version : optional? known (Node.number? known (wordMax 32)) "version" ms = some version :=
    optional?_of_lookup found.1 (fun n _ => Node.isBlank?_ofNat known n)
      fun n mem => Node.number?_ofNat known (fits n mem)
  have preset : required? (Node.text? known) "preset" ms = some preset :=
    required?_of_lookup found.2.1 (Node.text?_ofText known preset)
  have overrides : optional? known (overrides? known) "overrides" ms = some overrides :=
    optional?_of_lookup found.2.2 (fun _ _ => Node.isBlank?_mapping known _)
      fun o _ => overrides?_overridesTree o
  simp [ofNode?, hk, record, version, preset, overrides]

/-- A member with a readable value in front of readable members is readable. -/
lemma areReadable_member {name : String} {value : Tree} {ms : List (Text × Tree)}
    (key : isKeyText name.toList) (h : value.IsReadable) (hms : Tree.AreReadable ms) :
    Tree.AreReadable (member name value :: ms) := by
  rw [member, Tree.AreReadable]
  exact ⟨key, h, hms⟩

/-- A member that may be missing is readable if its value is. -/
lemma areReadable_member? {α : Type} {name : String} {toTree : α → Tree} {value : Option α}
    (key : isKeyText name.toList) (h : ∀ a ∈ value, (toTree a).IsReadable) :
    Tree.AreReadable (member? name toTree value) := by
  cases value with
  | none => exact Tree.areReadable_nil
  | some a => exact areReadable_member key (h a rfl) Tree.areReadable_nil

/-- The tree of cache settings is readable. -/
lemma isReadable_cacheTree (s : CacheSettings) : (cacheTree s).IsReadable :=
  Tree.isReadable_mapping (List.cons_ne_nil _ _) <|
    areReadable_member rfl (Tree.isReadable_ofBool _) <|
      areReadable_member rfl (Tree.isReadable_ofNat _) Tree.areReadable_nil

/-- The tree of highlighting settings is readable if the class has safe characters only. -/
lemma isReadable_highlightTree (s : HighlightSettings) (safe : s.classLead.all isSafeChar) :
    (highlightTree s).IsReadable :=
  Tree.isReadable_mapping (List.cons_ne_nil _ _) <|
    areReadable_member rfl (Tree.isReadable_ofText safe) Tree.areReadable_nil

/-- The tree of batch settings is readable. -/
lemma isReadable_batchTree (s : BatchSettings) : (batchTree s).IsReadable :=
  Tree.isReadable_mapping (List.cons_ne_nil _ _) <|
    areReadable_member rfl (Tree.isReadable_ofBool _) <|
      areReadable_member rfl (Tree.isReadable_ofNat _) Tree.areReadable_nil

/-- The tree of overrides is readable if there is one and the class is safe. -/
lemma isReadable_overridesTree (o : Overrides) (given : o ≠ {})
    (safe : ∀ s ∈ o.highlight, s.classLead.all isSafeChar) : (overridesTree o).IsReadable := by
  have some : member? "cache" cacheTree o.cache ++ member? "highlight" highlightTree o.highlight
      ++ member? "batch" batchTree o.batch ≠ [] := by
    obtain ⟨cache, highlight, batch⟩ := o
    cases cache <;> cases highlight <;> cases batch <;> simp_all [member?]
  have cache : Tree.AreReadable (member? "cache" cacheTree o.cache) :=
    areReadable_member? rfl fun s _ => isReadable_cacheTree s
  have highlight : Tree.AreReadable (member? "highlight" highlightTree o.highlight) :=
    areReadable_member? rfl fun s mem => isReadable_highlightTree s (safe s mem)
  have batch : Tree.AreReadable (member? "batch" batchTree o.batch) :=
    areReadable_member? rfl fun s _ => isReadable_batchTree s
  exact Tree.isReadable_mapping some
    (Tree.areReadable_append (Tree.areReadable_append cache highlight) batch)

/-- The tree of a storable document is readable. -/
lemma IsStorable.isReadable {d : SettingsDocument} (h : d.IsStorable) : d.toTree.IsReadable := by
  have version : Tree.AreReadable (member? "version" .ofNat d.version) :=
    areReadable_member? rfl fun n _ => Tree.isReadable_ofNat n
  have overrides : Tree.AreReadable (member? "overrides" overridesTree d.overrides) :=
    areReadable_member? rfl fun o mem =>
      isReadable_overridesTree o (h.given o mem) (h.classLead o mem)
  have preset : Tree.AreReadable
      (member "preset" (.ofText d.preset) :: member? "overrides" overridesTree d.overrides) :=
    areReadable_member rfl (Tree.isReadable_ofText h.preset) overrides
  exact Tree.isReadable_mapping (by simp) (Tree.areReadable_append version preset)

/-- A settings document is read back from its text. -/
theorem read?_write {d : SettingsDocument} (h : d.IsStorable) : read? d.toTree.write = some d := by
  have root : Node.read? d.toTree.write = some d.toTree.node :=
    Yaml.Node.read?_write h.isReadable
  rw [read?, root]
  exact ofNode?_toTree d h.version

end SettingsDocument

/-- The settings that a document stands for have been checked. -/
lemma SettingsDocument.exists_check_of_settings {d : SettingsDocument} {s : Settings}
    (h : d.settings = .ok s) : ∃ overlaid : Settings, overlaid.check = .ok s := by
  rw [settings] at h
  split at h
  case h_1 => cases h
  case h_2 =>
    split at h
    case isTrue => cases h
    case isFalse =>
      split at h
      case h_1 => cases h
      case h_2 => exact ⟨_, h⟩

/-- A preset is found by its name. -/
lemma Preset.ofName?_name (p : Preset) : ofName? p.name.toList = some p := by
  cases p <;> rfl

/-- The name of a preset has safe characters only. -/
lemma Preset.all_isSafeChar_name (p : Preset) : p.name.toList.all isSafeChar := by
  cases p <;> rfl

/-- A class may hold the characters that are safe in documents. -/
lemma HighlightSettings.all_isSafeChar {s : HighlightSettings} (h : s.fault? = none) :
    s.classLead.all isSafeChar := by
  rw [fault?] at h
  split at h
  · cases h
  case h_2 none =>
    have same : isClassChar = isSafeChar := rfl
    rw [List.all_eq_true, ← same]
    intro c mem
    simpa using List.find?_eq_none.1 none c mem

namespace Settings

/-- What stores settings stands for them, if they are sound. -/
lemma settings_ofSettings (s : Settings) : (SettingsDocument.ofSettings s).settings = s.check := by
  have preset : Preset.ofName? (SettingsDocument.ofSettings s).preset = some s.preset :=
    Preset.ofName?_name s.preset
  rw [SettingsDocument.settings, preset]
  rfl

/-- Sound settings make a storable document. -/
lemma isStorable_ofSettings {s : Settings} (h : s.fault? = none) :
    (SettingsDocument.ofSettings s).IsStorable := by
  have highlight : s.highlight.fault? = none := by
    rw [fault?, Option.or_eq_none_iff, Option.or_eq_none_iff] at h
    exact h.2.1
  constructor
  case version =>
    rintro _ ⟨⟩
    decide
  case preset => exact Preset.all_isSafeChar_name s.preset
  case given =>
    rintro _ ⟨⟩
    simp
  case classLead =>
    rintro _ ⟨⟩ _ ⟨⟩
    exact HighlightSettings.all_isSafeChar highlight

/-- Sound settings are read back from the text that stores them. -/
lemma read_write_of_sound {s : Settings} (h : s.fault? = none) : read s.write = .ok s := by
  have document := SettingsDocument.read?_write (isStorable_ofSettings h)
  rw [read, write, document]
  simp only [settings_ofSettings]
  rw [check, h]

/-- Settings that pass the check have no fault. -/
lemma check_eq_ok {s s' : Settings} (h : s.check = .ok s') : s'.fault? = none := by
  rw [check] at h
  split at h
  case h_1 => cases h
  case h_2 sound =>
    cases h
    exact sound

/-- Settings that were read are sound. -/
lemma fault?_of_read {t : Text} {s : Settings} (h : read t = .ok s) : s.fault? = none := by
  rw [read] at h
  split at h
  case h_1 => cases h
  case h_2 =>
    obtain ⟨overlaid, checked⟩ := SettingsDocument.exists_check_of_settings h
    exact check_eq_ok checked

/-- Storing settings and reading them back changes nothing, whether they are sound as they stand or
have been read from any text. -/
theorem read_write :
    (∀ s : Settings, s.fault? = none → read s.write = .ok s) ∧
      ∀ (t : Text) (s : Settings), read t = .ok s → read s.write = .ok s :=
  ⟨fun _ => read_write_of_sound, fun _ _ h => read_write_of_sound (fault?_of_read h)⟩

/-- A class that looks like the mark of a document and the largest threshold are read back, and so is
what a short text leaves to its preset. -/
theorem read_write_dashes :
    read (write ⟨.batch, ⟨true, 100000⟩, ⟨"---".toList⟩, ⟨false, 18446744073709551615⟩⟩) =
        .ok ⟨.batch, ⟨true, 100000⟩, ⟨"---".toList⟩, ⟨false, 18446744073709551615⟩⟩ ∧
      read "version: 1\npreset: Minimal\n".toList = .ok (ofPreset .minimal) ∧
      read (ofPreset .minimal).write = .ok (ofPreset .minimal) := by
  have document : SettingsDocument.read? "version: 1\npreset: Minimal\n".toList =
      some { version := some 1, preset := "Minimal".toList } := by
    decide +kernel
  have short : read "version: 1\npreset: Minimal\n".toList = .ok (ofPreset .minimal) := by
    rw [read, document]
    rfl
  exact ⟨read_write.1 _ (by decide), short, read_write.2 _ _ short⟩

end Settings

end SnippetCost
