import SnippetCost.Command.Page
import SnippetCost.Proofs.Analyzer.Honest
import SnippetCost.Proofs.Settings.Document

/-!
# Runs succeed or show nothing

Each step of a run gives something exactly when what it needs is there: settings, a class that can be
used, and an input. A run that has them all shows its page, and any other shows nothing. The estimate
comes from a new analyzer, whose cache is honest whatever the settings, so they have no say in it.

The steps are `settings?_eq_some`, `classLead?_eq_some` and `inputText?_eq_some`, the output is
`output?_eq_some`, for which the estimate is `analyze_ofSettings`, and `run?_eq_some` puts them
together. The main result is `run_allOrNothing`.
-/

namespace SnippetCost

variable {bytes : ByteArray} {t shown : Text} {s : Settings} {c : Command} {i : Invocation}
  {sources : Sources}

/-- Bytes are read as a text exactly if they encode it. -/
lemma Text.ofBytes?_eq_some : ofBytes? bytes = some t ↔ t.IsEncoding bytes := by
  rw [ofBytes?, String.fromUTF8?, IsEncoding]
  constructor
  · intro h
    split at h
    · next valid =>
      generalize read : String.fromUTF8 bytes valid = s at h
      have whole : (String.ofList s.toList).toByteArray = s.toByteArray :=
        congrArg String.toByteArray String.ofList_toList
      obtain rfl : s.toList = t := by simpa using h
      exact (congrArg String.toByteArray read).trans whole.symm
    · cases h
  · rintro rfl
    have valid : t.utf8Encode.IsValidUTF8 := ⟨t, rfl⟩
    rw [dif_pos valid]
    exact congrArg some String.toList_ofList

namespace Invocation

/-- Settings are got exactly if they are given. -/
lemma settings?_eq_some : i.settings? sources = some s ↔ i.HasSettings sources s := by
  constructor
  · intro h
    rw [settings?] at h
    split at h
    · next config =>
      cases h
      exact .standard config
    · next path config =>
      split at h
      · cases h
      · next t found =>
        obtain ⟨bytes, there, encodes⟩ := Option.bind_eq_some_iff.1 found
        cases read : Settings.read t with
        | error fault =>
          rw [read] at h
          cases h
        | ok s' =>
          rw [read] at h
          cases h
          exact .file config there (Text.ofBytes?_eq_some.1 encodes) read
  · intro h
    cases h with
    | standard config => rw [settings?, config]
    | file config there encodes read =>
      simp [settings?, config, there, Text.ofBytes?_eq_some.2 encodes, read, Except.toOption]

/-- An input is got exactly if it is there and is text. -/
lemma inputText?_eq_some : i.inputText? sources = some t ↔ i.HasInput sources t := by
  constructor
  · intro h
    rw [inputText?] at h
    split at h
    · next input => exact .standard input (Text.ofBytes?_eq_some.1 h)
    · next path input =>
      obtain ⟨bytes, there, encodes⟩ := Option.bind_eq_some_iff.1 h
      exact .file input there (Text.ofBytes?_eq_some.1 encodes)
  · intro h
    cases h with
    | standard input encodes => simp [inputText?, input, Text.ofBytes?_eq_some.2 encodes]
    | file input there encodes => simp [inputText?, input, there, Text.ofBytes?_eq_some.2 encodes]

/-- The class of the settings counts where no other is given. -/
lemma classLead?_eq_some {given : Option Text} {classLead : Text} :
    classLead? given s = some classLead ↔
      (Command.highlight given).HasSoundClass ∧ given.getD s.highlight.classLead = classLead := by
  cases given with
  | none => simp [classLead?, Command.HasSoundClass]
  | some given =>
    rw [classLead?, Command.HasSoundClass, Option.getD_some, ← Option.isNone_iff_eq_none]
    split
    · next sound => simp [sound]
    · next unsound => simp [unsound]

variable [PatternBuilder]

/-- The estimate of a new analyzer is the one that estimating anew gives. -/
lemma analyze_ofSettings (s : Settings) (t : Text) :
    ((Analyzer.ofSettings s).analyze t).1 = Estimate.ofText t :=
  ((Analyzer.Honest.ofSettings s).analyze t).1

/-- A command shows its page if its class can be used and its input is there, and else nothing. -/
lemma output?_eq_some {input : Option Text} :
    output? c s input = some shown ↔
      c.HasSoundClass ∧ ∃ t, input = some t ∧ c.page s.highlight.classLead t = shown := by
  cases c with
  | estimate explain format =>
    cases input with
    | none => simp [output?]
    | some t =>
      cases format <;> cases explain <;>
        simp [output?, Command.HasSoundClass, Command.page, analyze_ofSettings]
  | highlight given =>
    cases input with
    | none => simp [output?]
    | some t =>
      simp [output?, Option.bind_eq_some_iff, classLead?_eq_some, Command.page]
  | report format =>
    cases input with
    | none => cases format <;> simp [output?]
    | some t => cases format <;> simp [output?, Command.HasSoundClass, Command.page]

/-- An invocation shows something exactly when all is there that it needs. -/
lemma run?_eq_some :
    i.run? sources = some shown ↔
      ∃ s t, i.HasSettings sources s ∧ i.command.HasSoundClass ∧ i.HasInput sources t ∧
        i.command.page s.highlight.classLead t = shown := by
  have bind : i.run? sources =
      (i.settings? sources).bind fun s => output? i.command s (i.inputText? sources) := rfl
  rw [bind, Option.bind_eq_some_iff]
  simp only [settings?_eq_some, output?_eq_some, inputText?_eq_some]
  constructor
  · rintro ⟨s, settings, sound, t, input, page⟩
    exact ⟨s, t, settings, sound, input, page⟩
  · rintro ⟨s, t, settings, sound, input, page⟩
    exact ⟨s, settings, sound, t, input, page⟩

end Invocation

section

variable [PatternBuilder] {args : List Text}

/-- A run that lacks something ends with the exit code one and shows nothing. -/
lemma run_of_none (parsed : Invocation.ofArguments? args = some i)
    (none : i.run? sources = none) : run args sources = { exitCode := 1 } := by
  rw [run, parsed]
  simp only [none]

/-- A run that has everything ends with the exit code zero and shows its output. -/
lemma run_of_some (parsed : Invocation.ofArguments? args = some i)
    (some : i.run? sources = some shown) :
    run args sources = { exitCode := 0, output := shown } := by
  rw [run, parsed]
  simp only [some]

/-- A run with settings, a sound class and an input shows the page of its command. -/
lemma run_eq_page (parsed : Invocation.ofArguments? args = some i)
    (settings : i.HasSettings sources s) (sound : i.command.HasSoundClass)
    (input : i.HasInput sources t) :
    run args sources =
      { exitCode := 0, output := i.command.page s.highlight.classLead t } :=
  run_of_some parsed (Invocation.run?_eq_some.2 ⟨s, t, settings, sound, input, rfl⟩)

/-- A run that does not succeed shows nothing. One whose arguments are well formed succeeds exactly
when it has settings, a class that can be used and an input, and what it shows is then its page:
estimates and reports in JSON are the same for all settings. -/
theorem run_allOrNothing (args : List Text) (sources : Sources) :
    ((run args sources).exitCode ≠ 0 → (run args sources).output = []) ∧
      ∀ i, Invocation.ofArguments? args = some i →
        ((run args sources).exitCode = 0 ∨ (run args sources).exitCode = 1) ∧
        ((run args sources).exitCode = 0 ↔
          (∃ s, i.HasSettings sources s) ∧ i.command.HasSoundClass ∧ ∃ t, i.HasInput sources t) ∧
        ∀ s t, i.HasSettings sources s → i.HasInput sources t → (run args sources).exitCode = 0 →
          (run args sources).output = i.command.page s.highlight.classLead t := by
  cases parsed : Invocation.ofArguments? args with
  | none =>
    have usage : run args sources = { exitCode := 2 } := by rw [run, parsed]
    rw [usage]
    exact ⟨fun _ => rfl, nofun⟩
  | some i =>
    cases result : i.run? sources with
    | none =>
      rw [run_of_none parsed result]
      refine ⟨fun _ => rfl, ?_⟩
      rintro _ ⟨rfl⟩
      refine ⟨.inr rfl, ⟨nofun, ?_⟩, nofun⟩
      rintro ⟨⟨s, settings⟩, sound, t, input⟩
      have shown := Invocation.run?_eq_some.2 ⟨s, t, settings, sound, input, rfl⟩
      rw [result] at shown
      cases shown
    | some shown =>
      rw [run_of_some parsed result]
      obtain ⟨s, t, settings, sound, input, -⟩ := Invocation.run?_eq_some.1 result
      refine ⟨fun failed => absurd rfl failed, ?_⟩
      rintro _ ⟨rfl⟩
      refine ⟨.inl rfl, ⟨fun _ => ⟨⟨s, settings⟩, sound, t, input⟩, fun _ => rfl⟩, ?_⟩
      intro s t settings input _
      have page := Invocation.run?_eq_some.2 ⟨s, t, settings, sound, input, rfl⟩
      rw [result] at page
      exact Option.some.inj page

end

/-- Arguments that give a class behind the command, and a hyphen for the input. -/
def givenClass : List Text :=
  ["--config=c".toList, "highlight".toList, "--class-prefix".toList, "tok-".toList, "--".toList,
    "-/".toList]

/-- A class that is given behind the command counts before the one in the settings, and a hyphen is
the standard input also with a slash behind it. -/
theorem run_allOrNothing_givenClass :
    Invocation.ofArguments? givenClass =
        some ⟨some "c".toList, none, .highlight (some "tok-".toList)⟩ ∧
      run givenClass
          { standardInput := "x<1".toList.utf8Encode
            file? := fun path => if path = "c".toList then
                some (Settings.write { Settings.standard with highlight := ⟨"c-".toList⟩ }).utf8Encode
              else none } =
        { exitCode := 0, output := "x&lt;<span class=\"tok-number\">1</span>".toList } := by
  have parsed : Invocation.ofArguments? givenClass =
      some ⟨some "c".toList, none, .highlight (some "tok-".toList)⟩ := by decide +kernel
  refine ⟨parsed, ?_⟩
  generalize hs : ({ Settings.standard with highlight := ⟨"c-".toList⟩ } : Settings) = s
  have read : Settings.read s.write = .ok s :=
    Settings.read_write_of_sound (by rw [← hs]; decide)
  generalize hsources : Sources.mk _ _ = sources
  have there : sources.file? "c".toList = some s.write.utf8Encode := by
    simp [← hsources]
  have given : Text.IsEncoding "x<1".toList sources.standardInput := by
    rw [← hsources]
    rfl
  obtain ⟨-, holds⟩ := run_allOrNothing givenClass sources
  obtain ⟨-, succeeds, shows⟩ := holds _ parsed
  have settings : Invocation.HasSettings
      ⟨some "c".toList, none, .highlight (some "tok-".toList)⟩ sources s :=
    .file rfl there rfl read
  have input : Invocation.HasInput
      ⟨some "c".toList, none, .highlight (some "tok-".toList)⟩ sources "x<1".toList :=
    .standard rfl given
  have ends := succeeds.2 ⟨⟨s, settings⟩, by decide, _, input⟩
  have output := shows s _ settings input ends
  have page : Highlight.write "tok-".toList "x<1".toList =
      "x&lt;<span class=\"tok-number\">1</span>".toList := by
    decide +kernel
  rw [Command.page, Option.getD_some, page] at output
  generalize run _ _ = outcome at ends output ⊢
  cases outcome
  simp_all

end SnippetCost
