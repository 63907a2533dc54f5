import SnippetCost.Command.Arguments
import SnippetCost.Analyzer
import SnippetCost.Markup.Highlight
import SnippetCost.Report.Reading
import SnippetCost.Report.Display
import SnippetCost.Report.Stored
import SnippetCost.Settings.Document
import SnippetCost.Snippet.Stored

/-!
# Running a command

What the program prints and the code that it ends with, as a function of its arguments and of all that
it can read. It prints nothing unless it succeeds. It ends with one if the settings or the input cannot
be used, and with two if the arguments are not well formed. The main definition is `run`.
-/

namespace SnippetCost

/-- What the program can read. -/
structure Sources where
  standardInput : ByteArray
  /-- The content of the file at a path, if there is one. -/
  file? : Text → Option ByteArray

/-- What is seen of a run of the program. -/
structure Outcome where
  exitCode : Nat
  output : Text := []
deriving DecidableEq, Repr

/-- The text that bytes encode, if they are well-formed UTF-8. -/
def Text.ofBytes? (bytes : ByteArray) : Option Text :=
  (String.fromUTF8? bytes).map String.toList

namespace Invocation

/-- The settings that an invocation asks for. -/
def settings? (i : Invocation) (sources : Sources) : Option Settings :=
  match i.config with
  | none => some .standard
  | some path =>
    match (sources.file? path).bind Text.ofBytes? with
    | none => none
    | some t => (Settings.read t).toOption

/-- The class that highlighted tokens begin with: the option counts before the settings, and must hold
nothing that a class name may not hold. -/
def classLead? (given : Option Text) (s : Settings) : Option Text :=
  match given with
  | none => some s.highlight.classLead
  | some classLead =>
    if (HighlightSettings.fault? { classLead }).isNone then some classLead else none

/-- The input of an invocation. -/
def inputText? (i : Invocation) (sources : Sources) : Option Text :=
  match i.input with
  | none => Text.ofBytes? sources.standardInput
  | some path => (sources.file? path).bind Text.ofBytes?

/-- What a command prints about its input. -/
def output? [PatternBuilder] (c : Command) (s : Settings) (input : Option Text) : Option Text :=
  match c with
  | .estimate explain format => do
    let t ← input
    let e := ((Analyzer.ofSettings s).analyze t).1
    match format with
    | .json => return e.write ++ ['\n']
    | .text => return (if explain then e.explanation else e.label.toList) ++ ['\n']
  | .highlight given => do
    let classLead ← classLead? given s
    let t ← input
    return Highlight.write classLead t
  | .report format => do
    let t ← input
    let r := Report.read t
    match format with
    | .json => return r.store ++ ['\n']
    | .html => return r.write s.highlight.classLead

/-- What the program prints when it is invoked, if it succeeds. -/
def run? [PatternBuilder] (i : Invocation) (sources : Sources) : Option Text := do
  let s ← i.settings? sources
  output? i.command s (i.inputText? sources)

end Invocation

/-- A run of the program. -/
def run [PatternBuilder] (args : List Text) (sources : Sources) : Outcome :=
  match Invocation.ofArguments? args with
  | none => { exitCode := 2 }
  | some i =>
    match i.run? sources with
    | none => { exitCode := 1 }
    | some output => { exitCode := 0, output }

end SnippetCost
