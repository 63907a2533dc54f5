import SnippetCost.Text.Path

/-!
# Arguments of the command line

The program has three commands. Switches and options can be given once on either side of the name of
the command, as far as they are known there. The value of an option stands behind an equals sign or is
the next argument, which then must not look like an option. Two hyphens alone end the options. The
arguments are taken apart by `Given.read`, and `Invocation.ofArguments?` makes of them what is to be
run.
-/

namespace SnippetCost

/-- A switch, which has no value. -/
inductive Switch where
  | verbose
  | explain
deriving DecidableEq, Repr

/-- The name of a switch. -/
def Switch.name : Switch → String
  | verbose => "verbose"
  | explain => "explain"

/-- An option, which has a value. -/
inductive ValueOption where
  | config
  | format
  | classLead
deriving DecidableEq, Repr

/-- The name of an option. -/
def ValueOption.name : ValueOption → String
  | config => "config"
  | format => "format"
  | classLead => "class-prefix"

/-- Where an argument stands: before the name of the command, or behind that of a command. -/
inductive Level where
  | program
  | estimate
  | highlight
  | report
deriving DecidableEq, Repr

namespace Level

/-- The switches that are known at a level. -/
def switches : Level → List Switch
  | estimate => [.verbose, .explain]
  | program | highlight | report => [.verbose]

/-- The options that are known at a level. -/
def options : Level → List ValueOption
  | program => [.config]
  | estimate | report => [.config, .format]
  | highlight => [.config, .classLead]

/-- The level behind the name of a command. -/
def ofName? (t : Text) : Option Level :=
  if t = "estimate".toList then some estimate
  else if t = "highlight".toList then some highlight
  else if t = "report".toList then some report
  else none

end Level

/-- What an argument looks like. -/
inductive Argument where
  /-- Two hyphens alone. -/
  | endOfOptions
  /-- Two hyphens, a name, and a value behind an equals sign if there is one. -/
  | long (name : Text) (value : Option Text)
  /-- A hyphen and letters. -/
  | short (letters : Text)
  /-- Anything else, a hyphen alone among it. -/
  | word (t : Text)
deriving DecidableEq, Repr

/-- What an argument looks like. -/
def Argument.ofText : Text → Argument
  | ['-'] => word ['-']
  | ['-', '-'] => endOfOptions
  | '-' :: '-' :: rest =>
    match rest.dropWhile (· ≠ '=') with
    | [] => long rest none
    | _ :: value => long (rest.takeWhile (· ≠ '=')) (some value)
  | '-' :: letters => short letters
  | t => word t

/-- What has been given at one level. -/
structure Given where
  switches : List Switch := []
  options : List (ValueOption × Text) := []
  words : List Text := []
deriving DecidableEq, Repr

namespace Given

/-- The value given for an option. -/
def value? (g : Given) (o : ValueOption) : Option Text :=
  g.options.lookup o

/-- Give a switch, which must not have been given before. -/
def addSwitch? (g : Given) (s : Switch) : Option Given :=
  if s ∈ g.switches then none else some { g with switches := s :: g.switches }

/-- Give an option, which must not have been given before. -/
def addOption? (g : Given) (o : ValueOption) (value : Text) : Option Given :=
  if (g.value? o).isSome then none else some { g with options := (o, value) :: g.options }

/-- Give a word. -/
def addWord (g : Given) (word : Text) : Given :=
  { g with words := g.words ++ [word] }

/-- Whether an argument can be the value of the option before it. -/
def isValue (arg : Text) : Bool :=
  match Argument.ofText arg with
  | .word _ => true
  | .endOfOptions | .long _ _ | .short _ => false

/-- Read the arguments of a level: what they give, and the rest from the first word on if the level
has no words of its own. -/
def read (l : Level) (g : Given) : List Text → Option (Given × List Text)
  | [] => some (g, [])
  | arg :: args =>
    match Argument.ofText arg with
    | .endOfOptions =>
      if l = .program then none else some ({ g with words := g.words ++ args }, [])
    | .word w => if l = .program then some (g, arg :: args) else read l (g.addWord w) args
    | .short letters =>
      if letters = ['v'] then
        match g.addSwitch? .verbose with
        | some g => read l g args
        | none => none
      else none
    | .long name value =>
      match l.switches.find? fun s => s.name.toList = name with
      | some s =>
        match value, g.addSwitch? s with
        | none, some g => read l g args
        | _, _ => none
      | none =>
        match l.options.find? fun o => o.name.toList = name with
        | none => none
        | some o =>
          match value with
          | some value =>
            match g.addOption? o value with
            | some g => read l g args
            | none => none
          | none =>
            match args with
            | [] => none
            | value :: args =>
              if isValue value then
                match g.addOption? o value with
                | some g => read l g args
                | none => none
              else none

end Given

/-- How an estimate is shown. -/
inductive EstimateFormat where
  | text
  | json
deriving DecidableEq, Repr

/-- How a report is shown. -/
inductive ReportFormat where
  | json
  | html
deriving DecidableEq, Repr

/-- What the program is asked to do with its input. -/
inductive Command where
  | estimate (explain : Bool) (format : EstimateFormat)
  | highlight (classLead : Option Text)
  | report (format : ReportFormat)
deriving DecidableEq, Repr

/-- What the program is asked to do, and with what. -/
structure Invocation where
  /-- The path of the settings, if they are not the standard ones. -/
  config : Option Text
  /-- The path of the input, if it is not the standard input. -/
  input : Option Text
  command : Command
deriving DecidableEq, Repr

namespace Invocation

/-- The value of the option on the format, or the first of the formats if it is not given. -/
def format? {α : Type} (g : Given) (standard : α) (formats : List (String × α)) : Option α :=
  match g.value? .format with
  | none => some standard
  | some name => (formats.find? fun f => f.1.toList = name).map Prod.snd

/-- The command that the arguments behind its name ask for. -/
def command? (l : Level) (g : Given) : Option Command :=
  match l with
  | .program => none
  | .estimate =>
    (format? g .text [("text", .text), ("json", .json)]).map fun format =>
      .estimate (g.switches.contains .explain) format
  | .highlight => some (.highlight (g.value? .classLead))
  | .report =>
    (format? g .json [("json", .json), ("html", .html)]).map fun format => .report format

/-- The path of the input among the words of a command. The path that is a single hyphen, in whatever
way it is written, is the standard input. -/
def input? : List Text → Option (Option Text)
  | [] => some none
  | [path] =>
    if path = [] then none
    else if PathPart.ofPath path = PathPart.ofPath ['-'] then some none
    else some (some path)
  | _ => none

/-- The path of the settings, which must not be empty where it is given. What is given behind the
command counts before what is given in front of it. -/
def config? (front behind : Given) : Option (Option Text) :=
  let paths := [behind, front].filterMap fun g => g.value? .config
  if paths.contains [] then none else some paths.head?

/-- What the arguments ask for, if they are well formed. -/
def ofArguments? (args : List Text) : Option Invocation := do
  let (front, rest) ← Given.read .program {} args
  match rest with
  | [] => none
  | name :: args =>
    let level ← Level.ofName? name
    let (behind, _) ← Given.read level {} args
    let config ← config? front behind
    let input ← input? behind.words
    let command ← command? level behind
    return { config, input, command }

end Invocation

end SnippetCost
