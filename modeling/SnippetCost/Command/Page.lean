import SnippetCost.Command.Run

/-!
# What a run needs and shows

A run needs the settings that it is asked to use, its input, and a class for highlighted tokens that
can be used if one is given. What it then shows is a page about its input. Of the settings, only the
class of highlighted tokens has a say in it. The needs are `Invocation.HasSettings`,
`Invocation.HasInput` and `Command.HasSoundClass`, and the page is `Command.page`.
-/

namespace SnippetCost

/-- Whether bytes are the UTF-8 form of a text. -/
def Text.IsEncoding (t : Text) (bytes : ByteArray) : Prop :=
  bytes = t.utf8Encode

namespace Invocation

/-- The settings that an invocation asks for: the standard ones, or those that the file holds which it
names. -/
inductive HasSettings (i : Invocation) (sources : Sources) : Settings → Prop where
  | standard :
    i.config = none →
    HasSettings i sources .standard
  | file {path bytes t s} :
    i.config = some path →
    sources.file? path = some bytes →
    Text.IsEncoding t bytes →
    Settings.read t = .ok s →
    HasSettings i sources s

/-- The input of an invocation: the standard input, or the content of the file which it names. -/
inductive HasInput (i : Invocation) (sources : Sources) : Text → Prop where
  | standard {t} :
    i.input = none →
    Text.IsEncoding t sources.standardInput →
    HasInput i sources t
  | file {path bytes t} :
    i.input = some path →
    sources.file? path = some bytes →
    Text.IsEncoding t bytes →
    HasInput i sources t

end Invocation

namespace Command

/-- Whether the class for highlighted tokens can be used, if one is given. -/
def HasSoundClass : Command → Prop
  | highlight (some classLead) => HighlightSettings.fault? { classLead } = none
  | highlight none | estimate _ _ | report _ => True

instance : (c : Command) → Decidable c.HasSoundClass
  | highlight (some classLead) =>
    inferInstanceAs (Decidable (HighlightSettings.fault? { classLead } = none))
  | highlight none | estimate _ _ | report _ => isTrue trivial

/-- What a command shows of its input, where the settings name a class for highlighted tokens. -/
def page [PatternBuilder] (classLead : Text) (input : Text) : Command → Text
  | estimate false .text => (Estimate.ofText input).label.toList ++ ['\n']
  | estimate true .text => (Estimate.ofText input).explanation ++ ['\n']
  | estimate _ .json => (Estimate.ofText input).write ++ ['\n']
  | highlight given => Highlight.write (given.getD classLead) input
  | report .json => (Report.read input).store ++ ['\n']
  | report .html => (Report.read input).write classLead

end Command

end SnippetCost
