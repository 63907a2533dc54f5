import SnippetCost.Text.Lower

/-!
# Presets

The named starting points of the settings.
-/

namespace SnippetCost

/-- A named starting point of the settings. -/
inductive Preset where
  | interactive
  | batch
  | minimal
deriving DecidableEq, Repr

namespace Preset

/-- All presets. -/
def all : List Preset :=
  [interactive, batch, minimal]

/-- The name of a preset. -/
def name : Preset → String
  | interactive => "interactive"
  | batch => "batch"
  | minimal => "minimal"

/-- The preset of a name, written in any case. -/
def ofName? (t : Text) : Option Preset :=
  all.find? fun p => p.name.toList = Text.lower t

/-- The preset of a name, written exactly as it is stored. -/
def ofExactName? (t : Text) : Option Preset :=
  all.find? fun p => p.name.toList = t

/-- The preset that holds where nothing else is said. -/
def standard : Preset :=
  interactive

end Preset

end SnippetCost
