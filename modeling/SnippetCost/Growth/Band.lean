import SnippetCost.Text.Basic

/-!
# Colour bands

A label is shown in one of four colours, chosen by the labels of growth that stand in its text.
-/

namespace SnippetCost

/-- The colour that a label is shown in. -/
inductive Band where
  | fast
  | linear
  | slow
  | fallback
deriving DecidableEq, Repr

namespace Band

/-- All bands. -/
def all : List Band :=
  [fast, linear, slow, fallback]

/-- The name of a band. -/
def name : Band → String
  | fast => "fast"
  | linear => "linear"
  | slow => "slow"
  | fallback => "fallback"

/-- The class that gives an element the colour of a band. -/
def cssClass : Band → String
  | fast => "complexity-fast"
  | linear => "complexity-linear"
  | slow => "complexity-slow"
  | fallback => "complexity-other"

/-- The band of a label: the first that one of whose marks stands in the text. -/
def ofText (t : Text) : Band :=
  if Text.includes "O(1)".toList t || Text.includes "O(log n)".toList t then fast
  else if Text.includes "O(n²)".toList t || Text.includes "O(n log n)".toList t then slow
  else if Text.includes "O(n)".toList t then linear
  else fallback

end Band

end SnippetCost
