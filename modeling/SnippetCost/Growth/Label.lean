import SnippetCost.Growth.Basic
import SnippetCost.Growth.Band

/-!
# Labels of growth

A label found in a report names a class of growth, or is kept as the free text that it is. The main
definitions are `Label.read`, `Label.text` and `Label.ofStored`.
-/

namespace SnippetCost

/-- A label of growth: a known class, or free text such as `O(V + E)`. -/
inductive Label where
  | known (growth : Growth)
  | other (text : Text)
deriving DecidableEq, Repr

namespace Label

/-- Read a label; free text loses the blanks at its ends. -/
def read (t : Text) : Label :=
  match Growth.ofLabel? t with
  | some growth => known growth
  | none => other (Text.trim t)

/-- The text that a label is shown by. -/
def text : Label → Text
  | known growth => growth.label.toList
  | other text => text

/-- The colour that a label is shown in. -/
def band (l : Label) : Band :=
  Band.ofText l.text

/-- The text that a label is stored by: the name of a known class, or the free text. -/
def stored : Label → Text
  | known growth => growth.name.toList
  | other text => text

/-- Read a stored label: a text that names a class is that class. -/
def ofStored (t : Text) : Label :=
  match Growth.ofName? t with
  | some growth => known growth
  | none => other t

end Label

end SnippetCost
