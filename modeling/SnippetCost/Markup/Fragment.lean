import SnippetCost.Markup.Stripping
import SnippetCost.Text.Word

/-!
# Fragments of markup

What a page can take in as it stands: every angle belongs to the tag of an element, every ampersand
begins an entity, and tags match like brackets. All of this is said of the text alone, not of a tree
that it was written from. The grammar is `Markup.Fragment`; what an angle or an ampersand begins is
`Markup.BeginsTag` and `Markup.BeginsEntity`.
-/

namespace SnippetCost.Markup

/-- Whether the value of a class may hold a character. -/
def isClassValueChar (c : Char) : Bool :=
  isAsciiAlphanumeric c || c = '-' || c = '_' || c = '+'

/-- Whether an element has no class, or one of which every character may stand in a class. -/
def isSafeClass (cssClass : Option Text) : Bool :=
  cssClass.all fun value => value.all isClassValueChar

/-- A text that stands within the elements of `around`, the innermost first, and closes them all. -/
inductive Fragment : List Tag → Text → Prop where
  | nil : Fragment [] []
  | char {around : List Tag} {rest : Text} {c : Char} :
    c ≠ '<' → c ≠ '>' → c ≠ '&' → Fragment around rest → Fragment around (c :: rest)
  | entity {around : List Tag} {rest : Text} {e : Entity} :
    e ∈ entities → Fragment around rest → Fragment around (e.write ++ rest)
  | opening {around : List Tag} {rest : Text} {tag : Tag} {cssClass : Option Text} :
    isSafeClass cssClass → Fragment (tag :: around) rest →
      Fragment around (openTag tag cssClass ++ rest)
  | closing {around : List Tag} {rest : Text} {tag : Tag} :
    Fragment around rest → Fragment (tag :: around) (closeTag tag ++ rest)

/-- A text that begins with a tag. -/
def BeginsTag (t : Text) : Prop :=
  ∃ tag, closeTag tag <+: t ∨ ∃ cssClass, isSafeClass cssClass ∧ openTag tag cssClass <+: t

/-- A text that begins with an entity. -/
def BeginsEntity (t : Text) : Prop :=
  ∃ e ∈ entities, e.write <+: t

end SnippetCost.Markup
