import SnippetCost.Markup.Basic
import SnippetCost.Text.Replace

/-!
# Taking marks out of markup

What a reader has to do to get the text of a highlighted snippet back: delete the tags of the marks,
and put the characters back that entities stand for. Neither looks at the tree; both work on what was
written. The two steps are `Markup.stripMarks` and `Markup.unescape`.
-/

namespace SnippetCost.Markup

/-- What follows a tag of a mark at the front of a text: the tag that opens it, whatever class
without a quote it names, or the tag that closes it. -/
def afterMarkTag? (t : Text) : Option Text :=
  match Text.dropLead? "<span class=\"".toList t with
  | some rest => Text.dropLead? "\">".toList (rest.dropWhile (· ≠ '"'))
  | none => Text.dropLead? "</span>".toList t

/-- The text without the tags of marks. -/
def stripMarks (t : Text) : Text :=
  Text.replaceEach afterMarkTag? [] t

/-- A character that text cannot hold as it is, with what stands for it behind an ampersand. -/
structure Entity where
  char : Char
  name : Text
deriving DecidableEq, Repr

/-- An entity as it is written. -/
def Entity.write (e : Entity) : Text :=
  '&' :: e.name

/-- The entities in the order in which they are put back. The one of the ampersand comes last, so
that putting it back makes no other. -/
def entities : List Entity :=
  [⟨'<', "lt;".toList⟩, ⟨'>', "gt;".toList⟩, ⟨'&', "amp;".toList⟩]

/-- The text with the characters put back that entities stand for. -/
def unescape (t : Text) : Text :=
  entities.foldl (fun t e => Text.replaceAll e.write [e.char] t) t

/-- Nothing in the text has a meaning in markup: it has no angle, and an ampersand only where an
entity begins. -/
structure IsEscaped (t : Text) : Prop where
  noLess : '<' ∉ t
  noGreater : '>' ∉ t
  entity : ∀ u v, t = u ++ '&' :: v → ∃ e ∈ entities, e.name <+: v

end SnippetCost.Markup
