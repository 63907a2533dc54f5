import SnippetCost.Yaml.Cursor
import SnippetCost.Yaml.Scalar

/-!
# Writing a settings document

What is written is a tree of mappings whose leaves are texts. Every member of a mapping is written on a
line of its own, and the members of a mapping within it follow on the lines below, indented by two
spaces more. The main definition is `Tree.write`.
-/

namespace SnippetCost.Yaml

/-- A tree to be written. -/
inductive Tree where
  /-- A text, and whether it is written plainly, without quotes. -/
  | leaf (plain : Bool) (text : Text)
  | mapping (members : List (Text × Tree))

namespace Tree

/-- The leaf that stands for a text. -/
def ofText (t : Text) : Tree :=
  leaf (t.all isSafeChar && !needsQuotes t) t

/-- The leaf that stands for a number. -/
def ofNat (n : Nat) : Tree :=
  leaf true (Text.ofNat n)

/-- The leaf that stands for a truth value. -/
def ofBool (b : Bool) : Tree :=
  leaf true (toString b).toList

/-- A text between single quotes, each of its own doubled. -/
def quote (t : Text) : Text :=
  '\'' :: t.flatMap (fun c => if c = '\'' then ['\'', '\''] else [c]) ++ ['\'']

/-- A leaf as it is written. -/
def writeLeaf (plain : Bool) (t : Text) : Text :=
  if plain then t else quote t

/-- A line with a key, indented by `indent`, and what follows its colon. -/
def writeLine (indent : Nat) (key rest : Text) : Text :=
  List.replicate indent ' ' ++ key ++ ':' :: rest ++ ['\n']

mutual

/-- A member as it is written. -/
def writeMember (indent : Nat) (key : Text) : Tree → Text
  | leaf plain t => writeLine indent key (' ' :: writeLeaf plain t)
  | mapping ms => writeLine indent key [] ++ writeMembers (indent + 2) ms

/-- The members of a mapping as they are written. -/
def writeMembers (indent : Nat) : List (Text × Tree) → Text
  | [] => []
  | (key, value) :: ms => writeMember indent key value ++ writeMembers indent ms

end

/-- A document as it is written. -/
def write : Tree → Text
  | leaf plain t => writeLeaf plain t ++ ['\n']
  | mapping ms => writeMembers 0 ms

end Tree

end SnippetCost.Yaml
