import SnippetCost.Yaml.Writing
import SnippetCost.Yaml.Reading

/-!
# What a written document is read as

The tokens and the node that a tree stands for, said of the tree alone. A tree can be read back if its
keys and leaves are made of characters that have no meaning of their own in a document. The main
definitions are `Tree.IsReadable`, `Tree.tokens` and `Tree.node`.
-/

namespace SnippetCost.Yaml

/-- Whether a text can be a key: the colon behind it must not be too far away. -/
def isKeyText (t : Text) : Bool :=
  t ≠ [] && t.head? ≠ some '-' && t.all isSafeChar && t.length ≤ Cutting.maxKeyWidth

/-- Whether a text can be a leaf, written plainly or not. -/
def isLeafText (plain : Bool) (t : Text) : Bool :=
  t.all isSafeChar && (!plain || (t ≠ [] && t ≠ ['-']))

/-- The style in which a leaf is written. -/
def styleOf (plain : Bool) : Style :=
  if plain then .plain else .quoted

namespace Tree

mutual

/-- Whether a tree can be read back. -/
def IsReadable : Tree → Prop
  | leaf plain t => isLeafText plain t
  | mapping ms => ms ≠ [] ∧ AreReadable ms

/-- Whether the members of a mapping can be read back. -/
def AreReadable : List (Text × Tree) → Prop
  | [] => True
  | (key, value) :: ms => isKeyText key ∧ value.IsReadable ∧ AreReadable ms

end

mutual

/-- The tokens of a tree. -/
def tokens : Tree → List Token
  | leaf plain t => [.scalar (styleOf plain) t]
  | mapping ms => .blockStart :: memberTokens ms ++ [.blockEnd]

/-- The tokens of the members of a mapping. -/
def memberTokens : List (Text × Tree) → List Token
  | [] => []
  | (key, value) :: ms =>
    .key :: .scalar .plain key :: .value :: tokens value ++ memberTokens ms

end

mutual

/-- The node that a tree stands for. -/
def node : Tree → Node
  | leaf plain t => .leaf (.scalar { style := styleOf plain, text := t })
  | mapping ms => .mapping none (memberNodes ms)

/-- The members of the node that a mapping stands for. -/
def memberNodes : List (Text × Tree) → List (Leaf × Node)
  | [] => []
  | (key, value) :: ms => (.scalar { text := key }, node value) :: memberNodes ms

end

end Tree

end SnippetCost.Yaml
