import SnippetCost.Yaml.Token

/-!
# Nodes of a settings document

A settings document is a tree of mappings whose keys and leaves are scalars. Nothing in settings is a
sequence, and no key is a mapping, so a document that holds one of these is not read. A node can have
an anchor, and an alias elsewhere stands for it. What a scalar stands for depends on where it stands: a
text is taken as written, and a number, a truth value or nothing must be written without quotes.
-/

namespace SnippetCost.Yaml

/-- A scalar. Anchors are numbered. -/
structure Scalar where
  anchor : Option Nat := none
  tag : Option Text := none
  style : Style := .plain
  text : Text
deriving DecidableEq, Repr

/-- A node that holds no other. -/
inductive Leaf where
  | scalar (s : Scalar)
  | reference (anchor : Nat)
deriving DecidableEq, Repr

/-- A node of a settings document. -/
inductive Node where
  | leaf (l : Leaf)
  | mapping (anchor : Option Nat) (members : List (Leaf × Node))

/-- The nodes that have an anchor, by the numbers of their anchors. Of two nodes whose anchors have
the same number the first counts. -/
abbrev Anchors := List (Nat × Node)

namespace Leaf

/-- The leaf that stands where nothing is written. -/
def blank : Leaf :=
  scalar { text := [] }

/-- The leaf by the number of its anchor, if it has one. -/
def anchors : Leaf → Anchors
  | scalar s => (s.anchor.map fun n => (n, Node.leaf (scalar s))).toList
  | reference _ => []

end Leaf

namespace Node

/-- The node that stands where nothing is written. -/
def blank : Node :=
  leaf .blank

/-- The leaf that a node is. -/
def leaf? : Node → Option Leaf
  | leaf l => some l
  | mapping _ _ => none

mutual

/-- The nodes that have an anchor within a node, itself included, in the order of their starts. -/
def anchors : Node → Anchors
  | leaf l => l.anchors
  | mapping anchor ms =>
    (anchor.map fun n => (n, mapping anchor ms)).toList ++ memberAnchors ms

/-- The nodes that have an anchor within the members of a mapping, in the order of their starts. -/
def memberAnchors : List (Leaf × Node) → Anchors
  | [] => []
  | (key, value) :: ms => key.anchors ++ value.anchors ++ memberAnchors ms

end

/-- The node itself, or the node that it stands for. -/
def target? (known : Anchors) : Node → Option Node
  | leaf (.reference n) => known.lookup n
  | n => some n

/-- The scalar that a node is or stands for. -/
def scalar? (known : Anchors) (n : Node) : Option Scalar :=
  match n.target? known with
  | some (leaf (.scalar s)) => some s
  | _ => none

/-- The text of a scalar. -/
def text? (known : Anchors) (n : Node) : Option Text :=
  (n.scalar? known).map Scalar.text

/-- The members of a mapping by the texts of their keys. A plain scalar without a character is a
mapping without members. -/
def members? (known : Anchors) (n : Node) : Option (List (Text × Node)) :=
  match n.target? known with
  | some (mapping _ ms) =>
    ms.mapM fun (key, value) => ((leaf key).text? known).map fun t => (t, value)
  | some (leaf (.scalar s)) => if s.style = .plain && s.text = [] then some [] else none
  | _ => none

end Node

end SnippetCost.Yaml
