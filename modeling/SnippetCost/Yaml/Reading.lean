import SnippetCost.Yaml.Node
import SnippetCost.Yaml.Cutting

/-!
# Reading a settings document

The tree of a document is read from its tokens by descent. Every two steps of the descent take at least
one token, so the number of tokens bounds the number of steps. Anchors are numbered on the way: the
number of an anchor is how many names are known before it. The main definition is `Node.read?`.
-/

namespace SnippetCost.Yaml

/-- The names of anchors, each once, with the number of the anchor that has last had the name. -/
abbrev AnchorNames := List (Text × Nat)

namespace AnchorNames

/-- Number an anchor. -/
def note (known : AnchorNames) : Option Text → Option Nat × AnchorNames
  | none => (none, known)
  | some name => (some known.length, (name, known.length) :: known.filter (·.1 ≠ name))

end AnchorNames

/-- What directives have said: whether they have named the version, and what handles stand for. -/
structure Directives where
  hasVersion : Bool := false
  handles : List (Text × Text) := []
deriving DecidableEq, Repr

namespace Directives

/-- The handles that need no directive. -/
def commonHandles : List (Text × Text) :=
  [("!", "!"), ("!!", "tag:yaml.org,2002:")].map fun (name, lead) => (name.toList, lead.toList)

/-- Whether a version of the language can be read. -/
def isVersion (major minor : Nat) : Bool :=
  major = 1 && (minor = 1 || minor = 2)

/-- Read directives; none may speak of what another has said. -/
def read? (d : Directives) : List Token → Option (Directives × List Token)
  | .version major minor :: ts =>
    if d.hasVersion || !isVersion major minor then none else read? { d with hasVersion := true } ts
  | .handle name lead :: ts =>
    if (d.handles.lookup name).isSome then none
    else read? { d with handles := (name, lead) :: d.handles } ts
  | ts => some (d, ts)

/-- The tag that a handle and the rest of a tag stand for. -/
def tag? (d : Directives) (handle rest : Text) : Option Text :=
  if handle = [] then some rest
  else ((d.handles ++ commonHandles).lookup handle).map (· ++ rest)

end Directives

/-- The marks before a node. -/
structure Marks where
  anchor : Option Text := none
  tag : Option Text := none
deriving DecidableEq, Repr

namespace Marks

/-- Read the marks before a node: an anchor, a tag, or both in either order. -/
def read? (d : Directives) : List Token → Option (Marks × List Token)
  | .anchor name :: .tag handle rest :: ts | .tag handle rest :: .anchor name :: ts =>
    (d.tag? handle rest).map fun tag => (⟨some name, some tag⟩, ts)
  | .anchor name :: ts => some (⟨some name, none⟩, ts)
  | .tag handle rest :: ts => (d.tag? handle rest).map fun tag => (⟨none, some tag⟩, ts)
  | ts => some ({}, ts)

end Marks

/-- Whether the key or the value of a mapping laid out by indentation is over at a token. -/
def endsBlockNode : Token → Bool
  | .key | .value | .blockEnd => true
  | _ => false

/-- Whether the key of a mapping in braces is over at a token. -/
def endsBraceKey : Token → Bool
  | .value | .comma | .braceClose => true
  | _ => false

/-- Whether the value of a mapping in braces is over at a token. -/
def endsBraceValue : Token → Bool
  | .comma | .braceClose => true
  | _ => false

mutual

/-- Read a node. Marks alone mark a scalar without a character. -/
def readNode (d : Directives) : Nat → AnchorNames → List Token →
    Option (Node × AnchorNames × List Token)
  | 0, _, _ => none
  | fuel + 1, names, ts =>
    match ts with
    | .reference name :: ts => (names.lookup name).map fun n => (.leaf (.reference n), names, ts)
    | _ => do
      let (marks, ts) ← Marks.read? d ts
      let (anchor, names) := names.note marks.anchor
      match ts with
      | .scalar style text :: ts =>
        let tag := marks.tag.filter (· ≠ ['!'])
        return (.leaf (.scalar { anchor, tag, style, text }), names, ts)
      | .blockStart :: ts => do
        let (ms, names, ts) ← readBlockMembers d fuel names ts
        return (.mapping anchor ms, names, ts)
      | .braceOpen :: ts => do
        let (ms, names, ts) ← readBraceMembers d fuel names ts
        return (.mapping anchor ms, names, ts)
      | _ =>
        if marks = {} then none
        else return (.leaf (.scalar { anchor, tag := marks.tag, text := [] }), names, ts)

/-- Read a node, or nothing before a token that ends it. -/
def readNodeOrNothing (d : Directives) (ends : Token → Bool) : Nat → AnchorNames → List Token →
    Option (Node × AnchorNames × List Token)
  | 0, _, _ => none
  | fuel + 1, names, ts =>
    if ts.head?.any ends then some (.blank, names, ts) else readNode d fuel names ts

/-- Read the value behind a key. Without a colon there is none. -/
def readValue (d : Directives) (ends : Token → Bool) : Nat → AnchorNames → List Token →
    Option (Node × AnchorNames × List Token)
  | 0, _, _ => none
  | fuel + 1, names, ts =>
    match ts with
    | .value :: ts => readNodeOrNothing d ends fuel names ts
    | _ => some (.blank, names, ts)

/-- Read the rest of a mapping laid out by indentation. -/
def readBlockMembers (d : Directives) : Nat → AnchorNames → List Token →
    Option (List (Leaf × Node) × AnchorNames × List Token)
  | 0, _, _ => none
  | fuel + 1, names, ts =>
    match ts with
    | .blockEnd :: ts => some ([], names, ts)
    | .key :: ts => do
      let (key, names, ts) ← readNodeOrNothing d endsBlockNode fuel names ts
      let key ← key.leaf?
      let (value, names, ts) ← readValue d endsBlockNode fuel names ts
      let (ms, names, ts) ← readBlockMembers d fuel names ts
      return ((key, value) :: ms, names, ts)
    | _ => none

/-- Read the rest of a mapping in braces. -/
def readBraceMembers (d : Directives) : Nat → AnchorNames → List Token →
    Option (List (Leaf × Node) × AnchorNames × List Token)
  | 0, _, _ => none
  | fuel + 1, names, ts =>
    match ts with
    | .braceClose :: ts => some ([], names, ts)
    | ts => do
      let (key, value, names, ts) ←
        match ts with
        | .key :: ts => do
          let (key, names, ts) ← readNodeOrNothing d endsBraceKey fuel names ts
          let (value, names, ts) ← readValue d endsBraceValue fuel names ts
          pure (key, value, names, ts)
        | ts => do
          let (key, names, ts) ← readNode d fuel names ts
          pure (key, Node.blank, names, ts)
      let key ← key.leaf?
      match ts with
      | .comma :: ts => do
        let (ms, names, ts) ← readBraceMembers d fuel names ts
        return ((key, value) :: ms, names, ts)
      | .braceClose :: ts => return ([(key, value)], names, ts)
      | _ => none

end

/-- Whether a document is over at a token. -/
def endsDocument : Token → Bool
  | .documentStart | .documentEnd | .version _ _ | .handle _ _ => true
  | _ => false

/-- Read the root of a document. Behind directives a mark must begin the document, and behind the
mark there may be nothing. -/
def readRoot (ts : List Token) : Option (Node × List Token) := do
  let (d, ts) ← Directives.read? {} ts
  let fuel := 3 * ts.length + 3
  let (root, _, ts) ←
    match ts with
    | .documentStart :: ts =>
      if ts.isEmpty then pure (.blank, [], ts) else readNodeOrNothing d endsDocument fuel [] ts
    | ts => if d = {} then readNode d fuel [] ts else none
  return (root, ts)

/-- The root of the one document that a text holds. -/
def Node.read? (t : Text) : Option Node := do
  let (root, ts) ← readRoot (← tokens? t)
  if ts.all (· = .documentEnd) then some root else none

end SnippetCost.Yaml
