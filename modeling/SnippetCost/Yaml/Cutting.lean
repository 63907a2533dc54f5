import SnippetCost.Yaml.Plain
import SnippetCost.Yaml.Quoted
import SnippetCost.Yaml.Block
import SnippetCost.Yaml.Tag

/-!
# Cutting a settings document into tokens

The text is cut from left to right. That a scalar is a key shows only at the colon behind it, so the
tokens of what may turn out to be a key are held back until the colon comes, which must be on the same
line and not too far away. Where a mapping is laid out by indentation, whatever begins in its column
must be a key. The state is `Cutting`, one step is `Cutting.advance?` with `Cutting.read?`, and
`tokens?` cuts a document.
-/

namespace SnippetCost.Yaml

/-- The tokens of what may turn out to be a key, and where it began. -/
structure PossibleKey where
  line : Nat
  column : Nat
  /-- Whether nothing else than a key may begin there. -/
  required : Bool
  /-- The tokens, the last first. -/
  tokens : List Token := []
deriving DecidableEq, Repr

/-- How far a document has been cut into tokens. -/
structure Cutting where
  place : Cursor
  /-- The columns of the mappings that are laid out by indentation and not yet over, the innermost
  first. -/
  columns : List Nat := []
  /-- How many braces are open. -/
  braces : Nat := 0
  key : Option PossibleKey := none
  /-- The tokens before those that are held back, the last first. -/
  tokens : List Token := []
deriving DecidableEq, Repr

namespace Cutting

/-- How far apart a key may begin and its colon stand. -/
def maxKeyWidth : Nat := 1024

/-- Whether the place is within braces. -/
def inBraces (s : Cutting) : Bool :=
  s.braces ≠ 0

/-- The least column that is indented more deeply than the innermost mapping laid out by
indentation. -/
def floor (s : Cutting) : Nat :=
  match s.columns with
  | [] => 0
  | column :: _ => column + 1

/-- Add a token behind those that are held back. -/
def emit (t : Token) (s : Cutting) : Cutting :=
  match s.key with
  | none => { s with tokens := t :: s.tokens }
  | some k => { s with key := some { k with tokens := t :: k.tokens } }

/-- Add a token, and go on at a place. -/
def emitTo (t : Token) (place : Cursor) (s : Cutting) : Cutting :=
  { s.emit t with place := place }

/-- Give up that what is held back is a key, if that is not required. -/
def dropKey? (s : Cutting) : Option Cutting :=
  match s.key with
  | none => some s
  | some k =>
    if k.required then none else some { s with key := none, tokens := k.tokens ++ s.tokens }

/-- Give up a key that begins on another line or too far away. -/
def dropFarKey? (s : Cutting) : Option Cutting :=
  if s.key.any fun k => k.line ≠ s.place.line || k.column + maxKeyWidth < s.place.column then
    s.dropKey?
  else some s

/-- Hold back what begins here if it may turn out to be a key. -/
def beginKey? (s : Cutting) : Option Cutting :=
  if s.place.fresh then do
    let s ← s.dropKey?
    let required := !s.inBraces && s.floor = s.place.column + 1
    return { s with key := some ⟨s.place.line, s.place.column, required, []⟩ }
  else some s

/-- Begin a mapping in a column, if it is indented more deeply than the mapping around it. -/
def openBlock (column : Nat) (s : Cutting) : Cutting :=
  if !s.inBraces && s.floor ≤ column then
    { s.emit .blockStart with columns := column :: s.columns }
  else s

/-- End the mappings whose columns satisfy `p`, up to the first that does not. -/
def closeBlocks (p : Nat → Bool) (s : Cutting) : Cutting :=
  if s.inBraces then s
  else
    let closed := s.columns.takeWhile p
    { closed.foldl (fun s _ => s.emit .blockEnd) s with columns := s.columns.drop closed.length }

/-- Skip to the next token, and end what does not reach as far. -/
def advance? (s : Cutting) : Option Cutting := do
  let place := s.place.skipGap s.inBraces
  let s ← { s with place := place }.dropFarKey?
  return s.closeBlocks (place.column < ·)

/-- End all mappings before a directive, the mark of a document, or the end of the text. -/
def closeAll? (s : Cutting) : Option Cutting :=
  if s.inBraces then none else (s.closeBlocks fun _ => true).dropKey?

/-- Cut a token that is a mark of one character. -/
def readMark? (s : Cutting) : Char → Option Cutting
  | '\x7b' => do
    let s ← (← s.beginKey?).dropKey?
    return { s.emitTo .braceOpen { s.place.skip 1 with fresh := true } with braces := s.braces + 1 }
  | '\x7d' => do
    if !s.inBraces then none
    let s ← s.dropKey?
    return { s.emitTo .braceClose (s.place.skip 1) with braces := s.braces - 1 }
  | ',' => do
    if !s.inBraces then none
    let s ← s.dropKey?
    return s.emitTo .comma { s.place.skip 1 with fresh := true }
  | '?' => do
    if !s.inBraces && !s.place.fresh then none
    let s ← (s.openBlock s.place.column).dropKey?
    return s.emitTo .key { s.place.skip 1 with fresh := !s.inBraces }
  | ':' =>
    match s.key with
    | some k =>
      let s := ({ s with key := none }.openBlock k.column).emit .key
      some ({ s with tokens := k.tokens ++ s.tokens }.emitTo .value (s.place.skip 1))
    | none =>
      if s.inBraces then some (s.emitTo .value (s.place.skip 1))
      else if s.place.fresh then
        some ((s.openBlock s.place.column).emitTo .value { s.place.skip 1 with fresh := true })
      else none
  | _ => none

/-- Cut a node, or a mark of one. -/
def readContent? (s : Cutting) (c : Char) : Option Cutting := do
  if (c = '|' || c = '>') && !s.inBraces then
    let s ← s.dropKey?
    let (t, after) ← readBlock? s.floor s.place
    return s.emitTo (.scalar (if c = '|' then .literal else .folded) t) after
  else
    let s ← s.beginKey?
    let (token, after) ←
      if c = '&' then (readName? s.place).map fun (name, after) => (.anchor name, after)
      else if c = '*' then (readName? s.place).map fun (name, after) => (.reference name, after)
      else if c = '!' then readTag? s.inBraces s.place
      else if c = '\'' || c = '"' then
        (readQuoted? s.place).map fun (t, after) => (.scalar .quoted t, after)
      else
        (readPlain? s.inBraces s.floor s.place).map fun (t, after) => (.scalar .plain t, after)
    return s.emitTo token after

/-- Whether a character is a token of its own. The question mark and the colon are none before the
rest of a word, unless they stand within braces. -/
def isMark (s : Cutting) (c : Char) (rest : Text) : Bool :=
  c = '\x7b' || c = '\x7d' || c = ',' || ((c = '?' || c = ':') && (s.inBraces || endsWord rest))

/-- Cut the next token, which begins with `c`. -/
def read? (s : Cutting) (c : Char) (rest : Text) : Option Cutting := do
  if c = '%' && s.place.column = 0 then
    let s ← s.closeAll?
    let (token, after) ← readDirective? s.place
    return s.emitTo token after
  else if s.place.atMarker then
    let s ← s.closeAll?
    return s.emitTo (if c = '-' then .documentStart else .documentEnd) (s.place.skip 3)
  else if s.isMark c rest then s.readMark? c
  else s.readContent? c

/-- Cut the rest of the text. Every token takes at least one character. -/
def run? : Nat → Cutting → Option (List Token)
  | 0, _ => none
  | fuel + 1, s => do
    let s ← s.advance?
    match s.place.rest with
    | [] => do
      let s ← s.closeAll?
      return s.tokens.reverse
    | c :: rest => run? fuel (← s.read? c rest)

end Cutting

/-- The tokens of a text. -/
def tokens? (t : Text) : Option (List Token) :=
  if t.all isAllowed then Cutting.run? (t.length + 1) { place := { rest := unifyBreaks t } }
  else none

end SnippetCost.Yaml
