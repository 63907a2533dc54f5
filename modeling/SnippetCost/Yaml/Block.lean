import SnippetCost.Yaml.Folding

/-!
# Block scalars

A bar or an angle bracket begins a scalar that stands on the lines below it, indented deeper than its
key. Behind a bar the lines are kept as they are; behind an angle bracket they are folded. The header
can give the indentation, and say whether line ends at the end of the scalar are dropped or kept;
without a word one is kept. The main definition is `readBlock?`.
-/

namespace SnippetCost.Yaml

/-- What happens to the ends of lines at the end of a block scalar. -/
inductive Chomping where
  | dropAll
  | keepOne
  | keepAll
deriving DecidableEq, Repr

/-- The header of a block scalar. -/
structure BlockHeader where
  chomping : Chomping := .keepOne
  /-- How much deeper than the mapping around it the scalar is indented, if the header says. -/
  indent : Option Nat := none
deriving DecidableEq, Repr

namespace BlockHeader

/-- The chomping that a sign asks for. -/
def chomping? : Char → Option Chomping
  | '-' => some .dropAll
  | '+' => some .keepAll
  | _ => none

/-- The indentation that a digit gives. -/
def indent? (c : Char) : Option Nat :=
  if '1' ≤ c && c ≤ '9' then some (c.toNat - '0'.toNat) else none

/-- Read the signs of a header, each at most once and in either order. -/
def read (h : BlockHeader) : Nat → Text → BlockHeader × Text
  | n + 1, c :: rest =>
    match chomping? c, indent? c with
    | some chomping, _ =>
      if h.chomping = .keepOne then read { h with chomping := chomping } n rest else (h, c :: rest)
    | none, some indent =>
      if h.indent = none then read { h with indent := some indent } n rest else (h, c :: rest)
    | none, none => (h, c :: rest)
  | _, t => (h, t)

end BlockHeader

/-- The deepest indentation of the lines up to the first that is not blank. Tabs may not indent. -/
def deepestMargin? (column best : Nat) : Text → Option Nat
  | [] => some (max best column)
  | c :: rest =>
    if c = ' ' then deepestMargin? (column + 1) best rest
    else if c = '\t' then none
    else if isBreak c then deepestMargin? 0 (max best column) rest
    else some (max best column)

/-- Read lines indented by `indent`: the lines without their indentation, and the place where they
end. The column is that within the indentation of a line, or missing behind it. -/
def readIndented (indent line : Nat) (margin : Option Nat) : Text → Option (Text × Cursor)
  | [] => some ([], ⟨line, margin.getD indent, true, []⟩)
  | c :: rest =>
    if isBreak c then
      (readIndented indent (line + 1) (some 0) rest).map fun (t, after) => (c :: t, after)
    else
      match margin with
      | none => (readIndented indent line none rest).map fun (t, after) => (c :: t, after)
      | some column =>
        if column < indent then
          if c = ' ' then readIndented indent line (some (column + 1)) rest
          else if c = '\t' then none
          else some ([], ⟨line, column, true, c :: rest⟩)
        else (readIndented indent line none rest).map fun (t, after) => (c :: t, after)

/-- The ends of lines at the end of a text, as chomping leaves them. -/
def chomp (chomping : Chomping) (t : Text) : Text :=
  let body := Text.dropEndWhile isBreak t
  let tail := t.drop body.length
  match chomping with
  | .dropAll => body
  | .keepOne => if body.isEmpty then [] else body ++ tail.take 1
  | .keepAll => t

/-- What ends of lines between two lines are folded to. Lines that begin with a space stay lines. -/
def foldBetween (besideSpace : Bool) : Text → Text
  | ['\n'] => if besideSpace then ['\n'] else [' ']
  | '\n' :: more => if besideSpace then '\n' :: more else more
  | breaks => breaks

/-- Fold the lines of a text. The ends of lines that have been read since the last line are `breaks`,
and `spaced` tells whether that line begins with a space; there is no line before the first. -/
def foldLines (inLine spaced : Bool) (breaks : Text) : Text → Text
  | [] => breaks
  | c :: rest =>
    if isBreak c then foldLines false spaced (breaks ++ [c]) rest
    else if inLine then c :: foldLines true spaced [] rest
    else foldBetween (spaced || isSpace c) breaks ++ c :: foldLines true (isSpace c) [] rest

/-- The text of a block scalar, from its lines without their indentation. -/
def blockText (folding : Bool) (chomping : Chomping) (lines : Text) : Text :=
  let t := chomp chomping lines
  if folding then foldLines false true [] t else t

/-- Read a block scalar whose lines are indented by `floor` or more. -/
def readBlock? (floor : Nat) (c : Cursor) : Option (Text × Cursor) :=
  match c.rest with
  | [] => none
  | mark :: rest =>
    if mark = '|' || mark = '>' then do
      let (header, rest) := BlockHeader.read {} 2 rest
      let lines ← afterComment? rest
      let indent ←
        match header.indent with
        | some n => some (floor - 1 + n)
        | none => (deepestMargin? 0 0 lines).map fun n => max n (max floor 1)
      let (t, after) ← readIndented indent (c.line + 1) (some 0) lines
      return (blockText (mark = '>') header.chomping t, after)
    else none

end SnippetCost.Yaml
