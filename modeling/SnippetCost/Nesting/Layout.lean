import SnippetCost.Nesting.Line
import SnippetCost.Text.Lines

/-!
# Layouts

A program is a tree of blocks, `Block`, and its text lays the tree out by indentation, `LaidOut`. How
deep its loops are nested can be told from the tree alone, `Block.nesting`. Two texts have the same
layout if they differ by blanks at the edges of lines only, and their columns are ordered alike,
`SameLayout`.
-/

namespace SnippetCost

/-- A line of a program without its indentation. It is one line, and it says something. -/
structure BareLine where
  text : Text
  oneLine : '\n' ∉ text := by decide
  flush : text.head?.any (fun c => !isBlank c && c ≠ '#') := by decide

/-- Whether a line opens a loop. -/
def BareLine.opensLoop (line : BareLine) : Bool :=
  Text.isLoopHeader line.text

/-- A block of statements: each a line, or a header with a block of its own as body. -/
inductive Block where
  | done
  | simple (line : BareLine) (plain : line.opensLoop = false) (rest : Block)
  | loop (header : BareLine) (opens : header.opensLoop) (body rest : Block)
  | branch (header : BareLine) (plain : header.opensLoop = false) (body rest : Block)

namespace Block

/-- The largest number of loops around one another. -/
def nesting : Block → Nat
  | done => 0
  | simple _ _ rest => rest.nesting
  | loop _ _ body rest => max (body.nesting + 1) rest.nesting
  | branch _ _ body rest => max body.nesting rest.nesting

/-- The largest number of loops and of branches behind a loop of their own block, around one another.
`held` says whether the block stands behind a loop to begin with. -/
def heldNesting (held : Bool) : Block → Nat
  | done => 0
  | simple _ _ rest => rest.heldNesting held
  | loop _ _ body rest => max (body.heldNesting false + 1) (rest.heldNesting true)
  | branch _ _ body rest => max (body.heldNesting false + held.toNat) (rest.heldNesting held)

/-- Whether no branch with loops in it stands behind a loop of its own block. -/
def isSeparated (held : Bool) : Block → Bool
  | done => true
  | simple _ _ rest => rest.isSeparated held
  | loop _ _ body rest => body.isSeparated false && rest.isSeparated true
  | branch _ _ body rest =>
    (!held || body.nesting = 0) && body.isSeparated false && rest.isSeparated held

def isFilled : Block → Bool
  | done => false
  | _ => true

/-- Whether every body in a block says something. -/
def hasFilledBodies : Block → Bool
  | done => true
  | simple _ _ rest => rest.hasFilledBodies
  | loop _ _ body rest => body.isFilled && body.hasFilledBodies && rest.hasFilledBodies
  | branch _ _ body rest => body.isFilled && body.hasFilledBodies && rest.hasFilledBodies

end Block

/-- An indentation to a column: as many blanks, none of them a line feed. -/
structure IsIndent (column : Nat) (indent : Text) : Prop where
  length_eq : indent.length = column
  blanks : indent.IsBlanks
  oneLine : '\n' ∉ indent

/-- The lines lay the block out at a column: the statements of one block stand at the same column,
and a body stands at any column to the right of its header. -/
inductive LaidOut : Nat → Block → List Text → Prop where
  | done {column} :
    LaidOut column .done []
  | simple {column indent line plain rest lines} :
    IsIndent column indent →
    LaidOut column rest lines →
    LaidOut column (.simple line plain rest) ((indent ++ line.text) :: lines)
  | loop {column deeper indent header opens body rest inner lines} :
    IsIndent column indent →
    column < deeper →
    LaidOut deeper body inner →
    LaidOut column rest lines →
    LaidOut column (.loop header opens body rest) ((indent ++ header.text) :: (inner ++ lines))
  | branch {column deeper indent header plain body rest inner lines} :
    IsIndent column indent →
    column < deeper →
    LaidOut deeper body inner →
    LaidOut column rest lines →
    LaidOut column (.branch header plain body rest) ((indent ++ header.text) :: (inner ++ lines))

/-- A text holds the lines; the line feed behind the last one may be missing. -/
def Text.HoldsLines (t : Text) (lines : List Text) : Prop :=
  t = joinLines lines ∨ t = joinLines lines ++ ['\n']

open Text in
/-- Two texts of the same lines, up to blanks at the edges of the lines, with columns that are ordered
alike: of any two lines that say anything, the one is indented less in both texts or in neither. -/
structure SameLayout (s t : Text) : Prop where
  trim_eq : (cutLines s).map trim = (cutLines t).map trim
  column_lt_iff : ∀ a ∈ (cutLines s).zip (cutLines t), ∀ b ∈ (cutLines s).zip (cutLines t),
    isSignificant a.1 → isSignificant b.1 →
      (indentation a.1 < indentation b.1 ↔ indentation a.2 < indentation b.2)

end SnippetCost
