import SnippetCost.Nesting.Scan

/-!
# Loops that stay open

Which loops are open behind some lines, said of the lines alone. A line closes the loops whose headers
are not to the left of it; one that opens no loop itself spares those at its own column. A loop is open
as long as no line behind its header closes it. The count is `openLoops`. What a scan should be like in
every state is `NestingScan.Sound`, and how it should close loops `NestingScan.ClosesEach`.
-/

namespace SnippetCost

/-- Whether a line leaves a loop open whose header stands at a column. -/
def Text.leavesOpen (column : Nat) (line : Text) : Bool :=
  if isSignificant line then
    if opensLoop line then column < indentation line else column ≤ indentation line
  else true

/-- Whether a line opens a loop that none of the later lines closes. -/
def Text.staysOpen (header : Text) (later : List Text) : Bool :=
  opensLoop header && later.all (leavesOpen (indentation header))

/-- The number of lines that open a loop which none of the lines behind them closes. -/
def openLoops : List Text → Nat
  | [] => 0
  | header :: later =>
    if Text.staysOpen header later then openLoops later + 1 else openLoops later

/-- Whether the first line that says anything opens a loop at a column. -/
def BeginsWithLoopAt (column : Nat) (lines : List Text) : Prop :=
  ∃ header, lines.find? Text.isSignificant = some header ∧ Text.opensLoop header ∧
    Text.indentation header = column

namespace NestingScan

/-- What holds of every scan that lines have led to. -/
structure Sound (s : NestingScan) : Prop where
  descending : s.columns.Pairwise (· > ·)
  depth_eq : s.depth = s.columns.length
  depth_le : s.depth ≤ s.deepest

/-- Close the innermost loop. The counter stops at zero. -/
def closeInnermost (s : NestingScan) : NestingScan :=
  { s with
    columns := s.columns.tail
    depth := s.depth - 1 }

/-- The innermost loops are closed one at a time as long as their columns satisfy `p`, and each time
the counter falls by exactly one. -/
inductive ClosesEach (p : Nat → Bool) : NestingScan → NestingScan → Prop where
  | stop {s} :
    (∀ column ∈ s.columns.head?, p column = false) →
    ClosesEach p s s
  | close {s t column} :
    s.columns.head? = some column →
    p column →
    s.closeInnermost.depth + 1 = s.depth →
    ClosesEach p s.closeInnermost t →
    ClosesEach p s t

end NestingScan

end SnippetCost
