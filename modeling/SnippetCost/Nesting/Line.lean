import SnippetCost.Text.Word
import SnippetCost.Text.Blank

/-!
# Lines of a program

What the nesting of loops depends on in one line: how far the line is indented, whether it says
anything, and whether it opens a loop. The three questions are `Text.indentation`, `Text.isSignificant`
and `Text.opensLoop`.
-/

namespace SnippetCost.Text

/-- The number of blanks that a line begins with. -/
def indentation (line : Text) : Nat :=
  (line.takeWhile isBlank).length

/-- Whether a text begins with `keyword` and the keyword is not the beginning of a longer name. -/
def opensWith (keyword t : Text) : Bool :=
  match dropLead? keyword t with
  | some rest => !rest.head?.any isNameChar
  | none => false

/-- Whether a line without its indentation opens a loop. -/
def isLoopHeader (t : Text) : Bool :=
  opensWith "for".toList t || opensWith "while".toList t

/-- Whether a line is neither blank nor a comment. -/
def isSignificant (line : Text) : Bool :=
  match trimStart line with
  | [] => false
  | c :: _ => c ≠ '#'

/-- Whether a line opens a loop, whatever its indentation. -/
def opensLoop (line : Text) : Bool :=
  isLoopHeader (trimStart line)

end SnippetCost.Text
