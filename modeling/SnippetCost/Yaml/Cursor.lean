import SnippetCost.Text.Word

/-!
# Cursors

Where the reading of a document stands: the text ahead, its line and column, and whether a key may
begin there. Outside braces a key may begin where only spaces separate it from the start of its line.
Tabs are no indentation, so they are skipped only where no key may begin. The main definitions are
`Cursor` and `Cursor.skipGap`.
-/

namespace SnippetCost.Yaml

/-- Whether a character ends a line. -/
def isBreak (c : Char) : Bool :=
  c = '\n' || c = '\u2028' || c = '\u2029'

/-- Whether a character is a space or a tab. -/
def isSpace (c : Char) : Bool :=
  c = ' ' || c = '\t'

/-- Whether a word ends here: the text is over, or a space, a tab or a line's end comes next. -/
def endsWord : Text → Bool
  | [] => true
  | c :: _ => isSpace c || isBreak c

/-- The text behind a line that holds nothing more than a comment. -/
def afterComment? (t : Text) : Option Text :=
  match t.dropWhile isSpace with
  | [] => some []
  | c :: rest =>
    if isBreak c then some rest
    else if c = '#' then some ((rest.dropWhile fun c => !isBreak c).drop 1)
    else none

/-- Whether a character can stand in the name of an anchor, a handle or a directive. -/
def isSafeChar (c : Char) : Bool :=
  isAsciiAlphanumeric c || c = '-' || c = '_'

/-- Whether a character may stand in a document: controls other than the tab and the ends of lines
may not. -/
def isAllowed (c : Char) : Bool :=
  let n := c.toNat
  n = 0x9 || n = 0xA || n = 0xD || (0x20 ≤ n && n ≤ 0x7E) || n = 0x85
    || (0xA0 ≤ n && n ≤ 0xFFFD) || 0x10000 ≤ n

/-- The text with a line feed for every carriage return, alone or before a line feed, and for every
next-line character. -/
def unifyBreaks : Text → Text
  | '\r' :: '\n' :: rest => '\n' :: unifyBreaks rest
  | '\r' :: rest => '\n' :: unifyBreaks rest
  | '\u0085' :: rest => '\n' :: unifyBreaks rest
  | c :: rest => c :: unifyBreaks rest
  | [] => []

/-- A place in a document. -/
structure Cursor where
  line : Nat := 0
  column : Nat := 0
  /-- Whether a key may begin here. -/
  fresh : Bool := true
  rest : Text
deriving DecidableEq, Repr

namespace Cursor

/-- The place behind so many characters of the same line, where no key may begin. -/
def skip (n : Nat) (c : Cursor) : Cursor :=
  { c with column := c.column + n, fresh := false, rest := c.rest.drop n }

/-- Whether a line begins here with three of `mark`, which begins or ends a document. -/
def hasMarker (mark : Char) (c : Cursor) : Bool :=
  c.column = 0 &&
    match Text.dropLead? [mark, mark, mark] c.rest with
    | some rest => endsWord rest
    | none => false

/-- Whether a document begins or ends here. -/
def atMarker (c : Cursor) : Bool :=
  c.hasMarker '-' || c.hasMarker '.'

/-- The place behind the spaces, ends of lines and comments that come next. A byte order mark may
begin a line, and takes up a column. -/
def skipGapFrom (flow comment : Bool) (line column : Nat) (fresh : Bool) : Text → Cursor
  | [] => ⟨line, column, fresh, []⟩
  | c :: rest =>
    if isBreak c then skipGapFrom flow false (line + 1) 0 (fresh || !flow) rest
    else if comment || c = '#' then skipGapFrom flow true line (column + 1) fresh rest
    else if c = ' ' || (c = '\t' && (flow || !fresh)) || (c = '\ufeff' && column = 0) then
      skipGapFrom flow false line (column + 1) fresh rest
    else ⟨line, column, fresh, c :: rest⟩

/-- The place behind the spaces, ends of lines and comments that come next, within braces or not. -/
def skipGap (flow : Bool) (c : Cursor) : Cursor :=
  skipGapFrom flow false c.line c.column c.fresh c.rest

end Cursor

end SnippetCost.Yaml
