import SnippetCost.Yaml.Cursor
import SnippetCost.Yaml.Token
import SnippetCost.Text.Number

/-!
# Tags, anchors and directives

A node can be marked by a tag, by an anchor that gives it a name, or by both, and an alias stands for
the node of that name. A tag is written in full between angle brackets, or behind a handle that a
directive explains. Its characters are octets, each written as it is or as a percent sign and two
hexadecimal digits, and a zero octet ends it. Directives stand on lines of their own before a document.
The readers are `readTag?`, `readName?` and `readDirective?`.
-/

namespace SnippetCost.Yaml

/-- The marks that can stand in a tag. -/
def tagMarks : List Char :=
  [';', '/', '?', ':', '@', '&', '=', '+', '$', '.', '%', '!', '~', '*', '\'', '(', ')']

/-- The marks that can stand in a tag besides if it is written in full. -/
def fullTagMarks : List Char :=
  [',', '[', ']']

/-- Whether a character can stand in a tag, written in full or not. -/
def isTagChar (full : Bool) (c : Char) : Bool :=
  isSafeChar c || tagMarks.contains c || (full && fullTagMarks.contains c)

/-- How many octets continue a character that begins with the octet `n`. -/
def continuing? (n : Nat) : Option Nat :=
  if n < 0x80 then some 0
  else if n < 0xC0 then none
  else if n < 0xE0 then some 1
  else if n < 0xF0 then some 2
  else if n < 0xF8 then some 3
  else none

/-- The octets that a text stands for, one character each; `left` of them are still to come before
the next character begins. -/
def octets? (left : Nat) : Text → Option Text
  | [] => if left = 0 then some [] else none
  | '%' :: a :: b :: rest => do
    let n := 16 * (← digitOf? 16 a) + (← digitOf? 16 b)
    let left ←
      match left with
      | 0 => continuing? n
      | left + 1 => if 0x80 ≤ n && n < 0xC0 then some left else none
    (octets? left rest).map (Char.ofNat n :: ·)
  | c :: rest => if left = 0 && c ≠ '%' then (octets? 0 rest).map (c :: ·) else none

/-- Read the characters of a tag, of which there may be none, up to a zero octet. -/
def readTagChars? (full : Bool) (c : Cursor) : Option (Text × Cursor) := do
  let raw := c.rest.takeWhile (isTagChar full)
  let octets ← octets? 0 raw
  return (octets.takeWhile (· ≠ '\x00'), c.skip raw.length)

/-- Read the characters of a tag, at least one. -/
def readTagWord? (full : Bool) (c : Cursor) : Option (Text × Cursor) :=
  if c.rest.head?.any (isTagChar full) then readTagChars? full c else none

/-- Read an exclamation mark and the word behind it, up to a second mark. -/
def readHandle? (c : Cursor) : Option (Text × Cursor) :=
  match c.rest with
  | '!' :: rest =>
    let word := rest.takeWhile isSafeChar
    let handle := '!' :: word ++ (rest.drop word.length).head?.toList.filter (· = '!')
    some (handle, c.skip handle.length)
  | _ => none

/-- Whether a second mark ends what `readHandle?` has read. -/
def isClosedHandle (handle : Text) : Bool :=
  handle ≠ ['!'] && handle.getLast? = some '!'

/-- Read a tag: its handle, which is empty if the rest is the whole tag, and the rest. A mark alone
is a tag as well. -/
def readTagParts? (c : Cursor) : Option (Token × Cursor) :=
  if ['!', '<'].isPrefixOf c.rest then do
    let (tag, after) ← readTagWord? true (c.skip 2)
    if after.rest.head? = some '>' then some (.tag [] tag, after.skip 1) else none
  else do
    let (handle, place) ← readHandle? c
    if isClosedHandle handle then
      let (tag, after) ← readTagWord? false place
      return (.tag handle tag, after)
    else
      let (tag, after) ← readTagChars? false place
      if handle = ['!'] && tag = [] then return (.tag [] ['!'], after)
      else return (.tag ['!'] (handle.drop 1 ++ tag), after)

/-- Read a tag. A word ends behind it, or a comma follows within braces. -/
def readTag? (flow : Bool) (c : Cursor) : Option (Token × Cursor) := do
  let (token, after) ← readTagParts? c
  if endsWord after.rest || (flow && after.rest.head? = some ',') then some (token, after) else none

/-- The marks that can follow the name of an anchor without a space. -/
def nameEnds : List Char :=
  ['?', ':', ',', ']', '\x7d', '%', '@', '\x60']

/-- Read the name behind an ampersand or an asterisk. -/
def readName? (c : Cursor) : Option (Text × Cursor) :=
  let place := c.skip 1
  let name := place.rest.takeWhile isSafeChar
  let after := place.skip name.length
  if name ≠ [] && (endsWord after.rest || after.rest.head?.any nameEnds.contains) then
    some (name, after)
  else none

/-- The place behind the spaces and tabs that come next. -/
def Cursor.skipSpaces (c : Cursor) : Cursor :=
  c.skip (c.rest.takeWhile isSpace).length

/-- Read a number of at most nine digits. -/
def readShortNumber? (c : Cursor) : Option (Nat × Cursor) :=
  let digits := c.rest.takeWhile isAsciiDigit
  if digits ≠ [] && digits.length ≤ 9 then some (numeralValue digits, c.skip digits.length)
  else none

/-- Read what stands behind the name of the directive on the version. -/
def readVersion? (c : Cursor) : Option (Token × Cursor) := do
  let (major, point) ← readShortNumber? c.skipSpaces
  if point.rest.head? = some '.' then
    let (minor, after) ← readShortNumber? (point.skip 1)
    return (.version major minor, after)
  else none

/-- Read what stands behind the name of the directive on a handle. -/
def readHandleMeaning? (c : Cursor) : Option (Token × Cursor) := do
  let (name, place) ← readHandle? c.skipSpaces
  if (name = ['!'] || isClosedHandle name) && place.rest.head?.any isSpace then
    let (lead, after) ← readTagWord? true place.skipSpaces
    if endsWord after.rest then return (.handle name lead, after) else none
  else none

/-- Read a directive and the end of its line. No key may begin behind it. -/
def readDirective? (c : Cursor) : Option (Token × Cursor) := do
  let place := c.skip 1
  let name := place.rest.takeWhile isSafeChar
  let place := place.skip name.length
  let (token, after) ←
    if !endsWord place.rest then none
    else if name = "YAML".toList then readVersion? place
    else if name = "TAG".toList then readHandleMeaning? place
    else none
  let rest ← afterComment? after.rest
  return (token, ⟨c.line + 1, 0, false, rest⟩)

end SnippetCost.Yaml
