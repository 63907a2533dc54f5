import SnippetCost.Json.Value
import SnippetCost.Text.Escape

/-!
# Quoted strings

A string stands between double quotes. Control characters, the quote and the backslash are written
behind a backslash; reading also understands every other escape. The writer is `quote`, the reader
`readPieces?` with `assemble?`.
-/

namespace SnippetCost.Json

/-- A hexadecimal digit as it is written. -/
def hexDigit (n : Nat) : Char :=
  if n < 10 then Char.ofNat ('0'.toNat + n) else Char.ofNat ('a'.toNat + (n - 10))

/-- The letter of a character that has an escape of its own. -/
def escapeLetter? : Char → Option Char
  | '"' => some '"'
  | '\\' => some '\\'
  | '\x08' => some 'b'
  | '\x0c' => some 'f'
  | '\n' => some 'n'
  | '\r' => some 'r'
  | '\t' => some 't'
  | _ => none

/-- A character as it is written in a string. -/
def quoteChar (c : Char) : Text :=
  match escapeLetter? c with
  | some letter => ['\\', letter]
  | none =>
    if c.toNat < 0x20 then
      ['\\', 'u', '0', '0', hexDigit (c.toNat / 16), hexDigit (c.toNat % 16)]
    else [c]

/-- A text as it is written. -/
def quote (t : Text) : Text :=
  '"' :: t.flatMap quoteChar ++ ['"']

/-- A piece of a string: a character, or one half of a surrogate pair. -/
inductive Piece where
  | char (c : Char)
  | half (n : Nat)
deriving DecidableEq, Repr

/-- The piece that a code point of four hexadecimal digits is. -/
def Piece.ofCode (n : Nat) : Piece :=
  if 0xD800 ≤ n && n ≤ 0xDFFF then half n else char (Char.ofNat n)

/-- The character that the two halves of a surrogate pair stand for. -/
def pairedChar? (high low : Nat) : Option Char :=
  if high < 0xDC00 && 0xDC00 ≤ low then
    some (Char.ofNat (0x10000 + (high - 0xD800) * 0x400 + (low - 0xDC00)))
  else none

/-- The text that pieces make up, if every half of a pair has its other half. -/
def assemble? : List Piece → Option Text
  | [] => some []
  | .char c :: ps => (assemble? ps).map (c :: ·)
  | .half high :: .half low :: ps =>
    match pairedChar? high low with
    | some c => (assemble? ps).map (c :: ·)
    | none => none
  | .half _ :: _ => none

/-- The character that a backslash and one letter stand for. -/
def escapeValue? : Char → Option Char
  | '"' => some '"'
  | '\\' => some '\\'
  | '/' => some '/'
  | 'b' => some '\x08'
  | 'f' => some '\x0c'
  | 'n' => some '\n'
  | 'r' => some '\r'
  | 't' => some '\t'
  | _ => none

/-- Read the rest of a string behind a part of an escape: its pieces, and what follows the string. -/
def readPieces? (escape : Escape) : Text → Option (List Piece × Text)
  | [] => none
  | c :: rest =>
    match escape with
    | .off =>
      if c = '"' then some ([], rest)
      else if c = '\\' then readPieces? .begun rest
      else if c.toNat < 0x20 then none
      else (readPieces? .off rest).map fun (ps, after) => (.char c :: ps, after)
    | .begun =>
      match escapeValue? c with
      | some d => (readPieces? .off rest).map fun (ps, after) => (.char d :: ps, after)
      | none => if c = 'u' then readPieces? (.digits 4 0) rest else none
    | .digits left value =>
      match digitOf? 16 c with
      | none => none
      | some d =>
        let value := 16 * value + d
        if 1 < left then readPieces? (.digits (left - 1) value) rest
        else (readPieces? .off rest).map fun (ps, after) => (.ofCode value :: ps, after)

end SnippetCost.Json
