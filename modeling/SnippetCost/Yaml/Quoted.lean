import SnippetCost.Yaml.Folding
import SnippetCost.Text.Escape

/-!
# Quoted scalars

Between single quotes a doubled quote stands for one. Between double quotes a backslash escapes: it
stands for a control character, for a character by its code point, or takes the end of a line away.
-/

namespace SnippetCost.Yaml

/-- Read the rest of a scalar in single quotes behind `gap`. -/
def readSingleFrom (gap : Gap) (line column : Nat) : Text → Option (Text × Cursor)
  | [] => none
  | '\'' :: '\'' :: rest =>
    (readSingleFrom .none line (column + 2) rest).map fun (t, after) =>
      (gap.folded ++ '\'' :: t, after)
  | c :: rest =>
    if isSpace c then readSingleFrom (gap.addSpace c) line (column + 1) rest
    else if isBreak c then readSingleFrom (gap.addBreak c) (line + 1) 0 rest
    else if Cursor.atMarker ⟨line, column, false, c :: rest⟩ then none
    else if c = '\'' then some (gap.folded, ⟨line, column + 1, false, rest⟩)
    else
      (readSingleFrom .none line (column + 1) rest).map fun (t, after) =>
        (gap.folded ++ c :: t, after)

/-- The character that a backslash and one character stand for. -/
def escapeValue? : Char → Option Char
  | '0' => some '\x00'
  | 'a' => some '\x07'
  | 'b' => some '\x08'
  | 't' => some '\t'
  | '\t' => some '\t'
  | 'n' => some '\n'
  | 'v' => some '\x0b'
  | 'f' => some '\x0c'
  | 'r' => some '\r'
  | 'e' => some '\x1b'
  | ' ' => some ' '
  | '"' => some '"'
  | '/' => some '/'
  | '\\' => some '\\'
  | 'N' => some '\u0085'
  | '_' => some '\u00a0'
  | 'L' => some '\u2028'
  | 'P' => some '\u2029'
  | _ => none

/-- How many hexadecimal digits follow a backslash and the character. -/
def escapeDigits? : Char → Option Nat
  | 'x' => some 2
  | 'u' => some 4
  | 'U' => some 8
  | _ => none

/-- The character of a code point. -/
def charOf? (n : Nat) : Option Char :=
  if n.isValidChar then some (Char.ofNat n) else none

/-- Read the rest of a scalar in double quotes behind `gap` and a part of an escape. -/
def readDoubleFrom (gap : Gap) (escape : Escape) (line column : Nat) :
    Text → Option (Text × Cursor)
  | [] => none
  | c :: rest =>
    match escape with
    | .off =>
      if isSpace c then readDoubleFrom (gap.addSpace c) .off line (column + 1) rest
      else if isBreak c then readDoubleFrom (gap.addBreak c) .off (line + 1) 0 rest
      else if Cursor.atMarker ⟨line, column, false, c :: rest⟩ then none
      else if c = '"' then some (gap.folded, ⟨line, column + 1, false, rest⟩)
      else if c = '\\' then readDoubleFrom gap .begun line (column + 1) rest
      else
        (readDoubleFrom .none .off line (column + 1) rest).map fun (t, after) =>
          (gap.folded ++ c :: t, after)
    | .begun =>
      if isBreak c then
        (readDoubleFrom (.escaped []) .off (line + 1) 0 rest).map fun (t, after) =>
          (gap.folded ++ t, after)
      else
        match escapeValue? c, escapeDigits? c with
        | some d, _ =>
          (readDoubleFrom .none .off line (column + 1) rest).map fun (t, after) =>
            (gap.folded ++ d :: t, after)
        | none, some n => readDoubleFrom gap (.digits n 0) line (column + 1) rest
        | none, none => none
    | .digits left value =>
      match digitOf? 16 c with
      | none => none
      | some d =>
        let value := 16 * value + d
        if 1 < left then readDoubleFrom gap (.digits (left - 1) value) line (column + 1) rest
        else
          match charOf? value with
          | none => none
          | some d =>
            (readDoubleFrom .none .off line (column + 1) rest).map fun (t, after) =>
              (gap.folded ++ d :: t, after)

/-- Read a scalar in quotes. -/
def readQuoted? (c : Cursor) : Option (Text × Cursor) :=
  match c.rest with
  | '\'' :: rest => readSingleFrom .none c.line (c.column + 1) rest
  | '"' :: rest => readDoubleFrom .none .off c.line (c.column + 1) rest
  | _ => none

end SnippetCost.Yaml
