import SnippetCost.Json.Quoted
import SnippetCost.Text.Number

/-!
# Reading a JSON document

A document holds exactly one value. Reading a value takes at least one character, so the length of the
document bounds the number of steps. The main definition is `Value.read?`.
-/

namespace SnippetCost.Json

/-- Whether a character may stand between the parts of a document. -/
def isGapChar (c : Char) : Bool :=
  c = ' ' || c = '\t' || c = '\n' || c = '\r'

/-- The text behind the gap at its start. -/
def skipGap (t : Text) : Text :=
  t.dropWhile isGapChar

/-- Cut one or more digits off a text. -/
def cutDigits? (t : Text) : Option (Text × Text) :=
  match t.takeWhile isAsciiDigit with
  | [] => none
  | digits => some (digits, t.dropWhile isAsciiDigit)

/-- Cut the minus sign off a text, if it begins with one. -/
def cutMinus : Text → Text × Text
  | '-' :: rest => (['-'], rest)
  | t => ([], t)

/-- Cut the whole part of a number off a text: a zero, or digits that do not begin with one. -/
def cutWhole? : Text → Option (Text × Text)
  | '0' :: rest => some (['0'], rest)
  | t => cutDigits? t

/-- Cut the fraction of a number off a text, if it begins with a point. -/
def cutFraction? : Text → Option (Text × Text)
  | '.' :: rest => (cutDigits? rest).map fun (digits, after) => ('.' :: digits, after)
  | t => some ([], t)

/-- Cut the sign of an exponent off a text, if it begins with one. -/
def cutSign : Text → Text × Text
  | '+' :: rest => (['+'], rest)
  | '-' :: rest => (['-'], rest)
  | t => ([], t)

/-- Cut the exponent of a number off a text, if it begins with the letter of one. -/
def cutExponent? : Text → Option (Text × Text)
  | [] => some ([], [])
  | c :: rest =>
    if c = 'e' || c = 'E' then
      let (sign, rest) := cutSign rest
      (cutDigits? rest).map fun (digits, after) => (c :: sign ++ digits, after)
    else some ([], c :: rest)

/-- Read a number. Only digits alone are a natural: a sign makes even zero another number. -/
def readNumber? (t : Text) : Option (Value × Text) := do
  let (sign, rest) := cutMinus t
  let (whole, rest) ← cutWhole? rest
  let (fraction, rest) ← cutFraction? rest
  let (exponent, rest) ← cutExponent? rest
  if sign ++ fraction ++ exponent = [] then return (.natural (numeralValue whole), rest)
  else return (.number (sign ++ whole ++ fraction ++ exponent), rest)

/-- Read a string behind its opening quote. -/
def readString? (t : Text) : Option (Value × Text) :=
  (readPieces? .off t).map fun (pieces, rest) =>
    (match assemble? pieces with
      | some t => .text t
      | none => .broken, rest)

/-- Read a key and the colon behind it. The key is missing if it has an unpaired surrogate. -/
def readKey? (t : Text) : Option (Option Text × Text) :=
  match t with
  | '"' :: rest => do
    let (pieces, rest) ← readPieces? .off rest
    match skipGap rest with
    | ':' :: rest => some (assemble? pieces, rest)
    | _ => none
  | _ => none

/-- The members of an object, if none of its keys is missing. -/
abbrev Members := Option (List (Text × Value))

/-- Members with one more before them. -/
def Members.cons (key : Option Text) (value : Value) (members : Members) : Members :=
  match key, members with
  | some key, some members => some ((key, value) :: members)
  | _, _ => none

/-- The object that has the members. -/
def Members.toValue : Members → Value
  | some members => .object members
  | none => .broken

/-- Read a value that is one of the three words. -/
def readWord? (t : Text) : Option (Value × Text) :=
  match Text.dropLead? "null".toList t with
  | some rest => some (.null, rest)
  | none =>
    match Text.dropLead? "true".toList t with
    | some rest => some (.bool true, rest)
    | none => (Text.dropLead? "false".toList t).map fun rest => (.bool false, rest)

mutual

/-- Read a value behind the gap before it. -/
def readValue : Nat → Text → Option (Value × Text)
  | 0, _ => none
  | fuel + 1, t =>
    match skipGap t with
    | [] => none
    | c :: rest =>
      if c = '"' then readString? rest
      else if c = '[' then
        match skipGap rest with
        | ']' :: rest => some (.array [], rest)
        | rest => (readItems fuel rest).map fun (items, rest) => (.array items, rest)
      else if c = '\x7b' then
        match skipGap rest with
        | '\x7d' :: rest => some (.object [], rest)
        | rest => (readMembers fuel rest).map fun (members, rest) => (Members.toValue members, rest)
      else if c = '-' || isAsciiDigit c then readNumber? (c :: rest)
      else readWord? (c :: rest)

/-- Read one or more items of an array and its closing bracket. -/
def readItems : Nat → Text → Option (List Value × Text)
  | 0, _ => none
  | fuel + 1, t => do
    let (item, rest) ← readValue fuel t
    match skipGap rest with
    | ',' :: rest => (readItems fuel rest).map fun (items, rest) => (item :: items, rest)
    | ']' :: rest => some ([item], rest)
    | _ => none

/-- Read one or more members of an object and its closing brace. -/
def readMembers : Nat → Text → Option (Members × Text)
  | 0, _ => none
  | fuel + 1, t => do
    let (key, rest) ← readKey? (skipGap t)
    let (value, rest) ← readValue fuel rest
    match skipGap rest with
    | ',' :: rest =>
      (readMembers fuel rest).map fun (members, rest) => (Members.cons key value members, rest)
    | '\x7d' :: rest => some (Members.cons key value (some []), rest)
    | _ => none

end

/-- Read a text that holds exactly one value. -/
def Value.read? (t : Text) : Option Value :=
  match readValue (2 * t.length + 2) t with
  | some (value, rest) => if skipGap rest = [] then some value else none
  | none => none

end SnippetCost.Json
