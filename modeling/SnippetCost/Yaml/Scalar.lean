import SnippetCost.Yaml.Node
import SnippetCost.Text.Word

/-!
# What scalars stand for

A plain scalar can stand for nothing, a truth value or a number. A text that would be read as one of
these if it were plain is written in quotes. The readers are `Node.isBlank?`, `Node.truth?` and
`Node.number?`, and what has to be quoted is `needsQuotes`.
-/

namespace SnippetCost.Yaml

/-- The words for nothing. -/
def blankWords : List Text :=
  ["~", "null", "Null", "NULL"].map String.toList

/-- The ways to write a truth value. -/
def truthWords : List (Text × Bool) :=
  [("true", true), ("True", true), ("TRUE", true), ("false", false), ("False", false),
    ("FALSE", false)].map fun (word, value) => (word.toList, value)

/-- The base that a text begins with, and its digits. -/
def cutBase? : Text → Option (Nat × Text)
  | '0' :: 'x' :: rest => some (16, rest)
  | '0' :: 'o' :: rest => some (8, rest)
  | '0' :: 'b' :: rest => some (2, rest)
  | _ => none

/-- Whether digits begin with a zero that says nothing. -/
def hasIdleZero : Text → Bool
  | '0' :: c :: rest => (c :: rest).all isAsciiDigit
  | _ => false

/-- The number that a text stands for, up to `most`: decimal, or in the base that it begins with. -/
def unsigned? (most : Nat) (t : Text) : Option Nat :=
  let t := (Text.dropLead? ['+'] t).getD t
  let value := match cutBase? t with
    | some (base, digits) => digits? base digits
    | none => if hasIdleZero t then none else digits? 10 t
  value.filter (· ≤ most)

/-- The tag of nothing. -/
def blankTag : Text := "tag:yaml.org,2002:null".toList

/-- The tag of a truth value. -/
def truthTag : Text := "tag:yaml.org,2002:bool".toList

/-- The tag of a whole number. -/
def numberTag : Text := "tag:yaml.org,2002:int".toList

namespace Scalar

/-- Whether a scalar stands for nothing. One whose tag says so must be a word for nothing, and with
any other tag it stands for something. -/
def isBlank? (s : Scalar) : Option Bool :=
  if s.style ≠ .plain then some false
  else
    match s.tag with
    | none => some (s.text = [] || blankWords.contains s.text)
    | some tag =>
      if tag ≠ blankTag then some false
      else if blankWords.contains s.text then some true
      else none

/-- The text of a scalar that can stand for something else than a text: it is plain, or a literal
block with the tag `tag`. -/
def word? (tag : Text) (s : Scalar) : Option Text :=
  if s.style = .plain || (s.style = .literal && s.tag = some tag) then some s.text else none

/-- The truth value that a scalar stands for. -/
def truth? (s : Scalar) : Option Bool :=
  (s.word? truthTag).bind fun t => truthWords.lookup t

/-- The number that a scalar stands for, up to `most`. -/
def number? (most : Nat) (s : Scalar) : Option Nat :=
  (s.word? numberTag).bind (unsigned? most)

end Scalar

namespace Node

/-- Whether a node stands for nothing. -/
def isBlank? (known : Anchors) (n : Node) : Option Bool :=
  match n.scalar? known with
  | some s => s.isBlank?
  | none => some false

/-- The truth value that a node stands for. -/
def truth? (known : Anchors) (n : Node) : Option Bool :=
  (n.scalar? known).bind Scalar.truth?

/-- The number that a node stands for, up to `most`. -/
def number? (known : Anchors) (most : Nat) (n : Node) : Option Nat :=
  (n.scalar? known).bind (Scalar.number? most)

/-- The number of 64 bits that a node stands for. -/
def word64? (known : Anchors) (n : Node) : Option UInt64 :=
  (n.number? known (wordMax 64)).map UInt64.ofNat

end Node

/-- A text without the minus sign that it may begin with. -/
def dropMinus (t : Text) : Text :=
  (Text.dropLead? ['-'] t).getD t

/-- Whether a text reads as a number in a base that it names, which fits 128 bits with its sign. -/
def readsAsBased (t : Text) : Bool :=
  let most := if t.head? = some '-' then Nat.pow 2 127 else Nat.pow 2 128 - 1
  match cutBase? (dropMinus t) with
  | some (base, digits) => (digits? base digits).any (· ≤ most)
  | none => false

/-- The least number that is too large for double precision: halfway between the largest double and
the power of two above it. -/
def doubleBound : Nat :=
  Nat.pow 2 1024 - Nat.pow 2 970

/-- Whether a number shifted left by `places` decimal places stays below the bound of double
precision. No number but zero does that is shifted by a thousand places. -/
def fitsDoubleUp (value places : Nat) : Bool :=
  value = 0 || (places < 1000 && value * Nat.pow 10 places < doubleBound)

/-- Whether a number of so many digits, shifted right by `places` decimal places, stays below the
bound of double precision. Every number does that is shifted by all its digits. -/
def fitsDoubleDown (count value places : Nat) : Bool :=
  count ≤ places || value < doubleBound * Nat.pow 10 places

/-- Whether a text reads as a decimal number in double precision: digits, and an exponent behind
`e`, each with a minus sign before it or without. -/
def readsAsDecimal (t : Text) : Bool :=
  let t := dropMinus t
  let whole := t.takeWhile isAsciiDigit
  let value := numeralValue whole
  match whole, t.dropWhile isAsciiDigit with
  | [], _ => false
  | _, [] => fitsDoubleUp value 0
  | _, c :: exponent =>
    if c = 'e' || c = 'E' then
      let digits := dropMinus exponent
      if digits = [] || !digits.all isAsciiDigit then false
      else if exponent.head? = some '-' then
        fitsDoubleDown whole.length value (numeralValue digits)
      else fitsDoubleUp value (numeralValue digits)
    else false

/-- Whether a text would be read as something else than a text, or not at all, if it were written
plainly. -/
def needsQuotes (t : Text) : Bool :=
  t = [] || blankWords.contains t || (truthWords.lookup t).isSome
    || readsAsBased t || readsAsDecimal t || hasIdleZero (dropMinus t)
    || t = ['-'] || ['-', '-', '-'].isPrefixOf t

end SnippetCost.Yaml
