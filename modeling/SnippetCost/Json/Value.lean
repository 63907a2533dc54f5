import SnippetCost.Text.Number

/-!
# Values of JSON documents

What a JSON document can hold. Of numbers only the naturals matter here; any other is kept as it is
written. A string can escape one half of a surrogate pair without the other: it is then no text, and an
object with such a key no record, which does no harm in a part of the document that nobody looks at.
-/

namespace SnippetCost.Json

/-- A value of a JSON document. -/
inductive Value where
  | null
  | bool (b : Bool)
  /-- A number without sign, fraction and exponent. -/
  | natural (n : Nat)
  /-- Any other number, as it is written. -/
  | number (lexeme : Text)
  | text (t : Text)
  /-- A string with an unpaired surrogate, or an object with such a key. -/
  | broken
  | array (items : List Value)
  | object (members : List (Text × Value))

namespace Value

/-- The text that a value is. -/
def text? : Value → Option Text
  | text t => some t
  | _ => none

/-- The number that a value is, up to `most`. -/
def natural? (most : Nat) : Value → Option Nat
  | natural n => if n ≤ most then some n else none
  | _ => none

/-- The number of eight bits that a value is. -/
def word8? (v : Value) : Option UInt8 :=
  (v.natural? (wordMax 8)).map UInt8.ofNat

/-- The number of 64 bits that a value is. -/
def word64? (v : Value) : Option UInt64 :=
  (v.natural? (wordMax 64)).map UInt64.ofNat

/-- The truth value that a value is. -/
def bool? : Value → Option Bool
  | bool b => some b
  | _ => none

/-- The items of an array. -/
def items? : Value → Option (List Value)
  | array items => some items
  | _ => none

/-- Whether a value is nothing. -/
def isNull : Value → Bool
  | null => true
  | _ => false

end Value

end SnippetCost.Json
