import SnippetCost.Text.Number
import SnippetCost.Text.Word
import SnippetCost.Text.Blank

/-!
# Ratings

The score out of ten that a text gives. A number that is said to be out of ten counts before any other;
failing that the first number in the text does. Numbers are read in double precision, so a fraction
within half a unit in the last place of the next whole number counts as that number. The main
definition is `Rating.read?`: the number is found by `Rating.numeral?` and rounded by `Rating.score`.
-/

namespace SnippetCost.Rating

/-- The best score. -/
def best : Nat := 10

/-- A number as it stands in a text: its whole digits, the digits behind its point, and what follows. -/
structure Numeral where
  whole : Text
  fraction : Text
  after : Text
deriving DecidableEq, Repr

/-- The number at the start of a text. A point belongs to it only if a digit follows. -/
def numeralAt? (t : Text) : Option Numeral :=
  match t.takeWhile isDecimal with
  | [] => none
  | whole =>
    let rest := t.dropWhile isDecimal
    match rest with
    | '.' :: behind =>
      match behind.takeWhile isDecimal with
      | [] => some ⟨whole, [], rest⟩
      | fraction => some ⟨whole, fraction, behind.dropWhile isDecimal⟩
    | _ => some ⟨whole, [], rest⟩

/-- Whether a text begins with a slash and the whole number ten, blanks around the slash. -/
def saysOutOfTen (t : Text) : Bool :=
  match Text.trimStart t with
  | '/' :: rest =>
    match Text.trimStart rest with
    | '1' :: '0' :: after => !after.head?.any isWordChar
    | _ => false
  | _ => false

/-- The number at the start of a text, if it is said to be out of ten. -/
def outOfTenAt? (t : Text) : Option Numeral :=
  (numeralAt? t).filter fun n => saysOutOfTen n.after

/-- The first answer of `f` at the places of a text. -/
def firstAt? (f : Text → Option Numeral) : Text → Option Numeral
  | [] => none
  | c :: rest =>
    match f (c :: rest) with
    | some n => some n
    | none => firstAt? f rest

/-- The number in a text that counts as its rating. -/
def numeral? (t : Text) : Option Numeral :=
  match firstAt? outOfTenAt? t with
  | some n => some n
  | none => firstAt? numeralAt? t

/-- The number of binary digits of a number. -/
def bitLength (n : Nat) : Nat :=
  if n = 0 then 0 else n.log2 + 1

/-- Whether `whole` and a fraction read as `whole + 1`. Below that number doubles are
`2 ^ (bitLength whole - 53)` apart, and of two doubles equally near the even one is read, which is
the whole number. -/
def roundsUp (whole : Nat) (fraction : Text) : Bool :=
  let unit := Nat.pow 10 fraction.length
  (unit - numeralValue fraction) * Nat.pow 2 (54 - bitLength whole) ≤ unit

/-- The score that a number in ASCII digits gives: its whole part, at most the best score. -/
def score (n : Numeral) : Nat :=
  let whole := numeralValue n.whole
  if best ≤ whole then best
  else if roundsUp whole n.fraction then whole + 1
  else whole

/-- The rating that a text gives. A number in digits of another script gives none. -/
def read? (t : Text) : Option UInt8 :=
  match numeral? t with
  | some n =>
    if (n.whole ++ n.fraction).all isAsciiDigit then some (UInt8.ofNat (score n)) else none
  | none => none

end SnippetCost.Rating
