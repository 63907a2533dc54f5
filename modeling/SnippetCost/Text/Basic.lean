/-!
# Texts

A text is the list of its characters; every reader and writer of the library works on such lists. This
module has the few operations on texts that look at no character class. The main operations are
`Text.includes` and `Text.dropLead?`.
-/

namespace SnippetCost

/-- A text is the list of its characters. -/
abbrev Text := List Char

namespace Text

/-- The number of bytes of a text in UTF-8. -/
def byteSize (t : Text) : Nat :=
  (String.ofList t).utf8ByteSize

/-- Whether `needle` stands somewhere in the text. -/
def includes (needle : Text) : Text → Bool
  | [] => needle.isEmpty
  | c :: rest => needle.isPrefixOf (c :: rest) || includes needle rest

/-- What follows `lead` in a text that begins with it. -/
def dropLead? : Text → Text → Option Text
  | [], t => some t
  | _ :: _, [] => none
  | l :: lead, c :: rest => if l = c then dropLead? lead rest else none

/-- What follows the first `needle` in a text. -/
def behindFirst? (needle : Text) : Text → Option Text
  | [] => if needle = [] then some [] else none
  | c :: rest =>
    match dropLead? needle (c :: rest) with
    | some behind => some behind
    | none => behindFirst? needle rest

/-- The text without the characters of `p` at its end. -/
def dropEndWhile (p : Char → Bool) (t : Text) : Text :=
  (t.reverse.dropWhile p).reverse

/-- The text without the characters of `p` at either end. -/
def strip (p : Char → Bool) (t : Text) : Text :=
  dropEndWhile p (t.dropWhile p)

/-- The decimal digits of a number. -/
def ofNat (n : Nat) : Text :=
  Nat.toDigits 10 n

end Text

end SnippetCost
