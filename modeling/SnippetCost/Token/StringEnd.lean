import SnippetCost.Token.Cutting
import SnippetCost.Token.Grammar

/-!
# Where a string ends

Places in a text, told by the number of bytes in front of them when the text is written in UTF-8. A
string begins at a place with a quote, and ends behind the quote that closes it or at the end of the
text. The place where cutting ends is `Token.stringEnd`, and the places that close a string are
`Token.ClosesAt`.
-/

namespace SnippetCost

namespace Text

/-- What stands behind the first `n` bytes of a text. -/
def behindBytes : Nat → Text → Text
  | 0, t => t
  | _ + 1, [] => []
  | n + 1, c :: rest => behindBytes (n + 1 - c.utf8Size) rest

/-- Whether `n` bytes of a text are some of its characters and no part of another. -/
def IsBoundary (t : Text) (n : Nat) : Prop :=
  String.Pos.Raw.IsValid (String.ofList t) ⟨n⟩

end Text

namespace Token

/-- The place where the string ends that the quote behind the first `start` bytes begins. -/
def stringEnd (t : Text) (start : Nat) (quote : Char) : Nat :=
  let body := start + quote.utf8Size
  body + Text.byteSize (cutString quote (t.behindBytes body)).1

/-- Whether the string that the quote behind the first `start` bytes begins could end at the place
`n`: behind another such quote with an even number of backslashes directly in front of it, those in
front of the string left aside. -/
def ClosesAt (t : Text) (start : Nat) (quote : Char) (n : Nat) : Prop :=
  ∃ front inner rest : Text, t = front ++ quote :: (inner ++ quote :: rest) ∧
    Text.byteSize front = start ∧ ¬ EscapesNext inner ∧
    Text.byteSize (front ++ quote :: (inner ++ [quote])) = n

end Token

end SnippetCost
