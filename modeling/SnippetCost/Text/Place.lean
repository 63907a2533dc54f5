import SnippetCost.Text.Word
import SnippetCost.Text.Blank

/-!
# Places in a text

A search for a pattern asks at every place of a text what stands directly before the place and what
follows it. A word stands at a place as a whole word if no word character touches it on either side.
The places are `Text.places`, and a whole word is found by `Place.afterWord?`.
-/

namespace SnippetCost

/-- A place in a text: the character directly before it, if any, and the text behind it. -/
structure Place where
  before : Option Char
  after : Text

namespace Text

/-- The places of a text that follows the character `before`. -/
def placesFrom (before : Option Char) : Text → List Place
  | [] => [⟨before, []⟩]
  | c :: rest => ⟨before, c :: rest⟩ :: placesFrom (some c) rest

/-- The places of a text, its start first and its end last. -/
def places (t : Text) : List Place :=
  placesFrom none t

/-- Whether a text begins with a word character. -/
def beginsInWord (t : Text) : Bool :=
  t.head?.any isWordChar

/-- Whether a text ends with a word character. -/
def endsInWord (t : Text) : Bool :=
  t.getLast?.any isWordChar

end Text

namespace Place

/-- Whether a word character stands directly before the place. -/
def touchesWord (p : Place) : Bool :=
  p.before.any isWordChar

/-- What follows `word`, if it begins at the place and no word character stands before it. -/
def afterLead? (p : Place) (word : Text) : Option Text :=
  if p.touchesWord then none else Text.dropLead? word p.after

/-- What follows `word`, if it stands at the place as a whole word. -/
def afterWord? (p : Place) (word : Text) : Option Text :=
  (p.afterLead? word).filter fun rest => !Text.beginsInWord rest

/-- Whether `word` stands at the place as a whole word. -/
def hasWord (p : Place) (word : Text) : Bool :=
  (p.afterWord? word).isSome

end Place

/-- Whether one of the words stands somewhere in the text as a whole word. -/
def Text.mentions (words : List String) (t : Text) : Bool :=
  (places t).any fun p => words.any fun word => p.hasWord word.toList

end SnippetCost
