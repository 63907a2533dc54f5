import SnippetCost.Snippet.Pattern

/-!
# Definitions of functions

A definition begins with its head: the word `def`, blanks, the name of the function, blanks or none,
and an opening parenthesis. The first head of a text names the function whose calls are counted. The
head is `DefinitionHead`, where it stands is `Definition`, and the calls elsewhere are
`Definition.callsOutside`.
-/

namespace SnippetCost

/-- Whether a text can be the name of a function. -/
def isFunctionName : Text → Bool
  | [] => false
  | c :: rest => Pattern.isFunctionStart c && rest.all isWordChar

/-- The head of a definition. -/
structure DefinitionHead where
  /-- The blanks between `def` and the name. -/
  gap : Text
  name : Text
  /-- The blanks between the name and the parenthesis. -/
  space : Text
  gap_ne_nil : gap ≠ []
  isBlank_gap : ∀ c ∈ gap, isBlank c
  isFunctionName_name : isFunctionName name
  isBlank_space : ∀ c ∈ space, isBlank c

/-- The head of a definition as it stands in a text. -/
def DefinitionHead.text (h : DefinitionHead) : Text :=
  "def".toList ++ (h.gap ++ (h.name ++ (h.space ++ ['('])))

/-- A definition in a text: its head, and what stands in front of it and behind it. The head begins a
word. -/
structure Definition (t : Text) where
  front : Text
  head : DefinitionHead
  back : Text
  text_eq : t = front ++ (head.text ++ back)
  begins_word : Text.endsInWord front = false

namespace Definition

variable {t : Text}

/-- Whether no definition of the text stands further to the left. -/
def IsFirst (d : Definition t) : Prop :=
  ∀ e : Definition t, d.front.length ≤ e.front.length

/-- The places of the text that are not in the head: those before it, and those from its end on. -/
def placesOutside (d : Definition t) : List Place :=
  (Text.places t).take d.front.length ++
    (Text.places t).drop (d.front.length + d.head.text.length)

/-- How often the name of the function stands before an opening parenthesis outside the head. -/
def callsOutside (d : Definition t) : Nat :=
  d.placesOutside.countP (Pattern.isCallOf d.head.name)

end Definition

end SnippetCost
