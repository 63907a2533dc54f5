import SnippetCost.Report.Field
import SnippetCost.Text.Number

/-!
# The grammar of lines that hold a field

What a line that holds a field is made of, from left to right: what stands before the label, the label
up to case, what stands between it and the colon, and what stands behind the colon. Every decoration
can be missing. The main definition is `LabelledLine`, with `LabelledLine.text` for the line itself.
-/

namespace SnippetCost

/-- A text of blanks, which can be empty. -/
abbrev Blanks :=
  { t : Text // ∀ c ∈ t, isBlank c }

/-- The small letter that a character folds to where case is ignored, if that is an ASCII letter: the
long `ſ` folds to `s` and the Kelvin sign to `k`. Every other character is left alone. -/
def foldCase (c : Char) : Char :=
  if c = 'ſ' then 's' else if c = '\u212a' then 'k' else asciiLower c

/-- Whether a text spells some words up to case, with blanks between them. -/
inductive SpellsWords : List Text → Text → Prop where
  | last {word seen} :
    seen.map foldCase = word →
    SpellsWords [word] seen
  | cons {word next words seen gap more} :
    seen.map foldCase = word →
    gap ≠ [] →
    (∀ c ∈ gap, isBlank c) →
    SpellsWords (next :: words) more →
    SpellsWords (word :: next :: words) (seen ++ (gap ++ more))

/-- The words of the label of a field, in small letters. -/
def Field.words (f : Field) : List Text :=
  (Text.cutAt isBlank f.label.toList).map fun word => word.map asciiLower

/-- A mark of emphasis. -/
inductive Emphasis where
  | stars
  | underscores
deriving DecidableEq, Repr

/-- How a mark of emphasis stands in a text. -/
def Emphasis.text : Emphasis → Text
  | stars => ['*', '*']
  | underscores => ['_', '_']

/-- A mark of emphasis, or nothing. -/
def Emphasis.optional (e : Option Emphasis) : Text :=
  e.elim [] text

/-- What makes a line a heading: up to six number signs, and blanks or none. -/
structure Heading where
  signs : Nat
  gap : Blanks
  pos : 0 < signs
  le_six : signs ≤ 6

/-- How the signs of a heading stand in a text. -/
def Heading.text (h : Heading) : Text :=
  List.replicate h.signs '#' ++ h.gap.1

/-- What begins an item of a list: a sign, or the number of the item. -/
inductive Bullet where
  | sign (c : Char) (isSign : c = '-' ∨ c = '+' ∨ c = '*')
  | number (digits : Text) (stop : Char) (ne_nil : digits ≠ [])
    (isDecimal_digits : ∀ c ∈ digits, isDecimal c) (isStop : stop = '.' ∨ stop = ')')

/-- How a bullet stands in a text. -/
def Bullet.text : Bullet → Text
  | sign c _ => [c]
  | number digits stop _ _ _ => digits ++ [stop]

/-- What makes a line an item of a list: a bullet, and at least one blank. -/
structure Item where
  bullet : Bullet
  gap : Blanks
  gap_ne_nil : gap.1 ≠ []

/-- How the beginning of an item stands in a text. -/
def Item.text (i : Item) : Text :=
  i.bullet.text ++ i.gap.1

/-- What stands before a label. -/
structure LabelLead where
  indent : Blanks
  heading : Option Heading
  item : Option Item
  emphasis : Option Emphasis
  gap : Blanks

/-- How it stands there. -/
def LabelLead.text (l : LabelLead) : Text :=
  l.indent.1 ++ (l.heading.elim [] Heading.text ++ (l.item.elim [] Item.text ++
    (Emphasis.optional l.emphasis ++ l.gap.1)))

/-- What stands between a label and its colon. -/
structure LabelTail where
  gap : Blanks
  emphasis : Option Emphasis
  colonGap : Blanks

/-- How it stands there. -/
def LabelTail.text (l : LabelTail) : Text :=
  l.gap.1 ++ (Emphasis.optional l.emphasis ++ l.colonGap.1)

/-- What stands behind the colon of a label. All blanks there come before the value, and a mark of
emphasis behind them does not belong to it. -/
structure LabelValue where
  gap : Blanks
  emphasis : Option Emphasis
  value : Text
  longest : ∀ c ∈ (Emphasis.optional emphasis ++ value).head?, isBlank c = false
  noMark : emphasis = none → ∀ e : Emphasis, ¬ e.text <+: value

/-- How it stands there. -/
def LabelValue.text (v : LabelValue) : Text :=
  v.gap.1 ++ (Emphasis.optional v.emphasis ++ v.value)

/-- A line that holds a field. -/
structure LabelledLine where
  lead : LabelLead
  field : Field
  label : Text
  spells : SpellsWords field.words label
  tail : LabelTail
  behind : LabelValue

/-- How the line stands in a text. -/
def LabelledLine.text (l : LabelledLine) : Text :=
  l.lead.text ++ (l.label ++ (l.tail.text ++ ':' :: l.behind.text))

end SnippetCost
