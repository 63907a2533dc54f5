import SnippetCost.Report.Field
import SnippetCost.Text.Number

/-!
# Lines that hold a field

A line holds a field if a label and a colon stand in it, whatever a writer of notes puts around the
label: number signs of a heading, the bullet or the number of a list, and marks of emphasis. Each
decoration is read once, in this order, and what does not belong to it is left to the next. The main
definition is `FieldLine.read?`, which goes from `FieldLine.skipDecoration` over
`FieldLine.cutAnyLabel?` to `FieldLine.value?`.
-/

namespace SnippetCost.FieldLine

/-- The labels in small letters, as lists of their words. -/
def labels : List (List Text) :=
  [["time", "complexity"], ["space", "complexity"], ["bottleneck"], ["optimization"],
    ["rating"]].map fun words => words.map String.toList

/-- Whether a character is a letter of a label in either case: ASCII case is ignored, the long `ſ`
stands for `s`, and the Kelvin sign for `k`. -/
def isLetterOf (letter c : Char) : Bool :=
  asciiLower c = letter || (letter = 's' && c = 'ſ') || (letter = 'k' && c = '\u212a')

/-- Cut a word of a label off a text, in any case: the word as it stands there, and the rest. -/
def cutWord? : Text → Text → Option (Text × Text)
  | [], t => some ([], t)
  | _ :: _, [] => none
  | letter :: word, c :: rest =>
    if isLetterOf letter c then
      (cutWord? word rest).map fun (seen, after) => (c :: seen, after)
    else none

/-- Cut the words of a label off a text, blanks between them: the label as it stands there, and the
rest. -/
def cutLabel? : List Text → Text → Option (Text × Text)
  | [], t => some ([], t)
  | [word], t => cutWord? word t
  | word :: words, t =>
    match cutWord? word t with
    | none => none
    | some (seen, rest) =>
      match rest.takeWhile isBlank with
      | [] => none
      | gap => (cutLabel? words (Text.trimStart rest)).map fun (more, after) =>
          (seen ++ gap ++ more, after)

/-- Cut one of the labels off a text. -/
def cutAnyLabel? (t : Text) : Option (Text × Text) :=
  labels.findSome? fun words => cutLabel? words t

/-- The text without the number signs at its start, at most as many as given. -/
def skipHeading : Nat → Text → Text
  | n + 1, '#' :: rest => skipHeading n rest
  | _, t => t

/-- The text behind a bullet at its start: a sign, or digits and a dot or parenthesis. -/
def afterBullet? (t : Text) : Option Text :=
  match t with
  | [] => none
  | c :: rest =>
    if c = '-' || c = '+' || c = '*' then some rest
    else if isDecimal c then
      match rest.dropWhile isDecimal with
      | '.' :: after => some after
      | ')' :: after => some after
      | _ => none
    else none

/-- The text without a bullet at its start and the blanks behind it; a bullet that no blank follows is
none. -/
def skipBullet (t : Text) : Text :=
  match afterBullet? t with
  | some (c :: rest) => if isBlank c then Text.trimStart rest else t
  | _ => t

/-- The text without a mark of emphasis at its start. -/
def skipEmphasis : Text → Text
  | '*' :: '*' :: rest => rest
  | '_' :: '_' :: rest => rest
  | t => t

/-- The text without all that can stand before a label. -/
def skipDecoration (t : Text) : Text :=
  Text.trimStart (skipEmphasis (skipBullet (Text.trimStart (skipHeading 6 (Text.trimStart t)))))

/-- The value behind a label: a colon, and before and behind it a mark of emphasis and blanks. -/
def value? (t : Text) : Option Text :=
  match Text.trimStart (skipEmphasis (Text.trimStart t)) with
  | ':' :: rest => some (skipEmphasis (Text.trimStart rest))
  | _ => none

/-- The label and the value that a line holds, both as they stand there. -/
def read? (line : Text) : Option (Text × Text) :=
  match cutAnyLabel? (skipDecoration line) with
  | none => none
  | some (label, rest) => (value? rest).map fun value => (label, value)

end SnippetCost.FieldLine
