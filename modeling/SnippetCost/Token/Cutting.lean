import SnippetCost.Token.Vocabulary
import SnippetCost.Text.Blank
import SnippetCost.Text.Word
import SnippetCost.Text.Lines

/-!
# Cutting text into tokens

A snippet is cut line by line, so that nothing on one line changes the tokens of another. A line is
first cut at its first number sign, even one within quotes: what follows is a comment. What stands
before it is cut from left to right into the longest tokens, each chosen by its first character. The
functions are `ofCode`, `ofLine` and `ofText`; the first of them is a recursion on what `first` leaves,
which is shorter by `first_length`.
-/

namespace SnippetCost.Token

/-- Cut a text behind the quote that closes a string, or at its end if no quote does. A backslash
takes the character behind it into the string. -/
def cutString (quote : Char) : Text → Text × Text
  | [] => ([], [])
  | '\\' :: c :: rest =>
    let (body, after) := cutString quote rest
    ('\\' :: c :: body, after)
  | c :: rest =>
    if c = quote then ([c], rest)
    else
      let (body, after) := cutString quote rest
      (c :: body, after)

/-- Whether a character can stand within a number. -/
def isNumberChar (c : Char) : Bool :=
  isAsciiDigit c || c = '.'

/-- The longest run of characters of `p`, and what follows it. -/
def cutRun (p : Char → Bool) (t : Text) : Text × Text :=
  (t.takeWhile p, t.dropWhile p)

/-- The first token of the text `c :: rest`, and what follows it. -/
def first (c : Char) (rest : Text) : Token × Text :=
  if isBlank c then
    let (run, after) := cutRun isBlank rest
    (⟨.plain, c :: run⟩, after)
  else if c = '\'' || c = '"' then
    let (body, after) := cutString c rest
    (⟨.string, c :: body⟩, after)
  else if isAsciiDigit c then
    let (run, after) := cutRun isNumberChar rest
    (⟨.number, c :: run⟩, after)
  else if isNameStart c then
    let (run, after) := cutRun isNameChar rest
    (⟨Vocabulary.kindOf (c :: run), c :: run⟩, after)
  else (⟨.plain, [c]⟩, rest)

/-! ### Lengths the recursion rests on -/

/-- What follows a string is no longer than the text. -/
theorem cutString_length (quote : Char) (t : Text) : (cutString quote t).2.length ≤ t.length := by
  fun_induction cutString quote t with
  | case1 => exact Nat.le_refl 0
  | case2 c rest body after h ih =>
    have shorter : after.length ≤ rest.length := by rwa [h] at ih
    simp only [List.length_cons]
    omega
  | case3 rest => simp
  | case4 c rest _ hq body after h ih =>
    have shorter : after.length ≤ rest.length := by rwa [h] at ih
    simp only [List.length_cons]
    omega

/-- What follows the first token is shorter than the text. -/
theorem first_length (c : Char) (rest : Text) :
    (first c rest).2.length < (c :: rest).length := by
  have run (p : Char → Bool) : (cutRun p rest).2.length < (c :: rest).length :=
    Nat.lt_succ_of_le (List.dropWhile_sublist p).length_le
  unfold first
  split
  · exact run isBlank
  · split
    · exact Nat.lt_succ_of_le (cutString_length c rest)
    · split
      · exact run isNumberChar
      · split
        · exact run isNameChar
        · exact Nat.lt_succ_self rest.length

/-- The tokens of text without comments. -/
def ofCode : Text → List Token
  | [] => []
  | c :: rest => (first c rest).1 :: ofCode (first c rest).2
termination_by t => t.length
decreasing_by exact first_length c rest

/-- The comment that a text is, unless it is empty. -/
def comment? : Text → List Token
  | [] => []
  | t => [⟨.comment, t⟩]

/-- The tokens of one line. -/
def ofLine (line : Text) : List Token :=
  if line = [] then []
  else
    match Text.trimStart line with
    | [] => [⟨.plain, line⟩]
    | '#' :: _ => [⟨.comment, line⟩]
    | _ => ofCode (line.takeWhile (· ≠ '#')) ++ comment? (line.dropWhile (· ≠ '#'))

/-- The line feed between two lines. -/
def lineFeed : Token :=
  ⟨.plain, ['\n']⟩

/-- The tokens of lines that line feeds stand between. -/
def ofLines : List Text → List Token
  | [] => []
  | [line] => ofLine line
  | line :: lines => ofLine line ++ lineFeed :: ofLines lines

/-- The tokens of a text. -/
def ofText (t : Text) : List Token :=
  ofLines (Text.cutLines t)

end SnippetCost.Token
