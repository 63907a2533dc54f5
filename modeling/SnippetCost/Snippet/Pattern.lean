import SnippetCost.Snippet.PatternText
import SnippetCost.Text.Place

/-!
# Patterns in snippets

The signs of an algorithm that the rules look for in the text of a snippet. Each is a question about
the places of the text: a division by two (`hasHalving`), the definition of a function
(`firstDefinedName?`), a call (`countCalls`), a sort (`hasSortCall`), and a test for membership
(`hasMembership`). The last of them looks behind the heads of loops, `withoutLoopHeads`, whose
recursion rests on `afterLoopHead?_length`.
-/

namespace SnippetCost.Pattern

/-- What follows an opening parenthesis that only blanks precede. -/
def afterParen? (t : Text) : Option Text :=
  Text.dropLead? ['('] (Text.trimStart t)

/-- Whether a place begins a division by two: a slash, blanks, and the digit. -/
def isHalving (p : Place) : Bool :=
  match p.after with
  | '/' :: rest => (Text.trimStart rest).head? = some '2'
  | _ => false

/-- Whether something is divided by two in the text. -/
def hasHalving (t : Text) : Bool :=
  (Text.places t).any isHalving

/-- Whether a place begins a call of a sort: `.sort (` or the whole name `sorted (`. -/
def isSortCall (p : Place) : Bool :=
  ((Text.dropLead? ".sort".toList p.after).bind afterParen?).isSome
    || ((p.afterLead? "sorted".toList).bind afterParen?).isSome

/-- Whether the text calls a sort. -/
def hasSortCall (t : Text) : Bool :=
  (Text.places t).any isSortCall

/-- Whether a character can begin the name of a defined function. -/
def isFunctionStart (c : Char) : Bool :=
  isAsciiLetter c || c = '_'

/-- The function name at the start of a text, if an opening parenthesis follows it. -/
def calledName? : Text → Option Text
  | [] => none
  | c :: rest =>
    if isFunctionStart c && (afterParen? (rest.dropWhile isWordChar)).isSome then
      some (c :: rest.takeWhile isWordChar)
    else none

/-- The name of the function that a definition at the place defines. -/
def definedName? (p : Place) : Option Text :=
  match p.afterLead? "def".toList with
  | some (c :: rest) => if isBlank c then calledName? (Text.trimStart rest) else none
  | _ => none

/-- The name of the first function that the text defines. -/
def firstDefinedName? (t : Text) : Option Text :=
  (Text.places t).findSome? definedName?

/-- Whether a call of `name`, or the head of its definition, stands at the place. -/
def isCallOf (name : Text) (p : Place) : Bool :=
  (p.afterLead? (name ++ ['('])).isSome

/-- How often `name` and an opening parenthesis stand in the text. -/
def callsIn (name t : Text) : Nat :=
  (Text.places t).countP (isCallOf name)

/-- How many calls are counted: all that stand in the text, or none if there is no pattern to search
for. -/
def countCalls [PatternBuilder] (name t : Text) : Nat :=
  if PatternBuilder.builds (callPattern name) then callsIn name t else 0

/-- The rest of a text behind its first whole word `in`, if the word comes before a colon and before
the end of the line. -/
def afterLoopTarget? (before : Option Char) : Text → Option Text
  | [] => none
  | c :: rest =>
    match Place.afterWord? ⟨before, c :: rest⟩ "in".toList with
    | some after => some after
    | none => if c = '\n' || c = ':' then none else afterLoopTarget? (some c) rest

/-- The rest of a text behind the head of a `for` loop, from the whole word `for` to the first whole
word `in`, if the head stands at the place. -/
def afterLoopHead? (p : Place) : Option Text :=
  (p.afterLead? "for".toList).bind fun rest =>
    if Text.beginsInWord rest then none else afterLoopTarget? (some 'r') rest

/-! ### Lengths the recursion rests on -/

/-- What follows the lead is shorter by the lead. -/
theorem dropLead?_length {lead t rest : Text} (h : Text.dropLead? lead t = some rest) :
    rest.length = t.length - lead.length := by
  induction lead generalizing t with
  | nil =>
    cases h
    simp
  | cons l lead ih =>
    cases t with
    | nil => simp [Text.dropLead?] at h
    | cons c t =>
      rw [Text.dropLead?] at h
      split at h
      · simpa using ih h
      · simp at h

/-- What follows a word at a place is shorter by the word. -/
theorem afterLead?_length {p : Place} {word rest : Text} (h : p.afterLead? word = some rest) :
    rest.length = p.after.length - word.length := by
  unfold Place.afterLead? at h
  split at h
  · simp at h
  · exact dropLead?_length h

/-- What follows the target of a loop is no longer than the text. -/
theorem afterLoopTarget?_length {before : Option Char} {t rest : Text}
    (h : afterLoopTarget? before t = some rest) : rest.length ≤ t.length := by
  induction t generalizing before with
  | nil => simp [afterLoopTarget?] at h
  | cons c t ih =>
    rw [afterLoopTarget?] at h
    split at h
    · next after e =>
      have := afterLead?_length (Option.eq_some_of_filter_eq_some e)
      simp only [Option.some.injEq] at h
      subst h
      simp only at this
      omega
    · split at h
      · simp at h
      · have := ih h
        simp only [List.length_cons]
        omega

/-- The head of a loop is not empty. -/
theorem afterLoopHead?_length {p : Place} {rest : Text} (h : afterLoopHead? p = some rest) :
    rest.length < p.after.length := by
  obtain ⟨mid, hmid, h⟩ := Option.bind_eq_some_iff.1 h
  split at h
  · simp at h
  · have hle := afterLoopTarget?_length h
    have hlead := afterLead?_length hmid
    have htarget : mid ≠ [] := by
      rintro rfl
      simp [afterLoopTarget?] at h
    have := List.length_pos_iff.2 htarget
    simp only [String.length_toList] at hlead
    have three : "for".length = 3 := rfl
    omega

/-- The text without the heads of its `for` loops. A head is looked for from left to right, behind
the head before it. -/
def withoutLoopHeads (before : Option Char) (t : Text) : Text :=
  match _h : afterLoopHead? ⟨before, t⟩ with
  | some rest => withoutLoopHeads (some 'n') rest
  | none =>
    match t with
    | [] => []
    | c :: rest => c :: withoutLoopHeads (some c) rest
termination_by t.length
decreasing_by
  · exact afterLoopHead?_length _h
  · simp

/-- Whether a place begins a test for membership: the whole word `in`, not followed by `range`. -/
def isMembership (p : Place) : Bool :=
  match p.afterWord? "in".toList with
  | some rest => !"range".toList.isPrefixOf (Text.trimStart rest)
  | none => false

/-- Whether the text tests for membership outside the heads of its `for` loops. -/
def hasMembership (t : Text) : Bool :=
  (Text.places (withoutLoopHeads none t)).any isMembership

end SnippetCost.Pattern
