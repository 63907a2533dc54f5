import SnippetCost.Snippet.Pattern

/-!
# The pattern of a call

Calls can also be looked for by the pattern that is written from the name. It is read as its pieces,
`Pattern.pieces?`, and a search goes through the text from left to right and goes on behind each match,
`Pattern.searchCalls`. Where a call stands in a text is said without patterns, `CallsAt`.
-/

namespace SnippetCost

/-- What a pattern asks for at one place. -/
inductive PatternPiece where
  /-- The beginning or the end of a word. -/
  | wordEdge
  | char (c : Char)
deriving DecidableEq, Repr

/-- Whether a word begins or ends at a place. -/
def Place.isWordEdge (p : Place) : Bool :=
  p.touchesWord != Text.beginsInWord p.after

namespace Pattern

/-- The pieces of a pattern of characters and edges of words; no other pattern is read. -/
def pieces? : Text → Option (List PatternPiece)
  | [] => some []
  | '\\' :: c :: rest =>
    if c = 'b' then (pieces? rest).map (.wordEdge :: ·)
    else if isSpecial c then (pieces? rest).map (.char c :: ·)
    else none
  | c :: rest => if isSpecial c then none else (pieces? rest).map (.char c :: ·)

/-- The place behind a match, if one begins at a place. -/
def behindMatch? : List PatternPiece → Place → Option Place
  | [], p => some p
  | .wordEdge :: pieces, p => if p.isWordEdge then behindMatch? pieces p else none
  | .char c :: pieces, p =>
    match p.after with
    | [] => none
    | d :: rest => if c = d then behindMatch? pieces ⟨some d, rest⟩ else none

/-- How many matches are found from left to right, each behind the one before it. A match of nothing is
none. -/
def countMatches (pieces : List PatternPiece) (before : Option Char) : Text → Nat
  | [] => 0
  | c :: rest =>
    match behindMatch? pieces ⟨before, c :: rest⟩ with
    | none => countMatches pieces (some c) rest
    | some p =>
      if p.after.length ≤ rest.length then countMatches pieces p.before p.after + 1
      else countMatches pieces (some c) rest
termination_by t => t.length
decreasing_by
  all_goals simp only [List.length_cons]
  all_goals omega

/-- How many calls of a function a search for the pattern finds: none if it cannot be built. -/
def searchCalls [PatternBuilder] (name t : Text) : Nat :=
  if PatternBuilder.builds (callPattern name) then
    match pieces? (callPattern name) with
    | some pieces => countMatches pieces none t
    | none => 0
  else 0

end Pattern

/-- Whether `name` and an opening parenthesis stand behind the first `n` characters of a text, and no
word character directly in front of them. -/
def CallsAt (name t : Text) (n : Nat) : Prop :=
  ∃ front back : Text, t = front ++ (name ++ '(' :: back) ∧ front.length = n ∧
    Text.endsInWord front = false

end SnippetCost
