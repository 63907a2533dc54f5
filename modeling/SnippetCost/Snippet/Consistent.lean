import SnippetCost.Nesting.Line
import SnippetCost.Snippet.Estimate
import SnippetCost.Snippet.LoopHead

/-!
# What estimates say of a text

What the class, the rule and the depth of an estimate have to say of one another and of the text, told
without the rules, `Estimate.IsConsistent`. The keywords of loops are those that stand in the text as
whole words, `HasLoopKeyword`; a line can also open a loop that no whole word tells of,
`Text.opensUnseenLoop`.
-/

namespace SnippetCost

namespace Text

/-- The keywords of loops. -/
def loopKeywords : List String :=
  ["for", "while"]

/-- Whether a text begins with `keyword` and a character that the scan of lines takes for the end of
the keyword, and the search for whole words for the middle of a longer word. -/
def opensUnseen (keyword t : Text) : Bool :=
  match dropLead? keyword t with
  | some (c :: _) => isWordChar c && !isNameChar c
  | _ => false

/-- Whether a line opens a loop of which the search for keywords sees nothing. -/
def opensUnseenLoop (line : Text) : Bool :=
  loopKeywords.any fun keyword => opensUnseen keyword.toList (trimStart line)

end Text

/-- Whether one of the keywords of a loop stands in a text as a whole word. -/
def HasLoopKeyword (t : Text) : Prop :=
  Nonempty (WholeWord "for".toList t) ∨ Nonempty (WholeWord "while".toList t)

/-- Whether a text divides by two: a slash, blanks or none, and the digit. -/
def DividesByTwo (t : Text) : Prop :=
  ∃ front gap back : Text, (∀ c ∈ gap, isBlank c) ∧ t = front ++ '/' :: (gap ++ '2' :: back)

/-- What the three parts of an estimate say of one another and of the text. -/
structure Estimate.IsConsistent [PatternBuilder] (e : Estimate) (t : Text) : Prop where
  depth : e.depth = loopDepth t
  nestingDepth : e.rule = .nestingDepth → 1 ≤ e.depth ∧ e.growth = .ofLoopDepth e.depth
  membershipInLoop : e.rule = .membershipInLoop → 1 ≤ e.depth ∧ e.growth = .quadratic
  noLoops : e.rule = .noLoops → e.depth = 0 ∧ e.growth = .constant ∧ ¬ HasLoopKeyword t
  fallback : e.rule = .fallback → e.depth = 0 ∧ e.growth = .linear ∧ HasLoopKeyword t
  binarySearch : e.rule = .iterativeBinarySearch ∨ e.rule = .recursiveBinarySearch →
    e.growth = .logarithmic ∧ DividesByTwo t
  exponentialRecursion : e.rule = .exponentialRecursion →
    e.growth = .exponential ∧ 3 ≤ (Snippet.ofText t).selfCalls
  divideAndConquer : e.rule = .divideAndConquer →
    e.growth = .linearithmic ∧ 3 ≤ (Snippet.ofText t).selfCalls
  builtinSort : e.rule = .builtinSort → e.growth = .linearithmic ∧ Pattern.hasSortCall t
  exponential : e.growth = .exponential → e.rule = .exponentialRecursion
  cubic : e.growth = .cubic → e.rule = .nestingDepth ∧ 3 ≤ e.depth

end SnippetCost
