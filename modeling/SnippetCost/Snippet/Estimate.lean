import SnippetCost.Snippet.Rule

/-!
# Estimates

What is said of a snippet: its class of growth, the rule that decided, and the depth to which its
loops are nested, whichever rule that was.
-/

namespace SnippetCost

/-- An estimate of the growth of a snippet. -/
structure Estimate where
  growth : Growth
  rule : Rule
  depth : Nat
deriving DecidableEq, Repr

namespace Estimate

/-- The estimate for a snippet. -/
def ofSnippet (s : Snippet) : Estimate :=
  let rule := Rule.deciding s
  { growth := rule.verdict s, rule := rule, depth := s.depth }

/-- The estimate for a text. -/
def ofText [PatternBuilder] (t : Text) : Estimate :=
  ofSnippet (Snippet.ofText t)

/-- The label of the class. -/
def label (e : Estimate) : String :=
  e.growth.label

/-- Whether the class counts as slow. -/
def isSlow (e : Estimate) : Bool :=
  e.growth.isSlow

/-- Whether an explanation by the rule names the depth of the loops. -/
def showsDepth (e : Estimate) : Bool :=
  e.rule = .nestingDepth || e.rule = .membershipInLoop

/-- The class and the rule in words. -/
def explanation (e : Estimate) : Text :=
  let reason := e.label.toList ++ " via ".toList ++ e.rule.description.toList
  if e.showsDepth then
    reason ++ " (max loop depth ".toList ++ Text.ofNat e.depth ++ [')']
  else reason

end Estimate

end SnippetCost
