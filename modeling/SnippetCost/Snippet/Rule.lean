import SnippetCost.Snippet.Basic
import SnippetCost.Growth.Basic

/-!
# Rules

Each rule recognises one kind of snippet by its signs and names a class of growth for it. Several rules
can recognise the same snippet, so their order matters: the first that does decides. The order is
`Rule.all`, and the rule that decides `Rule.deciding`.
-/

namespace SnippetCost

/-- The rules that can decide an estimate. -/
inductive Rule where
  | iterativeBinarySearch
  | exponentialRecursion
  | divideAndConquer
  | recursiveBinarySearch
  | builtinSort
  | membershipInLoop
  | nestingDepth
  | noLoops
  | fallback
deriving DecidableEq, Repr

namespace Rule

/-- The rules that recognise snippets, in the order in which they are asked. -/
def ordered : List Rule :=
  [iterativeBinarySearch, exponentialRecursion, divideAndConquer, recursiveBinarySearch, builtinSort,
    membershipInLoop, nestingDepth, noLoops]

/-- All rules: the ordered ones, and the one that is left when none of them decides. -/
def all : List Rule :=
  ordered ++ [fallback]

/-- The name of a rule. -/
def name : Rule → String
  | iterativeBinarySearch => "iterative_binary_search"
  | exponentialRecursion => "exponential_recursion"
  | divideAndConquer => "divide_and_conquer"
  | recursiveBinarySearch => "recursive_binary_search"
  | builtinSort => "builtin_sort"
  | membershipInLoop => "membership_in_loop"
  | nestingDepth => "nesting_depth"
  | noLoops => "no_loops"
  | fallback => "default"

/-- The rule of a name. -/
def ofName? (t : Text) : Option Rule :=
  all.find? fun r => r.name.toList = t

/-- What a rule recognises, in words. -/
def description : Rule → String
  | iterativeBinarySearch => "while loop halving a low/high search window"
  | exponentialRecursion => "fibonacci-style function with multiple recursive calls"
  | divideAndConquer => "recursive merge/partition over split input"
  | recursiveBinarySearch => "single recursive call on a halved range"
  | builtinSort => "call to a built-in sort"
  | membershipInLoop => "linear membership test inside a loop"
  | nestingDepth => "loop nesting depth"
  | noLoops => "no loops"
  | fallback => "loop keyword without recognizable structure"

/-- Whether a rule recognises a snippet. -/
def recognises (s : Snippet) : Rule → Bool
  | iterativeBinarySearch =>
    Text.mentions ["while"] s.text && Text.mentions ["left", "low"] s.text
      && Text.mentions ["right", "high"] s.text && Text.mentions ["mid"] s.text
      && Pattern.hasHalving s.text
  | exponentialRecursion => 2 < s.selfCalls && s.talksOf "fib"
  | divideAndConquer => 3 ≤ s.selfCalls && (s.talksOf "merge" || s.talksOf "partition")
  | recursiveBinarySearch =>
    s.selfCalls = 2 && Text.mentions ["mid", "m"] s.text && Pattern.hasHalving s.text
  | builtinSort => Pattern.hasSortCall s.text
  | membershipInLoop => 1 ≤ s.depth && s.hasMembership
  | nestingDepth => 1 ≤ s.depth
  | noLoops => !s.hasLoopKeyword
  | fallback => true

/-- The class that a rule names for a snippet that it recognises. -/
def verdict (s : Snippet) : Rule → Growth
  | iterativeBinarySearch => .logarithmic
  | exponentialRecursion => .exponential
  | divideAndConquer => .linearithmic
  | recursiveBinarySearch => .logarithmic
  | builtinSort => .linearithmic
  | membershipInLoop => .quadratic
  | nestingDepth => .ofLoopDepth s.depth
  | noLoops => .constant
  | fallback => .linear

/-- The class that a rule names for a snippet, if it recognises it. -/
def growth? (s : Snippet) (r : Rule) : Option Growth :=
  if r.recognises s then some (r.verdict s) else none

/-- The first rule that recognises a snippet. -/
def deciding (s : Snippet) : Rule :=
  (ordered.find? (recognises s)).getD fallback

end Rule

end SnippetCost
