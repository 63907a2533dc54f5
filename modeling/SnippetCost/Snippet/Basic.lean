import SnippetCost.Snippet.Pattern
import SnippetCost.Nesting.Scan
import SnippetCost.Text.Lower

/-!
# Snippets

A piece of program text together with what all rules ask about it: the function that it defines, how
often that function is called, and how deep its loops are nested. The main definition is
`Snippet.ofText`.
-/

namespace SnippetCost

/-- A snippet and the facts about it that several rules share. -/
structure Snippet where
  text : Text
  /-- The name of the first function that the text defines. -/
  functionName : Option Text
  /-- How often that name stands before an opening parenthesis, the definition included. Where no
  pattern could be built for it, none is counted. -/
  selfCalls : Nat
  /-- The largest number of loops open at once. -/
  depth : Nat

namespace Snippet

/-- Gather the facts about a text. -/
def ofText [PatternBuilder] (t : Text) : Snippet :=
  let name := Pattern.firstDefinedName? t
  { text := t
    functionName := name
    selfCalls := match name with
      | some name => Pattern.countCalls name t
      | none => 0
    depth := loopDepth t }

/-- Whether a word of small ASCII letters stands in the snippet, in any case and within any word. -/
def talksOf (word : String) (s : Snippet) : Bool :=
  Text.includes word.toList (Text.lower s.text)

/-- Whether one of the keywords of a loop stands in the snippet. -/
def hasLoopKeyword (s : Snippet) : Bool :=
  Text.mentions ["for", "while"] s.text

/-- Whether the snippet tests for membership outside the heads of its loops. -/
def hasMembership (s : Snippet) : Bool :=
  Pattern.hasMembership s.text

end Snippet

end SnippetCost
