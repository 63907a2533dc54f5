import SnippetCost.Markup.Basic
import SnippetCost.Token.Cutting

/-!
# Highlighting

A highlighted snippet has a mark around every token that is not plain. The class of the mark is the
kind of the token behind a prefix of the reader's choice. The main definitions are `Highlight.ofTokens`
and `Highlight.write`.
-/

namespace SnippetCost.Highlight

/-- A token as it is shown. -/
def ofToken (classLead : Text) (token : Token) : Markup :=
  match token.kind.cssClass? with
  | some kind => .element .mark (some (classLead ++ kind.toList)) [.text token.text]
  | none => .text token.text

/-- Tokens as they are shown. -/
def ofTokens (classLead : Text) (tokens : List Token) : List Markup :=
  tokens.map (ofToken classLead)

/-- Program text as it is shown. -/
def ofText (classLead : Text) (t : Text) : List Markup :=
  ofTokens classLead (Token.ofText t)

/-- Tokens as they are written. -/
def writeTokens (classLead : Text) (tokens : List Token) : Text :=
  Markup.writeAll (ofTokens classLead tokens)

/-- Program text as it is written. -/
def write (classLead : Text) (t : Text) : Text :=
  Markup.writeAll (ofText classLead t)

end SnippetCost.Highlight
