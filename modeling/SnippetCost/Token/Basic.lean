import SnippetCost.Text.Basic

/-!
# Tokens

A token is a stretch of program text with the kind that decides how it is shown.
-/

namespace SnippetCost

/-- What a stretch of program text is shown as. -/
inductive TokenKind where
  | keyword
  | builtin
  | string
  | number
  | comment
  | plain
deriving DecidableEq, Repr

namespace TokenKind

/-- All kinds. -/
def all : List TokenKind :=
  [keyword, builtin, string, number, comment, plain]

/-- The name of a kind. -/
def name : TokenKind → String
  | keyword => "keyword"
  | builtin => "builtin"
  | string => "string"
  | number => "number"
  | comment => "comment"
  | plain => "plain"

/-- The class that a token of the kind is marked with; plain text is not marked. -/
def cssClass? : TokenKind → Option String
  | plain => none
  | kind => some kind.name

/-- The kind of a name. -/
def ofName? (t : Text) : Option TokenKind :=
  all.find? fun k => k.name.toList = t

end TokenKind

/-- A stretch of program text and its kind. -/
structure Token where
  kind : TokenKind
  text : Text
deriving DecidableEq, Repr

namespace Token

/-- The text that tokens were cut from. -/
def join (tokens : List Token) : Text :=
  tokens.flatMap Token.text

end Token

end SnippetCost
