import SnippetCost.Text.Basic

/-!
# Tokens of a settings document

A document is cut into tokens before it is read as a tree. Indentation shows in them as well: a token
begins each mapping that is laid out by indentation, and a token ends it.
-/

namespace SnippetCost.Yaml

/-- How a scalar is written. -/
inductive Style where
  /-- Without quotes or a block indicator. -/
  | plain
  /-- Between single or double quotes. -/
  | quoted
  /-- As a block whose lines are kept. -/
  | literal
  /-- As a block whose lines are folded. -/
  | folded
deriving DecidableEq, Repr

/-- A token of a document. -/
inductive Token where
  /-- The directive that names the version of the language. -/
  | version (major minor : Nat)
  /-- The directive that says what the handle of a tag stands for. -/
  | handle (name lead : Text)
  | documentStart
  | documentEnd
  /-- The start of a mapping laid out by indentation. -/
  | blockStart
  | blockEnd
  /-- The start of a mapping in braces. -/
  | braceOpen
  | braceClose
  | comma
  /-- What follows is a key. -/
  | key
  /-- What follows is the value of a key. -/
  | value
  | anchor (name : Text)
  | reference (name : Text)
  /-- A tag: its handle, which is empty if the rest is the whole tag, and the rest. -/
  | tag (handle rest : Text)
  | scalar (style : Style) (text : Text)
deriving DecidableEq, Repr

end SnippetCost.Yaml
