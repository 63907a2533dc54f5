import SnippetCost.Token.Basic

/-!
# Vocabulary

The words of a program that are shown as keywords and as built-in functions. Case matters.
-/

namespace SnippetCost.Vocabulary

/-- The keywords, in the order of their code points. -/
def keywords : List Text :=
  ["False", "None", "True", "and", "as", "assert", "async", "await", "break", "class", "continue",
    "def", "del", "elif", "else", "except", "finally", "for", "from", "global", "if", "import", "in",
    "is", "lambda", "nonlocal", "not", "or", "pass", "raise", "return", "try", "while", "with",
    "yield"].map String.toList

/-- The built-in functions, in the order of their code points. -/
def builtins : List Text :=
  ["abs", "all", "any", "bool", "dict", "enumerate", "filter", "float", "input", "int",
    "isinstance", "len", "list", "map", "max", "min", "open", "print", "range", "reversed", "round",
    "set", "sorted", "str", "sum", "super", "tuple", "type", "zip"].map String.toList

/-- Whether a word is a keyword. -/
def isKeyword (word : Text) : Bool :=
  keywords.contains word

/-- Whether a word is a built-in function. -/
def isBuiltin (word : Text) : Bool :=
  builtins.contains word

/-- The kind that a word is shown as. -/
def kindOf (word : Text) : TokenKind :=
  if isKeyword word then .keyword
  else if isBuiltin word then .builtin
  else .plain

end SnippetCost.Vocabulary
