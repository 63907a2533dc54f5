import SnippetCost.Text.Basic

/-!
# Markup

What is shown is a tree of elements and texts. Writing a tree escapes the three characters that have a
meaning in markup, so the text of a tree can say anything and still be text. The main definitions are
`Markup`, `Markup.escape` and `Markup.write`.
-/

namespace SnippetCost

/-- The names that elements can have. -/
inductive Tag where
  | report
  | fields
  | fieldName
  | fieldValue
  | block
  | code
  | mark
deriving DecidableEq, Repr

/-- The name of an element as it is written. -/
def Tag.name : Tag → String
  | report => "section"
  | fields => "dl"
  | fieldName => "dt"
  | fieldValue => "dd"
  | block => "pre"
  | code => "code"
  | mark => "span"

/-- A piece of what is shown: a text, or an element with its class and its content. -/
inductive Markup where
  | text (t : Text)
  | element (tag : Tag) (cssClass : Option Text) (content : List Markup)

namespace Markup

/-- The character as it is written in text. -/
def escapeChar : Char → Text
  | '&' => "&amp;".toList
  | '<' => "&lt;".toList
  | '>' => "&gt;".toList
  | c => [c]

/-- The text as it is written. -/
def escape (t : Text) : Text :=
  t.flatMap escapeChar

/-- The tag that opens an element. -/
def openTag (tag : Tag) (cssClass : Option Text) : Text :=
  ['<'] ++ tag.name.toList
    ++ (match cssClass with
      | some value => " class=\"".toList ++ value ++ ['"']
      | none => [])
    ++ ['>']

/-- The tag that closes an element. -/
def closeTag (tag : Tag) : Text :=
  ['<', '/'] ++ tag.name.toList ++ ['>']

mutual

/-- A piece as it is written. -/
def write : Markup → Text
  | text t => escape t
  | element tag cssClass content => openTag tag cssClass ++ writeAll content ++ closeTag tag

/-- Pieces as they are written, one after another. -/
def writeAll : List Markup → Text
  | [] => []
  | piece :: pieces => write piece ++ writeAll pieces

end

end Markup

end SnippetCost
