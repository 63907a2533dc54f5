import SnippetCost.Token.Vocabulary
import SnippetCost.Text.Blank
import SnippetCost.Text.Word

/-!
# The grammar of a line

Which lists of tokens a line may be cut into. Each token is judged by its own text and by the text that
stands behind it: a run may not go on there, and a string ends with the first quote that no backslash
escapes. Of the tokens of a whole text it is said how they keep to its lines. The tokens of a line are
`Token.AreLineTokens`, and those of a text `Token.MakeUp`.
-/

namespace SnippetCost.Token

/-- A longest run: it begins with a character of `start`, it holds characters of `more` only, and
none of these stands behind it. -/
structure IsRun (start more : Char → Prop) (run rest : Text) : Prop where
  begins : ∃ c ∈ run.head?, start c
  all : ∀ c ∈ run, more c
  stops : ∀ c ∈ rest.head?, ¬ more c

/-- A run of blanks. -/
def IsGap : Text → Text → Prop :=
  IsRun (fun c => isBlank c) (fun c => isBlank c)

/-- A run of ASCII digits and points that begins with a digit. -/
def IsNumeral : Text → Text → Prop :=
  IsRun (fun c => isAsciiDigit c) (fun c => isAsciiDigit c ∨ c = '.')

/-- A run of letters, numbers and underscores that begins with no number. -/
def IsWord : Text → Text → Prop :=
  IsRun (fun c => isLetter c ∨ c = '_') (fun c => isAlphanumeric c ∨ c = '_')

/-- Whether a character is one of the two quotes that strings stand in. -/
def IsQuote (c : Char) : Prop :=
  c = '\'' ∨ c = '"'

/-- Whether a text escapes the character behind it: it ends in an odd number of backslashes. -/
def EscapesNext (t : Text) : Prop :=
  (t.reverse.takeWhile (· = '\\')).length % 2 = 1

/-- Whether every `quote` in a text is escaped. -/
def AllEscaped (quote : Char) (t : Text) : Prop :=
  ∀ u v, t = u ++ quote :: v → EscapesNext u

/-- What stands in a string behind the quote that opens it: a text up to and with the next quote that
is not escaped, or all of the text if there is none. -/
inductive IsStringBody (quote : Char) : Text → Text → Prop where
  | closed {inner rest : Text} :
    AllEscaped quote inner → ¬ EscapesNext inner → IsStringBody quote (inner ++ [quote]) rest
  | unclosed {inner : Text} : AllEscaped quote inner → IsStringBody quote inner []

/-- A token that may stand before `rest` in text without comments. -/
inductive IsCodeToken : Token → Text → Prop where
  | gap {run rest : Text} : IsGap run rest → IsCodeToken ⟨.plain, run⟩ rest
  | string {quote : Char} {body rest : Text} :
    IsQuote quote → IsStringBody quote body rest → IsCodeToken ⟨.string, quote :: body⟩ rest
  | number {run rest : Text} : IsNumeral run rest → IsCodeToken ⟨.number, run⟩ rest
  | keyword {word rest : Text} :
    IsWord word rest → word ∈ Vocabulary.keywords → IsCodeToken ⟨.keyword, word⟩ rest
  | builtin {word rest : Text} :
    IsWord word rest → word ∉ Vocabulary.keywords → word ∈ Vocabulary.builtins →
      IsCodeToken ⟨.builtin, word⟩ rest
  | name {word rest : Text} :
    IsWord word rest → word ∉ Vocabulary.keywords → word ∉ Vocabulary.builtins →
      IsCodeToken ⟨.plain, word⟩ rest
  | other {c : Char} {rest : Text} :
    isBlank c = false → ¬ IsQuote c → isAsciiDigit c = false → isLetter c = false → c ≠ '_' →
      IsCodeToken ⟨.plain, [c]⟩ rest

/-- Tokens that text without comments may be cut into. -/
inductive AreCodeTokens : List Token → Prop where
  | nil : AreCodeTokens []
  | cons {token : Token} {tokens : List Token} :
    IsCodeToken token (join tokens) → AreCodeTokens tokens → AreCodeTokens (token :: tokens)

/-- Tokens that a line may be cut into. What stands before a comment holds no number sign, and it is
not blank: blanks before the sign belong to the comment. -/
inductive AreLineTokens : List Token → Prop where
  | empty : AreLineTokens []
  | blank {line : Text} :
    line ≠ [] → (∀ c ∈ line, isBlank c) → AreLineTokens [⟨.plain, line⟩]
  | comment {lead rest : Text} :
    (∀ c ∈ lead, isBlank c) → AreLineTokens [⟨.comment, lead ++ '#' :: rest⟩]
  | code {tokens : List Token} :
    AreCodeTokens tokens → '#' ∉ join tokens → (∃ c ∈ join tokens, isBlank c = false) →
      AreLineTokens tokens
  | commented {tokens : List Token} {rest : Text} :
    AreCodeTokens tokens → '#' ∉ join tokens → (∃ c ∈ join tokens, isBlank c = false) →
      AreLineTokens (tokens ++ [⟨.comment, '#' :: rest⟩])

/-- Whether a comment is the last token of its line: what stands behind it, if anything, is a line
feed. -/
def CommentsEndLines : List Token → Prop
  | [] => True
  | token :: tokens =>
    (token.kind = .comment → ∀ next ∈ tokens.head?, next = ⟨.plain, ['\n']⟩) ∧
      CommentsEndLines tokens

/-- Tokens that make up a text line by line: none of them is empty, and each line feed of the text is
a token of its own. -/
structure MakeUp (tokens : List Token) (t : Text) : Prop where
  join_eq : join tokens = t
  text_ne_nil : ∀ token ∈ tokens, token.text ≠ []
  lineFeed_alone : ∀ token ∈ tokens, '\n' ∈ token.text → token = ⟨.plain, ['\n']⟩
  commentsEndLines : CommentsEndLines tokens

end SnippetCost.Token
