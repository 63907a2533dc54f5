import SnippetCost.Token.Basic

/-!
# Tokens as far as they can be seen

Plain text is shown without a mark, so a reader sees neither where one plain token ends and the next
one begins nor a plain token that is empty. Merged tokens have none of this. What a reader does see is
which stretches of the text are marked, and as what. The main definitions are `Token.merged` and
`Token.marks`.
-/

namespace SnippetCost.Token

/-- Whether a token is shown without a mark. -/
def isPlain (token : Token) : Bool :=
  token.kind = .plain

/-- Whether nothing is shown of a token. -/
def isUnseen (token : Token) : Bool :=
  token.isPlain && token.text.isEmpty

/-- Put a token before others. Plain text before plain text is one token with it. -/
def prepend (token : Token) : List Token → List Token
  | [] => [token]
  | next :: tokens =>
    if token.isPlain && next.isPlain then ⟨.plain, token.text ++ next.text⟩ :: tokens
    else token :: next :: tokens

/-- The tokens without those of which nothing is shown, and with adjacent plain ones as one. -/
def merged (tokens : List Token) : List Token :=
  (tokens.filter fun token => !token.isUnseen).foldr prepend []

/-- The tokens that are marked, each with its place in the text: the number of characters before
it. -/
def marksFrom (place : Nat) : List Token → List (Nat × Token)
  | [] => []
  | token :: tokens =>
    let behind := marksFrom (place + token.text.length) tokens
    if token.isPlain then behind else (place, token) :: behind

/-- The tokens that are marked, with their places in the text that the tokens make up. -/
def marks (tokens : List Token) : List (Nat × Token) :=
  marksFrom 0 tokens

end SnippetCost.Token
