import SnippetCost.Proofs.Text.Lines
import SnippetCost.Proofs.Token.StringBody

/-!
# Tokens make up the text

Cutting loses nothing: on each line, and over the lines of a text, the tokens join to what was cut.

One step is `first_append`. The main results are `join_ofLine` and `join_ofText`.
-/

namespace SnippetCost.Token

/-- A run and what follows it make up the text. -/
lemma cutRun_append (p : Char → Bool) (t : Text) : (cutRun p t).1 ++ (cutRun p t).2 = t :=
  List.takeWhile_append_dropWhile

/-- The first token and what follows it make up the text. -/
lemma first_append (c : Char) (rest : Text) :
    (first c rest).1.text ++ (first c rest).2 = c :: rest := by
  unfold first
  split
  · simpa using cutRun_append isBlank rest
  · split
    · simpa using cutString_append c rest
    · split
      · simpa using cutRun_append isNumberChar rest
      · split
        · simpa using cutRun_append isNameChar rest
        · rfl

/-- Tokens one behind another make up what both make up. -/
lemma join_append (ts us : List Token) : join (ts ++ us) = join ts ++ join us :=
  List.flatMap_append

/-- The first token makes up the beginning. -/
lemma join_cons (k : Token) (ts : List Token) : join (k :: ts) = k.text ++ join ts :=
  List.flatMap_cons

/-- One token makes up its own text. -/
lemma join_singleton (k : Token) : join [k] = k.text :=
  List.flatMap_singleton _ _

/-- The tokens of code make up the code. -/
lemma join_ofCode (t : Text) : join (ofCode t) = t := by
  fun_induction ofCode t with
  | case1 => rfl
  | case2 c rest ih => rw [join_cons, ih, first_append]

/-- The token of a comment makes up the comment. -/
lemma join_comment? (t : Text) : join (comment? t) = t := by
  cases t with
  | nil => rfl
  | cons c t => exact List.append_nil _

/-- The tokens of a line make up the line. -/
lemma join_ofLine (line : Text) : join (ofLine line) = line := by
  rw [ofLine]
  split
  · next h => exact h.symm
  · split
    · exact List.append_nil _
    · exact List.append_nil _
    · rw [join_append, join_ofCode, join_comment?, List.takeWhile_append_dropWhile]

/-- The tokens of lines make up the lines, joined by line feeds. -/
lemma join_ofLines (ls : List Text) : join (ofLines ls) = Text.joinLines ls := by
  fun_induction ofLines ls with
  | case1 => rfl
  | case2 line => rw [join_ofLine, Text.joinLines_singleton]
  | case3 line lines ne ih =>
    have ne : lines ≠ [] := by
      rintro rfl
      exact ne rfl
    rw [join_append, join_cons, join_ofLine, ih, Text.joinLines_cons line ne]
    rfl

/-- The tokens of a text make up the text. -/
lemma join_ofText (t : Text) : join (ofText t) = t := by
  rw [ofText, join_ofLines, Text.joinLines_cutLines]

end SnippetCost.Token
