import SnippetCost.Markup.Highlight
import SnippetCost.Proofs.Markup.Fragment
import SnippetCost.Proofs.Token.Grammar

/-!
# Tokens keep to their lines

A text is cut line by line: what stands before a line feed and what stands behind it are cut as if each
were alone, so nothing that a line leaves open reaches the next one. The tokens make up the text, each
line feed is a token of its own, and a comment is the last token of its line.

`ofText_append` and `write_append` say that a line feed separates, and `makeUp_ofText` what the tokens
of a text are like. The main result is `Token.ofText_lineFeed`.
-/

namespace SnippetCost

namespace Token

variable {ts us tokens : List Token} {token : Token} {rest t u : Text}

/-- A line feed stands between a line and the lines behind it. -/
lemma ofLines_cons (line : Text) {lines : List Text} (ne : lines ≠ []) :
    ofLines (line :: lines) = ofLine line ++ lineFeed :: ofLines lines := by
  cases lines with
  | nil => exact absurd rfl ne
  | cons next lines => rfl

/-- A line feed stands between lines and the lines behind them. -/
lemma ofLines_append {lines more : List Text} (ne : lines ≠ []) (ne' : more ≠ []) :
    ofLines (lines ++ more) = ofLines lines ++ lineFeed :: ofLines more := by
  induction lines with
  | nil => exact absurd rfl ne
  | cons line lines ih =>
    rw [List.cons_append]
    cases lines with
    | nil => exact ofLines_cons line ne'
    | cons next lines =>
      rw [ofLines_cons line (by simp), ofLines_cons line (by simp), ih (by simp), List.append_assoc,
        List.cons_append]

/-- Comments end their lines on both sides of a line feed. -/
lemma CommentsEndLines.append (hs : CommentsEndLines ts) (hu : CommentsEndLines us) :
    CommentsEndLines (ts ++ lineFeed :: us) := by
  induction ts with
  | nil =>
    have plain : lineFeed.kind ≠ .comment := by simp [lineFeed]
    exact ⟨fun comment => absurd comment plain, hu⟩
  | cons token ts ih =>
    obtain ⟨last, hs⟩ := hs
    refine ⟨fun comment => ?_, ih hs⟩
    cases ts with
    | nil => simp [lineFeed]
    | cons next ts => exact last comment

/-- No token of code is a comment. -/
lemma IsCodeToken.kind_ne_comment (h : IsCodeToken token rest) : token.kind ≠ .comment := by
  cases h <;> simp

/-- Text without comments may stand before tokens whose comments end their lines. -/
lemma AreCodeTokens.commentsEndLines_append (h : AreCodeTokens tokens) (hu : CommentsEndLines us) :
    CommentsEndLines (tokens ++ us) := by
  induction h with
  | nil => exact hu
  | cons first _ ih => exact ⟨fun comment => absurd comment first.kind_ne_comment, ih⟩

/-- A comment alone ends its line. -/
lemma commentsEndLines_singleton (token : Token) : CommentsEndLines [token] :=
  ⟨fun _ => by simp, trivial⟩

/-- On a line comments end the line. -/
lemma AreLineTokens.commentsEndLines (h : AreLineTokens tokens) : CommentsEndLines tokens := by
  cases h with
  | empty => exact trivial
  | blank | comment => exact commentsEndLines_singleton _
  | code code =>
    rw [← List.append_nil tokens]
    exact code.commentsEndLines_append trivial
  | commented code => exact code.commentsEndLines_append (commentsEndLines_singleton _)

/-- A line without line feeds is made up by its tokens. -/
lemma makeUp_ofLine {line : Text} (noFeed : '\n' ∉ line) : MakeUp (ofLine line) line where
  join_eq := join_ofLine line
  text_ne_nil := (areLineTokens_ofLine line).text_ne_nil
  lineFeed_alone := by
    intro token mem feed
    have inside : '\n' ∈ join (ofLine line) := List.mem_flatMap.2 ⟨token, mem, feed⟩
    rw [join_ofLine] at inside
    exact absurd inside noFeed
  commentsEndLines := (areLineTokens_ofLine line).commentsEndLines

/-- Tokens of two texts with a line feed between them make up both with a line feed between. -/
lemma MakeUp.append (ht : MakeUp ts t) (hu : MakeUp us u) :
    MakeUp (ts ++ lineFeed :: us) (t ++ '\n' :: u) where
  join_eq := by
    rw [join_append, join_cons, ht.join_eq, hu.join_eq]
    rfl
  text_ne_nil := by
    rw [List.forall_mem_append, List.forall_mem_cons]
    exact ⟨ht.text_ne_nil, List.cons_ne_nil _ _, hu.text_ne_nil⟩
  lineFeed_alone := by
    rw [List.forall_mem_append, List.forall_mem_cons]
    exact ⟨ht.lineFeed_alone, fun _ => rfl, hu.lineFeed_alone⟩
  commentsEndLines := ht.commentsEndLines.append hu.commentsEndLines

/-- The tokens of lines make up the lines. -/
lemma makeUp_ofLines {lines : List Text} (noFeed : ∀ line ∈ lines, '\n' ∉ line) (ne : lines ≠ []) :
    MakeUp (ofLines lines) (Text.joinLines lines) := by
  induction lines with
  | nil => exact absurd rfl ne
  | cons line lines ih =>
    obtain ⟨first, noFeed⟩ := List.forall_mem_cons.1 noFeed
    cases lines with
    | nil =>
      rw [Text.joinLines_singleton]
      exact makeUp_ofLine first
    | cons next lines =>
      have ne : next :: lines ≠ [] := List.cons_ne_nil _ _
      rw [ofLines_cons line ne, Text.joinLines_cons line ne]
      exact (makeUp_ofLine first).append (ih noFeed ne)

/-- The tokens of a text make it up line by line. -/
lemma makeUp_ofText (t : Text) : MakeUp (ofText t) t := by
  have h := makeUp_ofLines (Text.notMem_of_mem_cutLines t) (Text.cutLines_ne_nil t)
  rwa [Text.joinLines_cutLines] at h

/-- The tokens around a line feed are those of what stands before it and of what stands behind it. -/
lemma ofText_append (t u : Text) : ofText (t ++ '\n' :: u) = ofText t ++ lineFeed :: ofText u := by
  rw [ofText, Text.cutLines_append_feed]
  exact ofLines_append (Text.cutLines_ne_nil t) (Text.cutLines_ne_nil u)

end Token

namespace Highlight

/-- The markup around a line feed is that of what stands before it and of what stands behind it. -/
lemma write_append (classLead t u : Text) :
    write classLead (t ++ '\n' :: u) = write classLead t ++ '\n' :: write classLead u := by
  rw [write, ofText, Token.ofText_append, ofTokens, List.map_append, Markup.writeAll_append]
  rfl

end Highlight

/-- Nothing on one line changes the tokens of another: around a line feed a text is cut, and
highlighted, as its two parts are. Its tokens are not empty and make it up, every line feed is a token
of its own, and every comment ends its line. -/
theorem Token.ofText_lineFeed :
    (∀ t u, ofText (t ++ '\n' :: u) = ofText t ++ [⟨.plain, ['\n']⟩] ++ ofText u) ∧
      (∀ classLead t u, Highlight.write classLead (t ++ '\n' :: u) =
        Highlight.write classLead t ++ ['\n'] ++ Highlight.write classLead u) ∧
      ∀ t, MakeUp (ofText t) t := by
  refine ⟨fun t u => ?_, fun classLead t u => ?_, makeUp_ofText⟩
  · rw [ofText_append, List.append_assoc]
    rfl
  · rw [Highlight.write_append, List.append_assoc]
    rfl

end SnippetCost
