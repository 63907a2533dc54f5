import SnippetCost.Markup.Highlight
import SnippetCost.Proofs.Markup.Escaping
import SnippetCost.Proofs.Text.Search
import SnippetCost.Proofs.Token.Cutting
import SnippetCost.Settings.Basic

/-!
# Text behind the marks

A highlighted snippet without the tags of its marks is the escaped snippet: within the text of a token
no tag can begin, and the class of a mark has no quote that would end it early. So the snippet can be
read back, and nothing of it is taken for markup.

A text without angles is kept by `stripMarks_append`, a tag is left out by `stripMarks_tag`, and one
token is both, `stripMarks_ofToken`. The main result is `unescape_stripMarks_write`.
-/

namespace SnippetCost

open Markup

namespace HighlightSettings

variable {s : HighlightSettings}

/-- A sound prefix has characters only that a class may have. -/
lemma isClassChar_of_mem (sound : s.fault? = none) : ∀ c ∈ s.classLead, isClassChar c := by
  rw [fault?] at sound
  split at sound
  · cases sound
  · next found => simpa using found

/-- A sound prefix has no quote in it. -/
lemma quote_notMem_classLead (sound : s.fault? = none) : '"' ∉ s.classLead := by
  intro mem
  cases isClassChar_of_mem sound '"' mem

end HighlightSettings

namespace Markup

variable {u value : Text}

/-- No tag begins without an angle. -/
lemma afterMarkTag?_of_ne {c : Char} (h : '<' ≠ c) (rest : Text) :
    afterMarkTag? (c :: rest) = none := by
  have opens : "<span class=\"".toList = '<' :: "span class=\"".toList := rfl
  have closes : "</span>".toList = '<' :: "/span>".toList := rfl
  rw [afterMarkTag?, opens, closes, Text.dropLead?_of_ne h]
  exact Text.dropLead?_of_ne h rest

/-- The tag that opens a mark ends at its angle. -/
lemma afterMarkTag?_openTag (h : '"' ∉ value) (t : Text) :
    afterMarkTag? (openTag .mark (some value) ++ t) = some t := by
  have lead : Text.dropLead? "<span class=\"".toList (openTag .mark (some value) ++ t) =
      some (value ++ "\">".toList ++ t) := by
    rw [Text.dropLead?_eq_some]
    simp [openTag, Tag.name]
  -- the quote that ends the class is the first one behind its beginning
  have quote : (value ++ "\">".toList ++ t).dropWhile (· ≠ '"') = "\">".toList ++ t := by
    rw [List.append_assoc]
    exact Text.dropWhile_ne_append h ('>' :: t)
  rw [afterMarkTag?, lead]
  show Text.dropLead? "\">".toList ((value ++ "\">".toList ++ t).dropWhile (· ≠ '"')) = some t
  rw [quote, Text.dropLead?_append]

/-- The tag that closes a mark ends at its angle. -/
lemma afterMarkTag?_closeTag (t : Text) : afterMarkTag? (closeTag .mark ++ t) = some t := by
  have noLead : Text.dropLead? "<span class=\"".toList (closeTag .mark ++ t) = none := rfl
  have close : closeTag .mark = "</span>".toList := rfl
  rw [afterMarkTag?, noLead, close]
  exact Text.dropLead?_append _ t

/-- Text without an angle stays as it is. -/
lemma stripMarks_append (h : '<' ∉ u) (t : Text) : stripMarks (u ++ t) = u ++ stripMarks t := by
  apply Text.replaceEach_append
  intro c hc rest
  apply afterMarkTag?_of_ne
  rintro rfl
  exact h hc

/-- A tag of a mark is left out. -/
lemma stripMarks_tag {tag : Text} (ne : tag ≠ []) {t : Text}
    (h : afterMarkTag? (tag ++ t) = some t) : stripMarks (tag ++ t) = stripMarks t := by
  have lt : t.length < (tag ++ t).length := by
    rw [List.length_append]
    have := List.length_pos_iff.2 ne
    omega
  exact Text.replaceEach_of_some h lt

end Markup

namespace Highlight

variable {classLead : Text}

/-- No class of a kind has a quote in it. -/
lemma quote_notMem_cssClass {k : TokenKind} {name : String} (h : k.cssClass? = some name) :
    '"' ∉ name.toList := by
  cases k with
  | plain => cases h
  | keyword | builtin | string | number | comment =>
    cases h
    simp [TokenKind.name]

/-- A token without its mark is its text, escaped. -/
lemma stripMarks_ofToken (h : '"' ∉ classLead) (token : Token) (t : Text) :
    stripMarks (Markup.write (ofToken classLead token) ++ t) =
      escape token.text ++ stripMarks t := by
  have noTag := (isEscaped_escape token.text).noLess
  rw [ofToken]
  cases kind : token.kind.cssClass? with
  | none => exact stripMarks_append noTag t
  | some name =>
    have value : '"' ∉ classLead ++ name.toList :=
      List.not_mem_append h (quote_notMem_cssClass kind)
    dsimp only
    rw [Markup.write, writeAll, writeAll, Markup.write, List.append_nil, List.append_assoc,
      List.append_assoc, stripMarks_tag (by simp [openTag]) (afterMarkTag?_openTag value _),
      stripMarks_append noTag, stripMarks_tag (by simp [closeTag]) (afterMarkTag?_closeTag t)]

/-- Without the tags of their marks, tokens are their escaped text. -/
lemma stripMarks_writeTokens (h : '"' ∉ classLead) (tokens : List Token) :
    stripMarks (writeTokens classLead tokens) = escape (Token.join tokens) := by
  induction tokens with
  | nil => simp [writeTokens, ofTokens, writeAll, stripMarks, Text.replaceEach, Token.join, escape]
  | cons token tokens ih =>
    have first : writeTokens classLead (token :: tokens) =
        Markup.write (ofToken classLead token) ++ writeTokens classLead tokens := by
      rw [writeTokens, ofTokens, List.map_cons, writeAll]
      rfl
    rw [first, stripMarks_ofToken h, ih, Token.join_cons, escape, escape, escape,
      List.flatMap_append]

/-- Without the tags of its marks, a highlighted snippet is the escaped snippet. -/
lemma stripMarks_write (h : '"' ∉ classLead) (t : Text) :
    stripMarks (write classLead t) = escape t := by
  have tokens : write classLead t = writeTokens classLead (Token.ofText t) := rfl
  rw [tokens, stripMarks_writeTokens h, Token.join_ofText]

/-- Highlighting loses nothing and adds nothing but the tags of its marks: without them, and with the
entities put back, a highlighted snippet is the snippet, and what is left without the tags has nothing
in it that has a meaning in markup. -/
theorem unescape_stripMarks_write (s : HighlightSettings) (sound : s.fault? = none) (t : Text) :
    unescape (stripMarks (write s.classLead t)) = t ∧
      IsEscaped (stripMarks (write s.classLead t)) := by
  rw [stripMarks_write (HighlightSettings.quote_notMem_classLead sound)]
  exact ⟨unescape_escape t, isEscaped_escape t⟩

/-- A snippet that looks like markup is read back too. -/
theorem unescape_stripMarks_write_closeTag :
    HighlightSettings.fault? ⟨"tok-".toList⟩ = none ∧
      unescape (stripMarks (write "tok-".toList "in </span> &lt;".toList)) =
        "in </span> &lt;".toList ∧
      IsEscaped (stripMarks (write "tok-".toList "in </span> &lt;".toList)) := by
  have sound : HighlightSettings.fault? ⟨"tok-".toList⟩ = none := by decide
  exact ⟨sound, unescape_stripMarks_write ⟨"tok-".toList⟩ sound "in </span> &lt;".toList⟩

end Highlight

end SnippetCost
