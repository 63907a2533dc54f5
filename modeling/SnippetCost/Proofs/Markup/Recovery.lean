import SnippetCost.Proofs.Markup.Stripping
import SnippetCost.Proofs.Token.Merged

/-!
# Tokens are told from their markup

What is written of tokens tells the tokens as far as they can be seen: a mark begins with an angle,
which no escaped text has in it, names the kind of its token up to the next quote, and ends at the next
angle. Only where plain text is cut, and whether an empty plain token is there, cannot be told.

A mark is told from what follows it by `write_ofToken_append_inj`, and plain text by
`escape_append_inj`; together they make merged tokens the only ones of their markup,
`writeTokens_inj`. The main result is `writeTokens_eq_writeTokens_iff`.
-/

namespace SnippetCost

open Markup

namespace TokenKind

variable {j k : TokenKind}

/-- A kind is found by its name. -/
lemma ofName?_name (k : TokenKind) : ofName? k.name.toList = some k := by
  cases k <;> decide

/-- Kinds of one name are one kind. -/
lemma eq_of_name (h : j.name.toList = k.name.toList) : j = k := by
  have found := ofName?_name j
  rwa [h, ofName?_name, Option.some_inj, eq_comm] at found

/-- Every kind but the plain one has its name for a class. -/
lemma cssClass?_of_ne (h : k ≠ .plain) : k.cssClass? = some k.name := by
  cases k with
  | plain => exact absurd rfl h
  | keyword | builtin | string | number | comment => rfl

end TokenKind

namespace Highlight

variable {classLead t u v : Text} {token other : Token} {tokens ts us : List Token}

/-- Tokens are written one behind another. -/
lemma writeTokens_cons (classLead : Text) (token : Token) (tokens : List Token) :
    writeTokens classLead (token :: tokens) =
      (ofToken classLead token).write ++ writeTokens classLead tokens := rfl

/-- A plain token is written as its escaped text. -/
lemma write_ofToken_plain (classLead t : Text) :
    (ofToken classLead ⟨.plain, t⟩).write = escape t := by
  rw [ofToken, TokenKind.cssClass?]
  exact Markup.write.eq_1 t

/-- A token that is not plain is written as a mark, in which its kind stands between the prefix and
the next quote, and its text between there and the next angle. -/
lemma write_ofToken_append (mark : token.isPlain = false) (classLead u : Text) :
    (ofToken classLead token).write ++ u =
      "<span class=\"".toList ++ classLead ++ (token.kind.name.toList ++ ("\">".toList ++
        (escape token.text ++ (closeTag .mark ++ u)))) := by
  have kind := TokenKind.cssClass?_of_ne (k := token.kind) (by simpa [Token.isPlain] using mark)
  have opening : openTag .mark (some (classLead ++ token.kind.name.toList)) =
      "<span class=\"".toList ++ classLead ++ (token.kind.name.toList ++ "\">".toList) := by
    simp [openTag, Tag.name]
  rw [ofToken, kind]
  dsimp only
  rw [Markup.write, writeAll, writeAll, Markup.write, List.append_nil, opening]
  simp only [List.append_assoc]

/-- A mark can be told from what stands behind it. -/
lemma write_ofToken_append_inj (mark : token.isPlain = false) (mark' : other.isPlain = false)
    (e : (ofToken classLead token).write ++ u = (ofToken classLead other).write ++ v) :
    token = other ∧ u = v := by
  rw [write_ofToken_append mark, write_ofToken_append mark'] at e
  have quote (k : TokenKind) : '"' ∉ k.name.toList := by
    cases k <;> decide
  have angle (t : Text) : Text.Passes (closeTag .mark) (escape t) :=
    Text.passes_of_notMem (isEscaped_escape t).noLess
  obtain ⟨kind, e⟩ := (Text.passes_of_notMem (quote _)).append_inj (by simp)
    (Text.passes_of_notMem (quote _)) (List.append_cancel_left e)
  obtain ⟨text, behind⟩ := (angle _).append_inj (by simp [closeTag]) (angle _) e
  obtain ⟨j, s⟩ := token
  obtain ⟨k, t⟩ := other
  obtain rfl := TokenKind.eq_of_name kind
  obtain rfl : s = t := escape_inj text
  exact ⟨rfl, behind⟩

/-- Where a marked token comes first, the markup begins with an angle. -/
lemma head?_writeTokens_mark (mark : token.isPlain = false) (tokens : List Token) :
    (writeTokens classLead (token :: tokens)).head? = some '<' := by
  rw [writeTokens_cons, write_ofToken_append mark]
  rfl

/-- Where a plain token comes first that is not empty, the markup begins with no angle. -/
lemma head?_writeTokens_plain (ne : t ≠ []) (tokens : List Token) :
    ∃ c, c ≠ '<' ∧ (writeTokens classLead (⟨.plain, t⟩ :: tokens)).head? = some c := by
  have less := (isEscaped_escape t).noLess
  rw [writeTokens_cons, write_ofToken_plain]
  obtain ⟨c, rest, shape⟩ := List.exists_cons_of_ne_nil (escape_ne_nil ne)
  rw [shape] at less ⊢
  refine ⟨c, ?_, rfl⟩
  rintro rfl
  exact less List.mem_cons_self

/-- Where no plain token comes first, the markup begins with an angle or is empty. -/
lemma head?_writeTokens_apart (h : ∀ next ∈ tokens.head?, next.isPlain = false) :
    ∀ c ∈ (writeTokens classLead tokens).head?, c = '<' := by
  cases tokens with
  | nil => exact fun c mem => nomatch mem
  | cons token tokens =>
    intro c mem
    rw [head?_writeTokens_mark (h token rfl)] at mem
    exact (Option.mem_some.1 mem).symm

/-- Plain text can be told from what stands behind it, unless that is plain too. -/
lemma escape_append_inj (apart : ∀ next ∈ ts.head?, next.isPlain = false)
    (apart' : ∀ next ∈ us.head?, next.isPlain = false)
    (e : escape t ++ writeTokens classLead ts = escape u ++ writeTokens classLead us) :
    t = u ∧ writeTokens classLead ts = writeTokens classLead us := by
  have all (t : Text) : ∀ c ∈ escape t, decide (c ≠ '<') := by
    intro c mem
    rw [decide_eq_true_eq]
    rintro rfl
    exact (isEscaped_escape t).noLess mem
  have stops {tokens : List Token} (apart : ∀ next ∈ tokens.head?, next.isPlain = false) :
      ∀ c ∈ (writeTokens classLead tokens).head?, decide (c ≠ '<') = false := by
    intro c mem
    simp [head?_writeTokens_apart apart c mem]
  obtain ⟨run, behind⟩ := Text.run_append (all t) (stops apart)
  obtain ⟨run', behind'⟩ := Text.run_append (all u) (stops apart')
  rw [e, run'] at run
  rw [e, behind'] at behind
  exact ⟨escape_inj run.symm, behind.symm⟩

/-- Merged tokens are told from what is written of them. -/
lemma writeTokens_inj (hs : Token.IsMerged ts) (hu : Token.IsMerged us)
    (e : writeTokens classLead ts = writeTokens classLead us) : ts = us := by
  have head := congrArg List.head? e
  induction hs generalizing us with
  | nil =>
    cases hu with
    | nil => rfl
    | mark mark =>
      rw [head?_writeTokens_mark mark] at head
      cases head
    | plain ne =>
      obtain ⟨c, -, first⟩ := head?_writeTokens_plain ne _
      rw [first] at head
      cases head
  | mark mark _ ih =>
    cases hu with
    | nil =>
      rw [head?_writeTokens_mark mark] at head
      cases head
    | mark mark' hu =>
      obtain ⟨rfl, behind⟩ := write_ofToken_append_inj mark mark' e
      rw [ih hu behind (congrArg List.head? behind)]
    | plain ne =>
      obtain ⟨c, less, first⟩ := head?_writeTokens_plain ne _
      rw [head?_writeTokens_mark mark, first, Option.some_inj] at head
      exact absurd head.symm less
  | plain ne apart _ ih =>
    cases hu with
    | nil =>
      obtain ⟨c, -, first⟩ := head?_writeTokens_plain ne _
      rw [first] at head
      cases head
    | mark mark =>
      obtain ⟨c, less, first⟩ := head?_writeTokens_plain ne _
      rw [head?_writeTokens_mark mark, first, Option.some_inj] at head
      exact absurd head less
    | plain _ apart' hu =>
      simp only [writeTokens_cons, write_ofToken_plain] at e
      obtain ⟨rfl, behind⟩ := escape_append_inj apart apart' e
      rw [ih hu behind (congrArg List.head? behind)]

/-- Merging plain tokens does not change the markup. -/
lemma writeTokens_merged (classLead : Text) (tokens : List Token) :
    writeTokens classLead (Token.merged tokens) = writeTokens classLead tokens := by
  refine (Token.eq_merged (writeTokens classLead) ?_ ?_ ?_ tokens).symm
  · intro token ts us e
    rw [writeTokens_cons, writeTokens_cons, e]
  · intro tokens
    rw [writeTokens_cons, write_ofToken_plain]
    rfl
  · intro t u tokens
    simp only [writeTokens_cons, write_ofToken_plain, escape_append, List.append_assoc]

/-- Tokens that are written alike make up the same text, with the same marks at the same places. -/
lemma join_marks_of_merged (h : Token.merged ts = Token.merged us) :
    Token.join ts = Token.join us ∧ Token.marks ts = Token.marks us := by
  constructor
  · rw [← Token.join_merged ts, h, Token.join_merged]
  · rw [Token.marks, ← Token.marksFrom_merged 0 ts, h, Token.marksFrom_merged, Token.marks]

/-- Tokens are written alike exactly if they are the same when merged. -/
lemma writeTokens_eq_iff : writeTokens classLead ts = writeTokens classLead us ↔
    Token.merged ts = Token.merged us := by
  constructor
  · intro e
    rw [← writeTokens_merged classLead ts, ← writeTokens_merged classLead us] at e
    exact writeTokens_inj (Token.isMerged_merged ts) (Token.isMerged_merged us) e
  · intro e
    rw [← writeTokens_merged, e, writeTokens_merged]

/-- Whatever the prefix of the classes, tokens are written alike exactly when they are the same but for
empty plain tokens and for where plain text is cut. So what is written tells the text and the marks at
their places in it, and of a snippet it tells everything. -/
theorem writeTokens_eq_writeTokens_iff (classLead : Text) (ts us : List Token) :
    (writeTokens classLead ts = writeTokens classLead us ↔ Token.merged ts = Token.merged us) ∧
      (writeTokens classLead ts = writeTokens classLead us →
        Token.join ts = Token.join us ∧ Token.marks ts = Token.marks us) ∧
      ∀ t u, write classLead t = write classLead u ↔ t = u := by
  refine ⟨writeTokens_eq_iff, fun e => join_marks_of_merged (writeTokens_eq_iff.1 e), ?_⟩
  intro t u
  constructor
  · intro e
    have seen : Token.merged (Token.ofText t) = Token.merged (Token.ofText u) :=
      writeTokens_eq_iff.1 e
    rw [← Token.join_ofText t, (join_marks_of_merged seen).1, Token.join_ofText]
  · rintro rfl
    rfl

/-- Plain text that looks like the end of a mark, cut within it and behind it, and a keyword. -/
def cutPlain : List Token :=
  [⟨.plain, "</sp".toList⟩, ⟨.plain, []⟩, ⟨.plain, "an>".toList⟩, ⟨.keyword, "for".toList⟩,
    ⟨.plain, []⟩]

/-- The same in one piece. -/
def uncutPlain : List Token :=
  [⟨.plain, "</span>".toList⟩, ⟨.keyword, "for".toList⟩]

/-- Where plain text is cut cannot be told, and whether there is an empty mark can. -/
theorem writeTokens_eq_writeTokens_iff_cutPlain :
    writeTokens "tok-".toList cutPlain = writeTokens "tok-".toList uncutPlain ∧
      Token.join cutPlain = Token.join uncutPlain ∧ Token.marks cutPlain = Token.marks uncutPlain ∧
      writeTokens "tok-".toList [⟨.string, []⟩] ≠ writeTokens "tok-".toList [] := by
  obtain ⟨iff, seen, -⟩ := writeTokens_eq_writeTokens_iff "tok-".toList cutPlain uncutPlain
  have same := iff.2 (by decide)
  obtain ⟨text, marks⟩ := seen same
  refine ⟨same, text, marks, ?_⟩
  intro e
  have merged := (writeTokens_eq_writeTokens_iff "tok-".toList [⟨.string, []⟩] []).1.1 e
  cases merged

end Highlight

end SnippetCost
