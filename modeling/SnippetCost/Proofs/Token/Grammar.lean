import SnippetCost.Proofs.Text.Search
import SnippetCost.Proofs.Text.Trim
import SnippetCost.Proofs.Token.Cutting
import SnippetCost.Proofs.Token.StringBody

/-!
# Cutting follows the grammar

A line is cut into the one list of tokens that the grammar of lines allows. The grammar names no order
among its kinds of tokens; they need none, since no character begins two of them.

One token that is cut is one of the grammar, `isCodeToken_first`, and the only one,
`IsCodeToken.first_eq`. Over code this is `areCodeTokens_ofCode` and `AreCodeTokens.ofCode_join`, over
a line `areLineTokens_ofLine` and `AreLineTokens.ofLine_join`. The main result is `eq_ofLine_iff`.
-/

namespace SnippetCost

/-- A code point before all ranges is in none. -/
lemma Ranges.has_of_lt {t : Ranges} {lo hi n : Nat} (h : n < lo) :
    has ((lo, hi) :: t) n = false := by
  rw [has, decide_eq_false (Nat.not_le.2 h), Bool.false_and]

/-- A digit is no letter. -/
lemma isLetter_of_isAsciiDigit {c : Char} (h : isAsciiDigit c) : isLetter c = false := by
  rw [isAsciiDigit, Bool.and_eq_true, decide_eq_true_eq, decide_eq_true_eq] at h
  -- all letters stand behind the digits
  have le : c.toNat ≤ 0x39 := h.2
  exact Ranges.has_of_lt (Nat.lt_of_le_of_lt le (by decide))

namespace Vocabulary

variable {word : Text}

/-- A keyword is of the kind of keywords. -/
lemma kindOf_keyword (h : word ∈ keywords) : kindOf word = .keyword := by
  have found : isKeyword word := List.contains_iff_mem.2 h
  rw [kindOf, if_pos found]

/-- A built-in name is of the kind of built-in names. -/
lemma kindOf_builtin (noKeyword : word ∉ keywords) (h : word ∈ builtins) :
    kindOf word = .builtin := by
  have none : ¬ isKeyword word := fun found => noKeyword (List.contains_iff_mem.1 found)
  have found : isBuiltin word := List.contains_iff_mem.2 h
  rw [kindOf, if_neg none, if_pos found]

/-- Any other name is plain. -/
lemma kindOf_name (noKeyword : word ∉ keywords) (noBuiltin : word ∉ builtins) :
    kindOf word = .plain := by
  have none : ¬ isKeyword word := fun found => noKeyword (List.contains_iff_mem.1 found)
  have noneEither : ¬ isBuiltin word := fun found => noBuiltin (List.contains_iff_mem.1 found)
  rw [kindOf, if_neg none, if_neg noneEither]

end Vocabulary

namespace Token

variable {start more : Char → Prop} {p : Char → Bool} {c : Char} {run rest t : Text} {token : Token}
  {tokens : List Token}

/-- A run is cut where it stops. -/
lemma cutRun_eq (all : ∀ c ∈ run, p c) (stops : ∀ c ∈ rest.head?, ¬ p c) :
    cutRun p (run ++ rest) = (run, rest) := by
  obtain ⟨taken, left⟩ := Text.run_append all fun c mem => Bool.eq_false_iff.2 (stops c mem)
  rw [cutRun, taken, left]

/-- Cutting a run gives a longest run. -/
lemma isRun_cutRun (hp : ∀ c, p c ↔ more c) (hc : start c) (goesOn : more c) (t : Text) :
    IsRun start more (c :: (cutRun p t).1) (cutRun p t).2 where
  begins := ⟨c, rfl, hc⟩
  all := by
    rw [List.forall_mem_cons]
    refine ⟨goesOn, fun d mem => (hp d).1 ?_⟩
    exact List.all_eq_true.1 List.all_takeWhile d mem
  stops := by
    intro d mem goesOn
    have stop := List.head?_dropWhile_not p t
    have head : (t.dropWhile p).head? = some d := mem
    rw [head] at stop
    have holds := (hp d).2 goesOn
    rw [stop] at holds
    cases holds

/-- A longest run is what cutting gives. -/
lemma IsRun.cutRun_eq (h : IsRun start more run rest) (hp : ∀ c, p c ↔ more c)
    (e : run ++ rest = c :: t) :
    start c ∧ ∃ behind, run = c :: behind ∧ cutRun p t = (behind, rest) := by
  obtain ⟨d, head, begins⟩ := h.begins
  obtain ⟨behind, rfl⟩ := List.head?_eq_some_iff.1 head
  obtain ⟨rfl, rfl⟩ := List.cons.inj e
  refine ⟨begins, behind, rfl, Token.cutRun_eq ?_ ?_⟩
  · intro c mem
    exact (hp c).2 (h.all c (.tail _ mem))
  · intro c mem
    rw [hp c]
    exact h.stops c mem

/-- The test for the characters of a number is exact. -/
lemma isNumberChar_iff (c : Char) : isNumberChar c ↔ isAsciiDigit c ∨ c = '.' := by
  simp [isNumberChar]

/-- The test for the characters of a name is exact. -/
lemma isNameChar_iff (c : Char) : isNameChar c ↔ isAlphanumeric c ∨ c = '_' := by
  simp [isNameChar, or_comm]

/-- The test for the first character of a name is exact. -/
lemma isNameStart_iff (c : Char) : isNameStart c ↔ isLetter c ∨ c = '_' := by
  simp [isNameStart, or_comm]

/-- A quote is no blank. -/
lemma isBlank_of_isQuote (h : IsQuote c) : isBlank c = false := by
  rcases h with rfl | rfl <;> decide

/-- A quote is no backslash. -/
lemma backslash_of_isQuote (h : IsQuote c) : c ≠ '\\' := by
  rcases h with rfl | rfl <;> decide

/-- A digit is no quote. -/
lemma not_isQuote_of_isAsciiDigit (h : isAsciiDigit c) : ¬ IsQuote c := by
  rintro (rfl | rfl) <;> cases h

/-- No name begins with a quote. -/
lemma not_isQuote_of_isNameStart (h : isNameStart c) : ¬ IsQuote c := by
  rintro (rfl | rfl)
  · have : isNameStart '\'' = false := by decide
    rw [this] at h
    cases h
  · have : isNameStart '"' = false := by decide
    rw [this] at h
    cases h

/-- A blank begins a run of blanks. -/
lemma first_of_isBlank (h : isBlank c) (t : Text) :
    first c t = (⟨.plain, c :: (cutRun isBlank t).1⟩, (cutRun isBlank t).2) := by
  rw [first, if_pos h]

/-- A quote begins a string. -/
lemma first_of_isQuote (h : IsQuote c) (t : Text) :
    first c t = (⟨.string, c :: (cutString c t).1⟩, (cutString c t).2) := by
  have solid := isBlank_of_isQuote h
  have quote : (c = '\'' || c = '"') = true := by simpa [IsQuote] using h
  rw [first, solid, if_neg Bool.false_ne_true, if_pos quote]

/-- A digit begins a number. -/
lemma first_of_isAsciiDigit (h : isAsciiDigit c) (t : Text) :
    first c t = (⟨.number, c :: (cutRun isNumberChar t).1⟩, (cutRun isNumberChar t).2) := by
  have solid := isBlank_of_isAsciiDigit h
  have noQuote : ¬ (c = '\'' || c = '"') = true := by
    simpa [IsQuote] using not_isQuote_of_isAsciiDigit h
  rw [first, solid, if_neg Bool.false_ne_true, if_neg noQuote, if_pos h]

/-- A character that begins a name begins a word. -/
lemma first_of_isNameStart (h : isNameStart c) (t : Text) :
    first c t =
      (⟨Vocabulary.kindOf (c :: (cutRun isNameChar t).1), c :: (cutRun isNameChar t).1⟩,
        (cutRun isNameChar t).2) := by
  have solid := isBlank_of_isNameStart h
  have noQuote : ¬ (c = '\'' || c = '"') = true := by
    simpa [IsQuote] using not_isQuote_of_isNameStart h
  have noDigit : ¬ isAsciiDigit c := by
    intro digit
    rcases (isNameStart_iff c).1 h with letter | rfl
    · rw [isLetter_of_isAsciiDigit digit] at letter
      cases letter
    · cases digit
  rw [first, solid, if_neg Bool.false_ne_true, if_neg noQuote, if_neg noDigit, if_pos h]

/-- Any other character is a token of its own. -/
lemma first_of_other (solid : isBlank c = false) (noQuote : ¬ IsQuote c)
    (noDigit : isAsciiDigit c = false) (noName : isNameStart c = false) (t : Text) :
    first c t = (⟨.plain, [c]⟩, t) := by
  have noQuote : ¬ (c = '\'' || c = '"') = true := by simpa [IsQuote] using noQuote
  rw [first, solid, if_neg Bool.false_ne_true, if_neg noQuote, noDigit, if_neg Bool.false_ne_true,
    noName, if_neg Bool.false_ne_true]

/-- What is cut as a word is a word of the grammar. -/
lemma isWord_cutRun (h : isNameStart c) (t : Text) :
    IsWord (c :: (cutRun isNameChar t).1) (cutRun isNameChar t).2 := by
  have begins := (isNameStart_iff c).1 h
  refine isRun_cutRun isNameChar_iff begins (begins.imp_left ?_) t
  intro letter
  rw [isAlphanumeric, letter, Bool.true_or, Bool.true_or]

/-- A word is a token of the kind that its vocabulary gives it. -/
lemma IsWord.isCodeToken (word : IsWord run rest) :
    IsCodeToken ⟨Vocabulary.kindOf run, run⟩ rest := by
  by_cases keyword : run ∈ Vocabulary.keywords
  · rw [Vocabulary.kindOf_keyword keyword]
    exact .keyword word keyword
  by_cases builtin : run ∈ Vocabulary.builtins
  · rw [Vocabulary.kindOf_builtin keyword builtin]
    exact .builtin word keyword builtin
  · rw [Vocabulary.kindOf_name keyword builtin]
    exact .name word keyword builtin

/-- The first token that cutting finds is one of the grammar. -/
lemma isCodeToken_first (c : Char) (t : Text) : IsCodeToken (first c t).1 (first c t).2 := by
  by_cases blank : isBlank c
  · rw [first_of_isBlank blank]
    exact .gap (isRun_cutRun (fun _ => Iff.rfl) blank blank t)
  by_cases quote : IsQuote c
  · rw [first_of_isQuote quote]
    exact .string quote (isStringBody_cutString (backslash_of_isQuote quote) t)
  by_cases digit : isAsciiDigit c
  · rw [first_of_isAsciiDigit digit]
    exact .number (isRun_cutRun isNumberChar_iff digit (.inl digit) t)
  by_cases begins : isNameStart c
  · rw [first_of_isNameStart begins]
    exact (isWord_cutRun begins t).isCodeToken
  · have solid : isBlank c = false := by simpa using blank
    have noDigit : isAsciiDigit c = false := by simpa using digit
    have noName : isNameStart c = false := by simpa using begins
    have neither : ¬ (isLetter c ∨ c = '_') := by rwa [← isNameStart_iff]
    obtain ⟨noLetter, noUnderscore⟩ := not_or.1 neither
    rw [first_of_other solid quote noDigit noName]
    exact .other solid quote noDigit (by simpa using noLetter) noUnderscore

/-- A word of the grammar is what is cut. -/
lemma IsWord.first_eq (word : IsWord run rest) (e : run ++ rest = c :: t) :
    first c t = (⟨Vocabulary.kindOf run, run⟩, rest) := by
  obtain ⟨begins, behind, rfl, cut⟩ := word.cutRun_eq isNameChar_iff e
  rw [first_of_isNameStart ((isNameStart_iff c).2 begins), cut]

/-- A token of the grammar is the first that cutting finds. -/
lemma IsCodeToken.first_eq (h : IsCodeToken token rest) (e : token.text ++ rest = c :: t) :
    first c t = (token, rest) := by
  cases h with
  | gap gap =>
    obtain ⟨blank, behind, rfl, cut⟩ := gap.cutRun_eq (fun _ => Iff.rfl) e
    rw [first_of_isBlank blank, cut]
  | @string quote body _ hq string =>
    obtain ⟨rfl, rfl⟩ := List.cons.inj e
    have cut : cutString quote (body ++ rest) = (body, rest) :=
      string.cutString_eq (backslash_of_isQuote hq)
    rw [first_of_isQuote hq]
    show (Token.mk .string (quote :: (cutString quote (body ++ rest)).1),
      (cutString quote (body ++ rest)).2) = _
    rw [cut]
  | number numeral =>
    obtain ⟨digit, behind, rfl, cut⟩ := numeral.cutRun_eq isNumberChar_iff e
    rw [first_of_isAsciiDigit digit, cut]
  | keyword word mem => rw [word.first_eq e, Vocabulary.kindOf_keyword mem]
  | builtin word noKeyword mem => rw [word.first_eq e, Vocabulary.kindOf_builtin noKeyword mem]
  | name word noKeyword noBuiltin =>
    rw [word.first_eq e, Vocabulary.kindOf_name noKeyword noBuiltin]
  | @other d _ solid noQuote noDigit noLetter noUnderscore =>
    obtain ⟨rfl, rfl⟩ := List.cons.inj e
    have noName : isNameStart d = false := by simp [isNameStart, noLetter, noUnderscore]
    exact first_of_other solid noQuote noDigit noName _

/-- Cutting text without comments gives tokens of the grammar. -/
lemma areCodeTokens_ofCode (t : Text) : AreCodeTokens (ofCode t) := by
  fun_induction ofCode t with
  | case1 => exact .nil
  | case2 c rest ih =>
    refine .cons ?_ ih
    rw [join_ofCode]
    exact isCodeToken_first c rest

/-- A run is not empty. -/
lemma IsRun.ne_nil (h : IsRun start more run rest) : run ≠ [] := by
  obtain ⟨c, head, -⟩ := h.begins
  rintro rfl
  cases head

/-- A token of code is not empty. -/
lemma IsCodeToken.text_ne_nil (h : IsCodeToken token rest) : token.text ≠ [] := by
  cases h with
  | gap run | number run => exact run.ne_nil
  | keyword word | builtin word | name word => exact word.ne_nil
  | string | other => exact List.cons_ne_nil _ _

/-- Tokens of the grammar are what cutting their text gives. -/
lemma AreCodeTokens.ofCode_join (h : AreCodeTokens tokens) : ofCode (join tokens) = tokens := by
  induction h with
  | nil => rw [join, List.flatMap_nil, ofCode]
  | @cons token tokens first _ ih =>
    obtain ⟨c, behind, e⟩ := List.exists_cons_of_ne_nil first.text_ne_nil
    have head := first.first_eq (c := c) (t := behind ++ join tokens) (by rw [e, List.cons_append])
    rw [join_cons, e, List.cons_append, ofCode, head, ih]

/-- A line of blanks is one plain token. -/
lemma ofLine_of_isBlanks {line : Text} (ne : line ≠ []) (blanks : Text.IsBlanks line) :
    ofLine line = [⟨.plain, line⟩] := by
  rw [ofLine, if_neg ne, Text.trimStart_of_isBlanks blanks]

/-- A line that begins with a comment is one token. -/
lemma ofLine_of_comment {lead : Text} (blanks : Text.IsBlanks lead) (rest : Text) :
    ofLine (lead ++ '#' :: rest) = [⟨.comment, lead ++ '#' :: rest⟩] := by
  have trimmed : Text.trimStart (lead ++ '#' :: rest) = '#' :: rest := by
    rw [Text.trimStart_append blanks, Text.trimStart_cons_of_not_isBlank (by decide)]
  rw [ofLine, if_neg (by simp), trimmed]
  rfl

/-- A line that says something before its first number sign is cut there. -/
lemma ofLine_append {code behind : Text} (noSign : '#' ∉ code)
    (content : ∃ c ∈ code, isBlank c = false) (sign : ∀ c ∈ behind.head?, c = '#') :
    ofLine (code ++ behind) = ofCode code ++ comment? behind := by
  have others : ∀ c ∈ code, decide (c ≠ '#') := by
    intro c mem
    rw [decide_eq_true_eq]
    rintro rfl
    exact noSign mem
  have stops : ∀ c ∈ behind.head?, ¬ decide (c ≠ '#') := by
    intro c mem
    simp [sign c mem]
  obtain ⟨run, after⟩ := Prod.mk.inj (cutRun_eq others stops)
  obtain ⟨c, mem, solid⟩ := content
  have ne : code ++ behind ≠ [] := List.append_ne_nil_of_left_ne_nil (List.ne_nil_of_mem mem) _
  obtain ⟨d, rest, hd, trimmed⟩ := Text.exists_trimStart_append ⟨c, mem, solid⟩ behind
  have noComment : d ≠ '#' := by
    rintro rfl
    exact noSign hd
  rw [ofLine, if_neg ne, trimmed, run, after]
  split
  · next e => cases e
  · next e => exact absurd (List.cons.inj e).1 noComment
  · rfl

/-- Every line is empty or blank, a comment behind blanks, or says something before its first number
sign. -/
lemma line_cases (line : Text) :
    line = [] ∨ line ≠ [] ∧ Text.IsBlanks line ∨
      (∃ lead rest, Text.IsBlanks lead ∧ line = lead ++ '#' :: rest) ∨
      ∃ code behind, line = code ++ behind ∧ '#' ∉ code ∧ (∃ c ∈ code, isBlank c = false) ∧
        ∀ c ∈ behind.head?, c = '#' := by
  have whole := List.takeWhile_append_dropWhile (p := fun c => decide (c ≠ '#')) (l := line)
  have noSign : '#' ∉ line.takeWhile (· ≠ '#') := by
    intro mem
    have := List.all_eq_true.1 List.all_takeWhile _ mem
    simp at this
  have sign : ∀ c ∈ (line.dropWhile (· ≠ '#')).head?, c = '#' := by
    intro c mem
    have stop := List.head?_dropWhile_not (fun c => decide (c ≠ '#')) line
    have head : (line.dropWhile (· ≠ '#')).head? = some c := mem
    rw [head] at stop
    simpa using stop
  generalize line.takeWhile (· ≠ '#') = code at whole noSign
  generalize line.dropWhile (· ≠ '#') = behind at whole sign
  subst whole
  by_cases content : ∃ c ∈ code, isBlank c = false
  · exact .inr (.inr (.inr ⟨code, behind, rfl, noSign, content, sign⟩))
  · have blanks : Text.IsBlanks code := by
      intro c mem
      cases blank : isBlank c with
      | true => rfl
      | false => exact absurd ⟨c, mem, blank⟩ content
    cases behind with
    | nil =>
      rw [List.append_nil]
      by_cases empty : code = []
      · exact .inl empty
      · exact .inr (.inl ⟨empty, blanks⟩)
    | cons c rest =>
      obtain rfl : c = '#' := sign c rfl
      exact .inr (.inr (.inl ⟨code, rest, blanks, rfl⟩))

/-- Cutting a line gives tokens of the grammar. -/
lemma areLineTokens_ofLine (line : Text) : AreLineTokens (ofLine line) := by
  rcases line_cases line with rfl | ⟨ne, blanks⟩ | ⟨lead, rest, blanks, rfl⟩ |
    ⟨code, behind, rfl, noSign, content, sign⟩
  · exact .empty
  · rw [ofLine_of_isBlanks ne blanks]
    exact .blank ne blanks
  · rw [ofLine_of_comment blanks]
    exact .comment blanks
  · rw [ofLine_append noSign content sign]
    have tokens := areCodeTokens_ofCode code
    rw [← join_ofCode code] at noSign content
    cases behind with
    | nil =>
      rw [comment?, List.append_nil]
      exact .code tokens noSign content
    | cons c rest =>
      obtain rfl : c = '#' := sign c rfl
      exact .commented tokens noSign content

/-- Tokens of the grammar are what cutting their line gives. -/
lemma AreLineTokens.ofLine_join (h : AreLineTokens tokens) : ofLine (join tokens) = tokens := by
  cases h with
  | empty => rfl
  | blank ne blanks =>
    rw [join_singleton]
    exact ofLine_of_isBlanks ne blanks
  | comment blanks =>
    rw [join_singleton]
    exact ofLine_of_comment blanks _
  | code code noSign content =>
    have cut : ofLine (join tokens ++ []) = ofCode (join tokens) ++ comment? [] :=
      ofLine_append noSign content (by simp)
    rwa [List.append_nil, code.ofCode_join, comment?, List.append_nil] at cut
  | commented code noSign content =>
    rw [join_append, join_singleton, ofLine_append noSign content (by simp), code.ofCode_join]
    rfl

/-- No token of code is empty. -/
lemma AreCodeTokens.text_ne_nil (h : AreCodeTokens tokens) : ∀ k ∈ tokens, k.text ≠ [] := by
  induction h with
  | nil => exact fun _ mem => nomatch mem
  | cons first _ ih => exact List.forall_mem_cons.2 ⟨first.text_ne_nil, ih⟩

/-- No token of a line is empty. -/
lemma AreLineTokens.text_ne_nil (h : AreLineTokens tokens) : ∀ k ∈ tokens, k.text ≠ [] := by
  cases h with
  | empty => exact fun _ mem => nomatch mem
  | blank ne => simpa using ne
  | comment => simp
  | code code => exact code.text_ne_nil
  | commented code =>
    rw [List.forall_mem_append]
    exact ⟨code.text_ne_nil, by simp⟩

/-- A line is cut into the one list of tokens that are not empty, make up the line, and follow the
grammar of lines. -/
theorem eq_ofLine_iff (line : Text) (tokens : List Token) :
    tokens = ofLine line ↔
      (∀ k ∈ tokens, k.text ≠ []) ∧ join tokens = line ∧ AreLineTokens tokens := by
  constructor
  · rintro rfl
    have grammar := areLineTokens_ofLine line
    exact ⟨grammar.text_ne_nil, join_ofLine line, grammar⟩
  · rintro ⟨-, rfl, grammar⟩
    exact grammar.ofLine_join.symm

end Token

end SnippetCost
