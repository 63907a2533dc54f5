import SnippetCost.Proofs.Yaml.Scalar

/-!
# Cutting a written document into tokens

A member of a written mapping is cut in three steps: its key, which is held back, its colon, which
begins the mapping before the first key, and its leaf. Where the value is a mapping, its own members
take the place of the leaf. A mapping ends only where the next token is looked for, at the line behind
it.

The three steps of a member are `cut_key`, `cut_colon` and `cut_leaf`, and `cut_header` takes the
first two together. The induction over trees is `cut_member` and `cut_members`. The main result is
`tokens?_write`.
-/

namespace SnippetCost.Yaml

variable {c : Char} {t rest key : Text} {line column place : Nat} {columns base : List Nat}
  {tokens opened : List Token}

/-- What lies outside of a column lies outside of the columns to the right of it. -/
lemma IsOutside.mono {k : Nat} (h : IsOutside k t) (le : k ≤ column) : IsOutside column t := by
  rcases h with rfl | ⟨n, hn, rest⟩
  · exact .inl rfl
  · exact .inr ⟨n, Nat.le_trans hn le, rest⟩

/-- What is outside begins no column behind its own. -/
lemma IsOutside.column_skipGap (h : IsOutside column t) (line : Nat) :
    ((⟨line, 0, true, t⟩ : Cursor).skipGap false).column ≤ column := by
  rcases h with rfl | ⟨k, le, c, rest, hc, rfl⟩
  · exact Nat.zero_le _
  · rw [Cursor.skipGap, Cursor.skipGapFrom_indent hc]
    simpa using le

namespace Tree

/-- The next member of a mapping is not within the mapping of its predecessor. -/
lemma isOutside_writeMembers {ms : List (Text × Tree)} (h : AreReadable ms)
    (outside : IsOutside column rest) : IsOutside column (writeMembers column ms ++ rest) := by
  cases ms with
  | nil => exact outside
  | cons m ms =>
    obtain ⟨key, value⟩ := m
    rw [AreReadable] at h
    obtain ⟨c, key, rfl, hc, -⟩ := exists_cons_of_isKeyText h.1
    refine .inr ⟨column, Nat.le_refl _, c, ?_⟩
    cases value <;> simp [writeMembers, writeMember, writeLine, hc]

end Tree

namespace Cutting

/-- Outside braces, with nothing held back. -/
def settled (place : Cursor) (columns : List Nat) (tokens : List Token) : Cutting :=
  { place, columns, tokens }

/-- Outside braces, with the tokens `ts` held back since a column of a line. Where a mapping has begun
in that column, they must be a key. -/
def holding (line column : Nat) (ts : List Token) (place : Cursor) (columns : List Nat)
    (tokens : List Token) : Cutting :=
  let s := settled place columns tokens
  { s with key := some ⟨line, column, s.floor = column + 1, ts⟩ }

/-- With a key held back, before the colon behind it. -/
def behindKey (line column : Nat) (key rest : Text) (columns : List Nat) (tokens : List Token) :
    Cutting :=
  holding line column [.scalar .plain key] ⟨line, column + key.length, false, ':' :: rest⟩ columns
    tokens

/-- Emitting a token several times puts that many before the others. -/
lemma foldl_emit_settled (t : Token) (l : List Nat) (place : Cursor) (columns : List Nat)
    (tokens : List Token) :
    l.foldl (fun s _ => s.emit t) (settled place columns tokens) =
      settled place columns (List.replicate l.length t ++ tokens) := by
  induction l generalizing tokens with
  | nil => rfl
  | cons c l ih =>
    have emitted : (settled place columns tokens).emit t = settled place columns (t :: tokens) := rfl
    rw [List.foldl_cons, emitted, ih, List.length_cons, List.replicate_succ', List.append_assoc]
    rfl

/-- Closing blocks drops their columns and emits an end for each. -/
lemma closeBlocks_settled (p : Nat → Bool) (place : Cursor) (columns : List Nat)
    (tokens : List Token) :
    (settled place columns tokens).closeBlocks p =
      settled place (columns.drop (columns.takeWhile p).length)
        (List.replicate (columns.takeWhile p).length .blockEnd ++ tokens) := by
  have outside : (settled place columns tokens).inBraces = false := rfl
  have held : (settled place columns tokens).columns = columns := rfl
  simp only [closeBlocks, outside, held, foldl_emit_settled]
  rfl

/-- Nothing ends if the innermost mapping does not. -/
lemma closeBlocks_eq_self {p : Nat → Bool} (s : Cutting) (h : ∀ c ∈ s.columns.head?, p c = false) :
    s.closeBlocks p = s := by
  obtain ⟨place, columns, braces, key, tokens⟩ := s
  have none : columns.takeWhile p = [] := by
    cases columns with
    | nil => rfl
    | cons c columns => rw [List.takeWhile_cons_of_neg (by simp [h c rfl])]
  rw [closeBlocks]
  split
  · rfl
  · simp only [none]
    rfl

/-- Mappings end one by one. -/
lemma closeBlocks_settled_cons {p : Nat → Bool} (h : p column) (place : Cursor) :
    (settled place (column :: columns) tokens).closeBlocks p =
      (settled place columns (.blockEnd :: tokens)).closeBlocks p := by
  rw [closeBlocks_settled, closeBlocks_settled, List.takeWhile_cons_of_pos h, List.length_cons,
    List.drop_succ_cons, List.replicate_succ', List.append_assoc]
  rfl

/-- A cutting without a key that is held back closes the blocks that its next place is outside of. -/
lemma advance?_settled {place : Cursor} :
    (settled place columns tokens).advance? =
      some ((settled (place.skipGap false) columns tokens).closeBlocks
        ((place.skipGap false).column < ·)) :=
  rfl

/-- Only the place behind the gap matters to what comes next. -/
lemma advance?_congr {place place' : Cursor} (h : place.skipGap false = place'.skipGap false) :
    (settled place columns tokens).advance? = (settled place' columns tokens).advance? := by
  rw [advance?_settled, advance?_settled, h]

/-- Within the innermost mapping nothing ends. -/
lemma advance?_inside {place next : Cursor} (skip : place.skipGap false = next)
    (inside : ∀ c ∈ columns.head?, c ≤ next.column) (tokens : List Token) :
    (settled place columns tokens).advance? = some (settled next columns tokens) := by
  rw [advance?_settled, skip, closeBlocks_eq_self]
  intro c mem
  simpa using inside c mem

/-- A mapping ends before what is outside it. -/
lemma advance?_outside (outside : IsOutside column rest) {inner : Nat} (lt : column < inner) :
    (settled ⟨line, 0, true, rest⟩ (inner :: columns) tokens).advance? =
      (settled ⟨line, 0, true, rest⟩ columns (.blockEnd :: tokens)).advance? := by
  have deeper := Nat.lt_of_le_of_lt (outside.column_skipGap line) lt
  rw [advance?_settled, advance?_settled, closeBlocks_settled_cons (by simpa using deeper)]

/-- Cutting leads from a state to another one in `n` steps at most. -/
def CutsTo (n : Nat) (s s' : Cutting) : Prop :=
  ∃ k ≤ n, ∀ fuel, run? (fuel + k) s = run? fuel s'

namespace CutsTo

variable {m n : Nat} {s s' s'' : Cutting}

/-- Steps behind steps are steps. -/
lemma trans (h : CutsTo m s s') (h' : CutsTo n s' s'') : CutsTo (m + n) s s'' := by
  obtain ⟨k, hk, run⟩ := h
  obtain ⟨k', hk', run'⟩ := h'
  refine ⟨k' + k, by omega, fun fuel => ?_⟩
  rw [← Nat.add_assoc, run, run']

/-- What a number of steps can do, more can do. -/
lemma mono (h : CutsTo m s s') (le : m ≤ n) : CutsTo n s s' := by
  obtain ⟨k, hk, run⟩ := h
  exact ⟨k, Nat.le_trans hk le, run⟩

/-- The next token alone counts. -/
lemma of_advance? (h : s.advance? = s'.advance?) : CutsTo 0 s s' := by
  refine ⟨0, Nat.le_refl 0, fun fuel => ?_⟩
  cases fuel with
  | zero => rfl
  | succ fuel => rw [Nat.add_zero, run?, run?, h]

/-- Advancing to a place and reading the token there is one step. -/
lemma step {next : Cutting} (advance : s.advance? = some next) (head : next.place.rest = c :: rest)
    (read : next.read? c rest = some s') : CutsTo 1 s s' := by
  refine ⟨1, Nat.le_refl 1, fun fuel => ?_⟩
  rw [run?, advance]
  simp only [Option.bind_eq_bind, Option.bind_some, head, read]

end CutsTo

/-- A column to the right of a block is no further left than the block allows. -/
lemma floor_le (deeper : ∀ c ∈ base.head?, c < column) (place : Cursor) :
    (settled place base tokens).floor ≤ column := by
  cases base with
  | nil => exact Nat.zero_le _
  | cons c base => exact deeper c rfl

/-- How the columns and the tokens change before a member in `column`: a mapping begins there, or it
has begun before. -/
inductive Begins (column : Nat) (base : List Nat) : List Nat → List Token → List Token → Prop where
  | first (tokens : List Token) (deeper : ∀ c ∈ base.head?, c < column) :
    Begins column base base tokens (.blockStart :: tokens)
  | later (tokens : List Token) : Begins column base (column :: base) tokens tokens

/-- The column that a mapping begins at is no further left than the blocks around it. -/
lemma Begins.head_le (h : Begins column base columns tokens opened) :
    ∀ c ∈ columns.head?, c ≤ column := by
  cases h with
  | first _ deeper => exact fun c mem => Nat.le_of_lt (deeper c mem)
  | later =>
    rintro _ ⟨⟩
    exact Nat.le_refl column

/-- A mapping begins by opening the block of its column, unless that is open. -/
lemma Begins.openBlock (h : Begins column base columns tokens opened) (place : Cursor) :
    (settled place columns tokens).openBlock column = settled place (column :: base) opened := by
  have outside : (settled place columns tokens).inBraces = false := rfl
  rw [Cutting.openBlock, outside]
  cases h with
  | first _ deeper =>
    simp only [floor_le deeper place, Bool.not_false, Bool.true_and, decide_true, if_true]
    rfl
  | later =>
    have floor : ¬ (settled place (column :: base) tokens).floor ≤ column :=
      Nat.not_succ_le_self column
    simp only [floor, Bool.not_false, Bool.true_and, decide_false, Bool.false_eq_true, if_false]

/-- A character without a meaning of its own begins a node. -/
lemma read?_content {s : Cutting} (marker : s.place.atMarker = false)
    (hc : c ∉ ['%', '\x7b', '\x7d', ',', '?', ':']) (rest : Text) :
    s.read? c rest = s.readContent? c := by
  simp only [List.mem_cons, List.not_mem_nil, or_false, not_or] at hc
  obtain ⟨percent, opens, closes, comma, question, colon⟩ := hc
  have noMark : s.isMark c rest = false := by
    simp [isMark, opens, closes, comma, question, colon]
  simp [read?, percent, marker, noMark]

/-- A safe character begins a plain scalar. -/
lemma readContent?_plain {s s' : Cutting} {after : Cursor} (hc : isSafeChar c)
    (begins : s.beginKey? = some s')
    (read : readPlain? s'.inBraces s'.floor s'.place = some (t, after)) :
    s.readContent? c = some (s'.emitTo (.scalar .plain t) after) := by
  have ne := not_mem_of_isSafeChar hc (l := ['|', '>', '&', '*', '!', '\'', '"']) rfl
  simp only [List.mem_cons, List.not_mem_nil, or_false, not_or] at ne
  obtain ⟨bar, angle, anchor, reference, tag, single, double⟩ := ne
  simp [readContent?, bar, angle, anchor, reference, tag, single, double, begins, read]

/-- A quote begins a scalar in quotes. -/
lemma readContent?_quoted {s s' : Cutting} {after : Cursor} (begins : s.beginKey? = some s')
    (read : readQuoted? s'.place = some (t, after)) :
    s.readContent? '\'' = some (s'.emitTo (.scalar .quoted t) after) := by
  simp [readContent?, begins, read]

/-- At the beginning of a line a key is held back. -/
lemma beginKey?_fresh (line column : Nat) (t : Text) (columns : List Nat) (tokens : List Token) :
    (settled ⟨line, column, true, t⟩ columns tokens).beginKey? =
      some (holding line column [] ⟨line, column, true, t⟩ columns tokens) :=
  rfl

/-- Further on in a line no key begins. -/
lemma beginKey?_later (line column : Nat) (t : Text) (columns : List Nat) (tokens : List Token) :
    (settled ⟨line, column, false, t⟩ columns tokens).beginKey? =
      some (settled ⟨line, column, false, t⟩ columns tokens) :=
  rfl

/-- A key is held back. -/
lemma cut_key (hk : isKeyText key) (word : endsWord rest)
    (begins : Begins column base columns tokens opened) (line : Nat) :
    CutsTo 1
      (settled ⟨line, 0, true, List.replicate column ' ' ++ (key ++ ':' :: rest)⟩ columns tokens)
      (behindKey line column key rest columns tokens) := by
  have read := readPlain?_key hk word (floor (settled ⟨0, 0, true, []⟩ columns [])) line column
    true
  obtain ⟨c, key, rfl, hc, noDash⟩ := Tree.exists_cons_of_isKeyText hk
  have skip : Cursor.skipGap false
      ⟨line, 0, true, List.replicate column ' ' ++ c :: (key ++ ':' :: rest)⟩ =
        ⟨line, column, true, c :: (key ++ ':' :: rest)⟩ := by
    rw [Cursor.skipGap, Cursor.skipGapFrom_indent hc, Nat.zero_add]
  have begin := beginKey?_fresh line column (c :: (key ++ ':' :: rest)) columns tokens
  refine .step (advance?_inside skip begins.head_le tokens) rfl ?_
  rw [read?_content (Cursor.atMarker_of_isSafeChar hc noDash _) (not_mem_of_isSafeChar hc rfl)]
  exact readContent?_plain hc begin read

/-- To advance is to skip the gap, to drop a key that is too far, and to close blocks. -/
lemma advance?_eq (s : Cutting) :
    s.advance? = Option.map (closeBlocks ((s.place.skipGap s.inBraces).column < ·))
      { s with place := s.place.skipGap s.inBraces }.dropFarKey? := by
  rw [advance?]
  cases { s with place := s.place.skipGap s.inBraces }.dropFarKey? <;> rfl

/-- Before the colon behind a key nothing is skipped, and nothing ends. -/
lemma advance?_behindKey (near : key.length ≤ maxKeyWidth)
    (inside : ∀ c ∈ columns.head?, c ≤ column) (line : Nat) (rest : Text) (tokens : List Token) :
    (behindKey line column key rest columns tokens).advance? =
      some (behindKey line column key rest columns tokens) := by
  have kept : (behindKey line column key rest columns tokens).dropFarKey? =
      some (behindKey line column key rest columns tokens) := by
    have : ¬ column + maxKeyWidth < column + key.length := by omega
    simp [dropFarKey?, behindKey, holding, settled, this]
  rw [advance?_eq]
  have close := closeBlocks_eq_self (p := (column + key.length < ·))
    (behindKey line column key rest columns tokens) fun c mem => by
      have := inside c mem
      rw [decide_eq_false_iff_not]
      omega
  exact (congrArg (Option.map _) kept).trans (congrArg some close)

/-- The colon behind a key begins the mapping before its first key, and releases the key. -/
lemma cut_colon (hk : isKeyText key) (word : endsWord rest)
    (begins : Begins column base columns tokens opened) (line : Nat) :
    CutsTo 1 (behindKey line column key rest columns tokens)
      (settled ⟨line, column + key.length + 1, false, rest⟩ (column :: base)
        (.value :: .scalar .plain key :: .key :: opened)) := by
  have later : 0 < column + key.length := by
    obtain ⟨c, key, rfl, -, -⟩ := Tree.exists_cons_of_isKeyText hk
    exact Nat.succ_pos _
  have near : key.length ≤ maxKeyWidth := by
    simp only [isKeyText, Bool.and_eq_true, decide_eq_true_eq] at hk
    exact hk.2
  have marker := Cursor.atMarker_later later line false (':' :: rest)
  have opens := begins.openBlock ⟨line, column + key.length, false, ':' :: rest⟩
  refine .step (advance?_behindKey near begins.head_le line rest tokens) rfl ?_
  simp only [read?, behindKey, holding, settled, marker, isMark, word, readMark?] at opens ⊢
  simp [opens, emit, emitTo, Cursor.skip]

/-- A key and its colon. -/
lemma cut_header (hk : isKeyText key) (word : endsWord rest)
    (begins : Begins column base columns tokens opened) (line : Nat) :
    CutsTo 2
      (settled ⟨line, 0, true, List.replicate column ' ' ++ (key ++ ':' :: rest)⟩ columns tokens)
      (settled ⟨line, column + key.length + 1, false, rest⟩ (column :: base)
        (.value :: .scalar .plain key :: .key :: opened)) :=
  (cut_key hk word begins line).trans (cut_colon hk word begins line)

/-- A leaf that begins with `c` behind the space after a colon, and ends at the next line. -/
lemma cut_scalar {style : Style} {after : Cursor} (lt : column < place)
    (solid : ∀ line column fresh, Cursor.skipGapFrom false false line column fresh (c :: t) =
      ⟨line, column, fresh, c :: t⟩)
    (hc : c ∉ ['%', '\x7b', '\x7d', ',', '?', ':']) {u : Text}
    (read : (settled ⟨line, place + 1, false, c :: t⟩ (column :: base) tokens).readContent? c =
      some (settled after (column :: base) (.scalar style u :: tokens)))
    (next : after.skipGap false = (⟨line + 1, 0, true, rest⟩ : Cursor).skipGap false) :
    CutsTo 1 (settled ⟨line, place, false, ' ' :: c :: t⟩ (column :: base) tokens)
      (settled ⟨line + 1, 0, true, rest⟩ (column :: base) (.scalar style u :: tokens)) := by
  have skip : Cursor.skipGap false ⟨line, place, false, ' ' :: c :: t⟩ =
      ⟨line, place + 1, false, c :: t⟩ := solid line (place + 1) false
  have inside : ∀ d ∈ (column :: base).head?, d ≤ place + 1 := by
    rintro _ ⟨⟩
    omega
  have marker := Cursor.atMarker_later (Nat.succ_pos place) line false (c :: t)
  have scalar : CutsTo 1 (settled ⟨line, place, false, ' ' :: c :: t⟩ (column :: base) tokens)
      (settled after (column :: base) (.scalar style u :: tokens)) :=
    .step (advance?_inside skip inside tokens) rfl ((read?_content marker hc t).trans read)
  exact scalar.trans (.of_advance? (advance?_congr next))

/-- A leaf. -/
lemma cut_leaf {plain : Bool} (h : isLeafText plain t) (outside : IsOutside column rest)
    (lt : column < place) (line : Nat) (base : List Nat) (tokens : List Token) :
    CutsTo 1
      (settled ⟨line, place, false, ' ' :: (Tree.writeLeaf plain t ++ '\n' :: rest)⟩
        (column :: base) tokens)
      (settled ⟨line + 1, 0, true, rest⟩ (column :: base) (.scalar (styleOf plain) t :: tokens)) := by
  have safe := Tree.all_isSafeChar_of_isLeafText h
  cases plain with
  | false =>
    obtain ⟨after, read, next⟩ := readQuoted?_leaf safe line (place + 1) false rest
    have leaf : Tree.writeLeaf false t ++ '\n' :: rest = '\'' :: (t ++ '\'' :: '\n' :: rest) := by
      rw [Tree.writeLeaf, if_neg Bool.false_ne_true, Tree.quote_of_isSafeChar safe, List.cons_append,
        List.append_assoc]
      rfl
    have begin := beginKey?_later line (place + 1) ('\'' :: (t ++ '\'' :: '\n' :: rest))
      (column :: base) tokens
    rw [leaf]
    exact cut_scalar lt (fun _ _ _ => rfl) (by decide) (readContent?_quoted begin read) next
  | true =>
    obtain ⟨after, read, next⟩ :=
      readPlain?_leaf h outside (Nat.lt_succ_self column) line (place + 1) false
    rw [Tree.writeLeaf, if_pos rfl]
    cases t with
    | nil => cases h
    | cons c t =>
      rw [List.all_cons, Bool.and_eq_true] at safe
      have begin := beginKey?_later line (place + 1) (c :: (t ++ '\n' :: rest)) (column :: base)
        tokens
      exact cut_scalar lt (fun _ _ _ => Cursor.skipGapFrom_safe safe.1 _ _ _ _)
        (not_mem_of_isSafeChar safe.1 rfl) (readContent?_plain safe.1 begin read) next

end Cutting

/-- At the end of the text the outermost mapping ends. -/
lemma run?_end (fuel line : Nat) (tokens : List Token) :
    Cutting.run? (fuel + 1) (Cutting.settled ⟨line, 0, true, []⟩ [0] tokens) =
      some (.blockEnd :: tokens).reverse :=
  rfl

open Cutting SnippetCost.Yaml.Tree

mutual

/-- A member is cut into the tokens that it stands for. -/
lemma cut_member {column : Nat} {base columns : List Nat} {tokens opened : List Token}
    {key rest : Text} (hk : isKeyText key) (value : Tree) (h : value.IsReadable)
    (outside : IsOutside column rest) (begins : Begins column base columns tokens opened)
    (line : Nat) :
    ∃ line', CutsTo (writeMember column key value).length
      (settled ⟨line, 0, true, writeMember column key value ++ rest⟩ columns tokens)
      (settled ⟨line', 0, true, rest⟩ (column :: base)
        ((.key :: .scalar .plain key :: .value :: value.tokens).reverse ++ opened)) := by
  cases value with
  | leaf plain t =>
    rw [IsReadable] at h
    have written : writeMember column key (.leaf plain t) ++ rest = List.replicate column ' ' ++
        (key ++ ':' :: ' ' :: (writeLeaf plain t ++ '\n' :: rest)) := by
      simp [writeMember, writeLine]
    have long : 3 ≤ (writeMember column key (.leaf plain t)).length := by
      simp only [writeMember, writeLine, List.length_append, List.length_cons, List.length_nil]
      omega
    have word : endsWord (' ' :: (writeLeaf plain t ++ '\n' :: rest)) := rfl
    have behind : column < column + key.length + 1 := by omega
    have header := cut_header hk word begins line
    have leaf := cut_leaf h outside behind line base (.value :: .scalar .plain key :: .key :: opened)
    refine ⟨line + 1, ?_⟩
    rw [written]
    simpa [Tree.tokens] using (header.trans leaf).mono long
  | mapping ms =>
    rw [IsReadable] at h
    let header : List Token := .value :: .scalar .plain key :: .key :: opened
    have written : writeMember column key (.mapping ms) ++ rest = List.replicate column ' ' ++
        (key ++ ':' :: '\n' :: (writeMembers (column + 2) ms ++ rest)) := by
      simp [writeMember, writeLine]
    have long : 2 + 0 + (writeMembers (column + 2) ms).length + 0 ≤
        (writeMember column key (.mapping ms)).length := by
      simp only [writeMember, writeLine, List.length_append, List.length_cons, List.length_nil]
      omega
    have word : endsWord ('\n' :: (writeMembers (column + 2) ms ++ rest)) := rfl
    have cut := cut_header hk word begins line
    -- The members begin on the next line, and end where the line behind them is looked at.
    have next : CutsTo 0
        (settled ⟨line, column + key.length + 1, false,
          '\n' :: (writeMembers (column + 2) ms ++ rest)⟩ (column :: base) header)
        (settled ⟨line + 1, 0, true, writeMembers (column + 2) ms ++ rest⟩ (column :: base)
          header) :=
      .of_advance? (advance?_congr rfl)
    have deeper : ∀ c ∈ (column :: base).head?, c < column + 2 := by
      rintro _ ⟨⟩
      omega
    have within : IsOutside (column + 2) rest := outside.mono (Nat.le_add_right column 2)
    obtain ⟨line', members⟩ := cut_members ms h.1 h.2 within (.first header deeper) (line + 1)
    have ends : CutsTo 0 (settled ⟨line', 0, true, rest⟩ ((column + 2) :: column :: base)
          ((memberTokens ms).reverse ++ .blockStart :: header))
        (settled ⟨line', 0, true, rest⟩ (column :: base)
          (.blockEnd :: ((memberTokens ms).reverse ++ .blockStart :: header))) :=
      .of_advance? (advance?_outside outside (by omega))
    refine ⟨line', ?_⟩
    rw [written]
    simpa [Tree.tokens, header] using (((cut.trans next).trans members).trans ends).mono long

/-- The members of a mapping are cut into their tokens. -/
lemma cut_members {column : Nat} {base columns : List Nat} {tokens opened : List Token}
    {rest : Text} (ms : List (Text × Tree)) (some : ms ≠ []) (h : AreReadable ms)
    (outside : IsOutside column rest) (begins : Begins column base columns tokens opened)
    (line : Nat) :
    ∃ line', CutsTo (writeMembers column ms).length
      (settled ⟨line, 0, true, writeMembers column ms ++ rest⟩ columns tokens)
      (settled ⟨line', 0, true, rest⟩ (column :: base) ((memberTokens ms).reverse ++ opened)) := by
  match ms with
  | [] => exact absurd rfl some
  | (key, value) :: ms =>
    rw [AreReadable] at h
    obtain ⟨hk, hv, hms⟩ := h
    obtain ⟨line', member⟩ := cut_member hk value hv (isOutside_writeMembers hms outside) begins line
    rw [writeMembers, List.append_assoc, List.length_append]
    cases ms with
    | nil =>
      refine ⟨line', ?_⟩
      simpa [memberTokens, writeMembers] using member
    | cons m ms =>
      obtain ⟨line'', members⟩ := cut_members (m :: ms) (by simp) hms outside
        (.later ((.key :: .scalar .plain key :: .value :: value.tokens).reverse ++ opened)) line'
      refine ⟨line'', ?_⟩
      simpa [memberTokens] using member.trans members

end

/-- A readable tree is cut into the tokens that it stands for. -/
theorem tokens?_write {ms : List (Text × Tree)} (h : (Tree.mapping ms).IsReadable) :
    tokens? (Tree.mapping ms).write = some (Tree.mapping ms).tokens := by
  rw [IsReadable] at h
  have written := isWritten_writeMembers 0 ms h.2
  have allowed : (writeMembers 0 ms).all isAllowed :=
    List.all_eq_true.2 fun c mem => (written c mem).isAllowed
  have first : Begins 0 [] [] [] [.blockStart] := .first [] (by simp)
  obtain ⟨line, k, le, run⟩ := cut_members ms h.1 h.2 (.inl rfl) first 0
  obtain ⟨fuel, eq⟩ : ∃ fuel, (writeMembers 0 ms).length + 1 = fuel + 1 + k :=
    ⟨(writeMembers 0 ms).length - k, by omega⟩
  rw [List.append_nil] at run
  rw [Tree.write, tokens?, if_pos allowed, unifyBreaks_eq_self written, eq]
  refine ((run (fuel + 1)).trans (run?_end fuel line _)).trans ?_
  simp [Tree.tokens]

end SnippetCost.Yaml
