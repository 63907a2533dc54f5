import SnippetCost.Proofs.Report.FieldLine
import SnippetCost.Proofs.Text.Lower
import SnippetCost.Proofs.Text.Padded

/-!
# Blanks behind a line of a report

Outside fences a line is read as without the blanks behind it, a carriage return among them. They are
left behind the value of a field, where they are trimmed away, and cannot make a label of what is
none: a bullet with nothing but blanks behind it is no bullet without them, but holds no label either.

Each cut is related to the same cut without the blanks: `rel_cutWord?`, `rel_cutLabel?`,
`rel_afterBullet?`, `rel_value?` and `rel_read?`. The main result is `feed_padded`.
-/

namespace SnippetCost

open Text (IsBlanks IsSolid dropLead?)

namespace FieldLine

variable {s t u rest : Text} {word : Text} {words : List Text} {l c : Char}

/-- Two pieces cut off with what is left: the pieces are the same, and what is left differs by no more
than blanks behind it. -/
structure CutAlike (p q : Text × Text) : Prop where
  piece : p.1 = q.1
  rest : Padded p.2 q.2

/-- The characters that can stand for a letter of a label. -/
def variants (l : Char) : List Char :=
  [l, Char.ofNat (l.toNat - 32), 'ſ', '\u212a']

/-- A character is a variant of its lower case. -/
lemma mem_variants_asciiLower (c : Char) : c ∈ variants (asciiLower c) :=
  asciiLower_induction (p := fun c d => c ∈ variants d) (by decide +kernel)
    (fun _ => List.mem_cons_self) c

/-- A character that stands for a letter is one of the variants of the letter. -/
lemma mem_variants (h : isLetterOf l c) : c ∈ variants l := by
  simp only [isLetterOf, Bool.or_eq_true, Bool.and_eq_true, decide_eq_true_eq] at h
  rcases h with (rfl | ⟨-, rfl⟩) | ⟨-, rfl⟩
  · exact mem_variants_asciiLower c
  · simp [variants]
  · simp [variants]

/-- Whether a character is no blank and begins no bullet. -/
def isUndecorated (c : Char) : Bool :=
  !isBlank c && !isDecimal c && c != '-' && c != '+' && c != '*'

/-- What every word of a label is: it is not empty, and none of the characters that can stand for its
letters is a blank or begins a bullet. -/
structure IsLabelWord (word : Text) : Prop where
  ne_nil : word ≠ []
  undecorated : ∀ l ∈ word, ∀ c ∈ variants l, isUndecorated c

/-- The words of labels are label words. -/
lemma isLabelWord (hs : words ∈ labels) (h : word ∈ words) : IsLabelWord word := by
  have all : labels.all fun words => words.all fun word =>
      word != [] && word.all fun l => (variants l).all isUndecorated := by
    decide +kernel
  have checked := List.all_eq_true.1 (List.all_eq_true.1 all words hs) word h
  rw [Bool.and_eq_true, bne_iff_ne] at checked
  refine ⟨checked.1, ?_⟩
  intro l hl
  exact List.all_eq_true.1 (List.all_eq_true.1 checked.2 l hl)

/-- A character that begins a label is no blank. -/
lemma isBlank_of_isUndecorated (h : isUndecorated c) : isBlank c = false := by
  simp only [isUndecorated, Bool.and_eq_true, Bool.not_eq_true'] at h
  exact h.1.1.1.1

/-- A character that begins a label begins no bullet. -/
lemma afterBullet?_of_isUndecorated (h : isUndecorated c) (rest : Text) :
    afterBullet? (c :: rest) = none := by
  simp only [isUndecorated, Bool.and_eq_true, Bool.not_eq_true', bne_iff_ne] at h
  obtain ⟨⟨⟨⟨-, digit⟩, minus⟩, plus⟩, star⟩ := h
  simp [afterBullet?, digit, minus, plus, star]

/-- Both texts begin with a word of a label, or neither does. -/
lemma rel_cutWord? (letters : ∀ l ∈ word, ∀ c ∈ variants l, isUndecorated c) (h : Padded s t) :
    Option.Rel CutAlike (cutWord? word s) (cutWord? word t) := by
  induction word generalizing s t with
  | nil => exact .some ⟨rfl, h⟩
  | cons l word ih =>
    obtain ⟨hl, letters⟩ := List.forall_mem_cons.1 letters
    cases s with
    | nil =>
      cases t with
      | nil => exact .none
      | cons c t =>
        have neg : ¬ isLetterOf l c := by
          intro letter
          have blank := h.nil_inv c List.mem_cons_self
          rw [isBlank_of_isUndecorated (hl c (mem_variants letter))] at blank
          cases blank
        rw [cutWord?, cutWord?, if_neg neg]
        exact .none
    | cons c s =>
      obtain ⟨t, rfl, rest⟩ := h.cons_inv
      rw [cutWord?, cutWord?]
      split
      · apply rel_map _ (ih letters rest)
        rintro ⟨seen, after⟩ ⟨_, after'⟩ ⟨rfl, behind⟩
        exact ⟨rfl, behind⟩
      · exact .none

/-- What stands behind the first word of a label: blanks, and the other words. -/
def cutBehind? (words : List Text) (p : Text × Text) : Option (Text × Text) :=
  if p.2.takeWhile isBlank = [] then none
  else (cutLabel? words (Text.trimStart p.2)).map fun q =>
    (p.1 ++ p.2.takeWhile isBlank ++ q.1, q.2)

/-- A label of several words is cut off word by word. -/
lemma cutLabel?_cons_cons (word next : Text) (words : List Text) (t : Text) :
    cutLabel? (word :: next :: words) t = (cutWord? word t).bind (cutBehind? (next :: words)) := by
  rw [cutLabel?]
  · cases cutWord? word t with
    | none => rfl
    | some p =>
      obtain ⟨seen, rest⟩ := p
      rw [Option.bind_some, cutBehind?]
      dsimp only
      cases rest.takeWhile isBlank with
      | nil => rfl
      | cons c gap => rfl
  · exact List.cons_ne_nil next words

/-- No label is cut off the empty text. -/
lemma cutLabel?_nil (ne : word ≠ []) : cutLabel? (word :: words) [] = none := by
  cases word with
  | nil => exact absurd rfl ne
  | cons l word => cases words <;> rfl

/-- Both texts begin with a label, or neither does: a word of the label that has nothing but blanks
behind it is followed by no other word. -/
lemma rel_cutLabel? (label : ∀ word ∈ words, IsLabelWord word) (h : Padded s t) :
    Option.Rel CutAlike (cutLabel? words s) (cutLabel? words t) := by
  induction words generalizing s t with
  | nil => exact .some ⟨rfl, h⟩
  | cons word words ih =>
    obtain ⟨hw, label⟩ := List.forall_mem_cons.1 label
    have first := rel_cutWord? hw.undecorated h
    cases words with
    | nil => exact first
    | cons next words =>
      have hn := (List.forall_mem_cons.1 label).1
      rw [cutLabel?_cons_cons, cutLabel?_cons_cons]
      apply rel_bind _ first
      rintro ⟨seen, after⟩ ⟨_, after'⟩ ⟨rfl, behind⟩
      have more := ih label behind.trimStart
      rw [cutBehind?, cutBehind?]
      dsimp only at behind ⊢
      by_cases stops : Text.trimStart after = []
      · rw [stops, cutLabel?_nil hn.ne_nil] at more
        rw [stops, cutLabel?_nil hn.ne_nil, Option.map_none, ite_self]
        generalize cutLabel? (next :: words) (Text.trimStart after') = b at more
        cases more
        rw [Option.map_none, ite_self]
        exact .none
      · rw [behind.takeWhile_eq stops]
        split
        · exact .none
        · apply rel_map _ more
          rintro p q ⟨piece, left⟩
          exact ⟨by rw [piece], left⟩

/-- Both texts begin with one of the labels, or neither does. -/
lemma rel_cutAnyLabel? (h : Padded s t) :
    Option.Rel CutAlike (cutAnyLabel? s) (cutAnyLabel? t) :=
  rel_findSome? fun _ hs => rel_cutLabel? (fun _ => isLabelWord hs) h

/-- Where a label is cut off one of its words is. -/
lemma exists_cutWord?_of_cutLabel? {p : Text × Text} (ne : words ≠ [])
    (h : cutLabel? words t = some p) : ∃ word ∈ words, ∃ q, cutWord? word t = some q := by
  cases words with
  | nil => exact absurd rfl ne
  | cons word words =>
    refine ⟨word, List.mem_cons_self, ?_⟩
    cases words with
    | nil => exact ⟨p, h⟩
    | cons next words =>
      rw [cutLabel?_cons_cons, Option.bind_eq_some_iff] at h
      obtain ⟨q, first, -⟩ := h
      exact ⟨q, first⟩

/-- A text that begins with a label begins with no bullet. -/
lemma afterBullet?_of_cutAnyLabel? {p : Text × Text} (h : cutAnyLabel? t = some p) :
    afterBullet? t = none := by
  obtain ⟨words, hs, cut⟩ := List.exists_of_findSome?_eq_some h
  have ne : words ≠ [] := by
    have all : ∀ words ∈ labels, words ≠ [] := by decide
    exact all words hs
  obtain ⟨word, hw, q, cut⟩ := exists_cutWord?_of_cutLabel? ne cut
  have label := isLabelWord hs hw
  cases word with
  | nil => exact absurd rfl label.ne_nil
  | cons l word =>
    cases t with
    | nil => rfl
    | cons c rest =>
      rw [cutWord?, Option.ite_none_right_eq_some] at cut
      have first := label.undecorated l List.mem_cons_self c (mem_variants cut.1)
      exact afterBullet?_of_isUndecorated first rest

/-- Number signs are skipped one by one. -/
lemma skipHeading_succ (n : Nat) (t : Text) :
    skipHeading (n + 1) t = ((dropLead? ['#'] t).map (skipHeading n)).getD t := by
  cases t with
  | nil => rfl
  | cons c rest =>
    by_cases h : c = '#'
    · rw [h]
      rfl
    · simp [skipHeading, dropLead?, h, Ne.symm h]

/-- Stars are looked for before underscores. -/
lemma skipEmphasis_eq (t : Text) :
    skipEmphasis t = ((dropLead? ['*', '*'] t).or (dropLead? ['_', '_'] t)).getD t := by
  fun_cases skipEmphasis t with
  | case1 rest => rfl
  | case2 rest => rfl
  | case3 t stars underscores =>
    have noStars : dropLead? ['*', '*'] t = none := by
      refine Option.eq_none_iff_forall_ne_some.2 ?_
      intro rest e
      exact stars rest (Text.dropLead?_eq_some.1 e)
    have noUnderscores : dropLead? ['_', '_'] t = none := by
      refine Option.eq_none_iff_forall_ne_some.2 ?_
      intro rest e
      exact underscores rest (Text.dropLead?_eq_some.1 e)
    rw [noStars, noUnderscores]
    rfl

/-- The bullets of a numbered list end in a dot or a parenthesis behind the digits. -/
lemma afterBullet?_cons (c : Char) (rest : Text) : afterBullet? (c :: rest) =
    if c = '-' || c = '+' || c = '*' then some rest
    else if isDecimal c then
      (dropLead? ['.'] (rest.dropWhile isDecimal)).or (dropLead? [')'] (rest.dropWhile isDecimal))
    else none := by
  rw [afterBullet?]
  congr 2
  cases rest.dropWhile isDecimal with
  | nil => rfl
  | cons d after =>
    by_cases dot : d = '.'
    · rw [dot]
      rfl
    · by_cases parenthesis : d = ')'
      · rw [parenthesis]
        rfl
      · simp [dropLead?, dot, parenthesis, Ne.symm dot, Ne.symm parenthesis]

/-- Skipping a heading leaves the blanks at the end. -/
lemma skipHeading_padded (n : Nat) (h : Padded s t) : Padded (skipHeading n s) (skipHeading n t) := by
  induction n generalizing s t with
  | zero => exact h
  | succ n ih =>
    rw [skipHeading_succ, skipHeading_succ]
    exact h.getD (rel_map (fun _ _ => ih) (h.dropLead? (by decide)))

/-- Skipping emphasis leaves the blanks at the end. -/
lemma skipEmphasis_padded (h : Padded s t) : Padded (skipEmphasis s) (skipEmphasis t) := by
  rw [skipEmphasis_eq, skipEmphasis_eq]
  exact h.getD (h.or_dropLead? (by decide) (by decide))

/-- Both texts begin with a bullet, or neither does. -/
lemma rel_afterBullet? (h : Padded s t) : Option.Rel Padded (afterBullet? s) (afterBullet? t) := by
  cases s with
  | nil =>
    cases t with
    | nil => exact .none
    | cons c t =>
      have blank := h.nil_inv c List.mem_cons_self
      have free : (c = '-' || c = '+' || c = '*') = false :=
        not_of_isBlank (p := fun c => c = '-' || c = '+' || c = '*') (by decide +kernel) blank
      have digit : isDecimal c = false := isDecimal_of_isBlank blank
      simp only [afterBullet?_cons, free, digit]
      exact .none
  | cons c s =>
    obtain ⟨t, rfl, rest⟩ := h.cons_inv
    rw [afterBullet?_cons, afterBullet?_cons]
    split
    · exact .some rest
    · split
      · exact (rest.dropWhile isDecimal).or_dropLead? (by decide) (by decide)
      · exact .none

/-- A bullet that is not the end of the text is read alike with blanks behind it. -/
lemma skipBullet_padded (h : Padded s t) (more : afterBullet? s ≠ some []) :
    Padded (skipBullet s) (skipBullet t) := by
  have bullet := rel_afterBullet? h
  rw [skipBullet, skipBullet]
  generalize afterBullet? s = a at bullet more
  generalize afterBullet? t = b at bullet
  cases bullet with
  | none => exact h
  | @some after after' behind =>
    cases after with
    | nil => exact absurd rfl more
    | cons c after =>
      obtain ⟨after', rfl, gap⟩ := behind.cons_inv
      dsimp only
      split
      · exact gap.trimStart
      · exact h

/-- There is no label behind a bullet that nothing but blanks follows. -/
lemma cutAnyLabel?_of_bare (trimmed : Text.trimStart u = u) (bullet : afterBullet? u = some rest)
    (blanks : IsBlanks rest) :
    cutAnyLabel? (Text.trimStart (skipEmphasis (skipBullet u))) = none := by
  cases rest with
  | cons c rest =>
    obtain ⟨blank, blanks⟩ := Text.isBlanks_cons.1 blanks
    have empty : skipBullet u = [] := by
      rw [skipBullet, bullet]
      dsimp only
      rw [if_pos blank, Text.trimStart_of_isBlanks blanks]
    rw [empty]
    rfl
  | nil =>
    -- nothing can be taken for a bullet, which stays and is no label
    have stays : skipBullet u = u := by
      rw [skipBullet, bullet]
    have plain : skipEmphasis u = u := by
      fun_cases skipEmphasis u with
      | case1 => cases bullet
      | case2 => cases bullet
      | case3 => rfl
    rw [stays, plain, trimmed]
    refine Option.eq_none_iff_forall_ne_some.2 ?_
    intro p cut
    rw [afterBullet?_of_cutAnyLabel? cut] at bullet
    cases bullet

/-- Both lines begin with a label behind the decoration, or neither does. -/
lemma rel_cutAnyLabel?_skipDecoration (h : Padded s t) :
    Option.Rel CutAlike (cutAnyLabel? (skipDecoration s)) (cutAnyLabel? (skipDecoration t)) := by
  have lead := (skipHeading_padded 6 h.trimStart).trimStart
  rw [skipDecoration, skipDecoration]
  generalize hu : Text.trimStart (skipHeading 6 (Text.trimStart s)) = u at lead
  generalize hw : Text.trimStart (skipHeading 6 (Text.trimStart t)) = w at lead
  by_cases bare : afterBullet? u = some []
  · have bullet := rel_afterBullet? lead
    rw [bare] at bullet
    generalize other : afterBullet? w = b at bullet
    cases bullet with
    | some behind =>
      rw [cutAnyLabel?_of_bare (hu ▸ Text.trimStart_trimStart _) bare .nil,
        cutAnyLabel?_of_bare (hw ▸ Text.trimStart_trimStart _) other behind.nil_inv]
      exact .none
  · exact rel_cutAnyLabel? (skipEmphasis_padded (skipBullet_padded lead bare)).trimStart

/-- A value stands behind emphasis, a colon, blanks and emphasis again. -/
lemma value?_eq (t : Text) : value? t =
    (dropLead? [':'] (Text.trimStart (skipEmphasis (Text.trimStart t)))).map fun rest =>
      skipEmphasis (Text.trimStart rest) := by
  rw [value?]
  cases Text.trimStart (skipEmphasis (Text.trimStart t)) with
  | nil => rfl
  | cons c rest =>
    by_cases h : c = ':'
    · rw [h]
      rfl
    · simp [dropLead?, h, Ne.symm h]

/-- Cutting off the value leaves the blanks at the end. -/
lemma rel_value? (h : Padded s t) : Option.Rel Padded (value? s) (value? t) := by
  have colon := (skipEmphasis_padded h.trimStart).trimStart
  rw [value?_eq, value?_eq]
  apply rel_map _ (colon.dropLead? (by decide))
  intro _ _ rest
  exact skipEmphasis_padded rest.trimStart

/-- A line is read by cutting off its decoration, its label and its value. -/
lemma read?_eq (line : Text) : read? line =
    (cutAnyLabel? (skipDecoration line)).bind fun p => (value? p.2).map fun value => (p.1, value) := by
  rw [read?]
  cases cutAnyLabel? (skipDecoration line) <;> rfl

/-- Both lines hold a field, or neither does; the label is the same, and the value apart from blanks
behind it. -/
lemma rel_read? (h : Padded s t) : Option.Rel CutAlike (read? s) (read? t) := by
  rw [read?_eq, read?_eq]
  apply rel_bind _ (rel_cutAnyLabel?_skipDecoration h)
  rintro ⟨label, rest⟩ ⟨_, rest'⟩ ⟨rfl, behind⟩
  apply rel_map _ (rel_value? behind)
  intro _ _ value
  exact ⟨rfl, value⟩

end FieldLine

namespace Reading

variable {s : Reading} {line other : Text}

/-- Blanks at the end are left out of a value. -/
lemma cleanValue_padded (h : Padded line other) : cleanValue other = cleanValue line := by
  rw [cleanValue, cleanValue, h.trim_eq]

/-- Blanks at the end do not change whether a line ends a field. -/
lemma endsField_padded (h : Padded line other) : endsField other = endsField line := by
  have lead := h.trimStart
  rw [endsField, endsField]
  cases e : Text.trimStart line with
  | cons c rest =>
    rw [e] at lead
    obtain ⟨rest', e', -⟩ := lead.cons_inv
    rw [e']
  | nil =>
    rw [e] at lead
    rw [Text.trimStart_eq_nil (Text.startsSolid_of_isBlanks lead.nil_inv)]

/-- Blanks at the end are left out of a line that continues a field. -/
lemma feedContinuation_padded (s : Reading) (h : Padded line other) :
    s.feedContinuation other = s.feedContinuation line := by
  rw [feedContinuation, feedContinuation, h.trim_eq]

/-- Outside fences a line is read as without the blanks behind it. -/
lemma feedProse_padded (s : Reading) (h : Padded line other) :
    s.feedProse other = s.feedProse line := by
  have fence : Option.Rel Padded (fenceInfo? line) (fenceInfo? other) :=
    h.trimStart.dropLead? (by decide)
  have read := FieldLine.rel_read? h
  rw [feedProse, feedProse, endsField_padded h, feedContinuation_padded s h]
  generalize fenceInfo? line = a at fence
  generalize fenceInfo? other = b at fence
  cases fence with
  | some info =>
    dsimp only
    rw [OpenBlock.ofInfo, OpenBlock.ofInfo, info.trim_eq]
  | none =>
    dsimp only
    generalize FieldLine.read? line = c at read
    generalize FieldLine.read? other = d at read
    cases read with
    | none => rfl
    | @some p q cut =>
      obtain ⟨label, value⟩ := p
      obtain ⟨_, value'⟩ := q
      obtain ⟨rfl, behind⟩ := cut
      dsimp only
      rw [cleanValue_padded behind]

/-- A line behind which no block is open is read as without the blanks behind it: it lies outside
fences, or is the fence that closes a block. -/
lemma feed_padded (closed : (s.feed other).block = none) (h : Padded line other) :
    s.feed line = s.feed other := by
  rw [feed] at closed
  rw [feed, feed]
  cases block : s.block with
  | none => exact (feedProse_padded s h).symm
  | some b =>
    rw [block] at closed
    have fence : Option.Rel Padded (fenceInfo? line) (fenceInfo? other) :=
      h.trimStart.dropLead? (by decide)
    dsimp only at closed ⊢
    rw [feedBlock] at closed
    rw [feedBlock, feedBlock]
    generalize fenceInfo? line = a at fence
    generalize fenceInfo? other = b at fence closed
    cases fence with
    | some => rfl
    | none => cases closed

end Reading

end SnippetCost
