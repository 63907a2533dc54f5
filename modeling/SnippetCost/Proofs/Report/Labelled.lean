import SnippetCost.Proofs.Report.Label
import SnippetCost.Proofs.Report.Undecorated

/-!
# Lines that hold a field are those of the grammar

Each piece of a line is cut off where the grammar has it: nothing that follows a piece can be taken for
more of it, or for a piece that comes earlier. So the label and the value are the same however a line
is taken apart, and no decoration changes what is read.

Every line that is read is one of the grammar by `exists_labelledLine`, put together from
`exists_heading`, `exists_item`, `exists_lead` and `exists_value`; every line of the grammar is read
by `read?_text`, from `skipDecoration_text` and `value?_text`. The main result is
`FieldLine.read?_iff_labelledLine`.
-/

namespace SnippetCost

open Text (IsBlanks dropLead? trimStart)

variable {t gap rest label value line : Text} {f : Field} {c : Char}

namespace FieldLine

/-- What spells the words of a label begins with nothing that can stand in front of a label. -/
lemma startsLabel_of_spellsWords (spells : SpellsWords f.words label) :
    ∃ c more, label = c :: more ∧ startsLabel c := by
  have all : ∀ f : Field, f.words.flatten.head?.any fun l =>
      l != 'ſ' && l != '\u212a' && (variants l).all startsLabel := by
    intro f
    cases f <;> decide
  obtain ⟨c, more, rfl, first, -⟩ := exists_cons_of_spellsWords (isFoldedWord_of_mem f) spells
  have checked := all f
  simp only [first, Option.any_some, Bool.and_eq_true, bne_iff_ne] at checked
  obtain ⟨plain, starts⟩ := checked
  exact ⟨c, more, rfl, List.all_eq_true.1 starts c (mem_variants ((isLetterOf_iff plain).2 rfl))⟩

/-! What is cut off is a piece of the grammar. -/

section Sound

/-- What is cut off as the signs of a heading is no more of them than asked for. -/
lemma exists_replicate (n : Nat) (t : Text) :
    ∃ k ≤ n, t = List.replicate k '#' ++ skipHeading n t := by
  induction n generalizing t with
  | zero => exact ⟨0, Nat.le_refl 0, rfl⟩
  | succ n ih =>
    rw [skipHeading_succ]
    cases sign : dropLead? ['#'] t with
    | none => exact ⟨0, Nat.zero_le _, rfl⟩
    | some behind =>
      obtain ⟨k, le, e⟩ := ih behind
      refine ⟨k + 1, Nat.succ_le_succ le, ?_⟩
      calc t = '#' :: behind := Text.dropLead?_eq_some.1 sign
        _ = '#' :: (List.replicate k '#' ++ skipHeading n behind) := congrArg ('#' :: ·) e

/-- What is skipped for a heading is the text of one, or blanks. -/
lemma exists_heading (t : Text) : ∃ h : Option Heading, ∃ gap : Text, IsBlanks gap ∧
    t = gap ++ (h.elim [] Heading.text ++ trimStart (skipHeading 6 (trimStart t))) := by
  obtain ⟨before, blanks, trimmed⟩ := Text.exists_append_trimStart t
  obtain ⟨k, le, signs⟩ := exists_replicate 6 (trimStart t)
  obtain ⟨behind, blanks', trimmed'⟩ := Text.exists_append_trimStart (skipHeading 6 (trimStart t))
  have whole : t = before ++ (List.replicate k '#' ++
      (behind ++ trimStart (skipHeading 6 (trimStart t)))) := by
    rw [← trimmed', ← signs, ← trimmed]
  cases k with
  | zero =>
    -- without signs there is no heading, and all blanks are the indentation
    refine ⟨none, before ++ behind, Text.isBlanks_append.2 ⟨blanks, blanks'⟩, ?_⟩
    rw [List.append_assoc]
    exact whole
  | succ k =>
    refine ⟨some ⟨k + 1, ⟨behind, blanks'⟩, Nat.succ_pos k, le⟩, before, blanks, ?_⟩
    rw [Option.elim_some, Heading.text, List.append_assoc]
    exact whole

/-- What is skipped for a bullet is the text of one. -/
lemma exists_bullet (h : afterBullet? t = some rest) : ∃ b : Bullet, t = b.text ++ rest := by
  cases t with
  | nil => cases h
  | cons c t =>
    rw [afterBullet?_cons] at h
    split at h
    · next isSign =>
      cases h
      exact ⟨.sign c (by simpa [or_assoc] using isSign), rfl⟩
    · rw [Option.ite_none_right_eq_some] at h
      obtain ⟨digit, h⟩ := h
      have number : ∀ stop, stop = '.' ∨ stop = ')' →
          dropLead? [stop] (t.dropWhile isDecimal) = some rest →
          ∃ b : Bullet, c :: t = b.text ++ rest := by
        intro stop isStop found
        have digits : ∀ d ∈ c :: t.takeWhile isDecimal, isDecimal d :=
          List.forall_mem_cons.2 ⟨digit, List.all_eq_true.1 List.all_takeWhile⟩
        refine ⟨.number (c :: t.takeWhile isDecimal) stop (List.cons_ne_nil _ _) digits isStop, ?_⟩
        rw [Bullet.text, List.append_assoc, List.cons_append, ← Text.dropLead?_eq_some.1 found,
          List.takeWhile_append_dropWhile]
      rcases Option.or_eq_some_iff.1 h with dot | ⟨-, parenthesis⟩
      · exact number '.' (.inl rfl) dot
      · exact number ')' (.inr rfl) parenthesis

/-- What is skipped for an item is the text of one, or nothing. -/
lemma exists_item (t : Text) : ∃ i : Option Item, t = i.elim [] Item.text ++ skipBullet t := by
  rw [skipBullet]
  split
  · next c rest found =>
    split
    · next blank =>
      obtain ⟨b, bullet⟩ := exists_bullet found
      obtain ⟨gap, blanks, trimmed⟩ := Text.exists_append_trimStart rest
      refine ⟨some ⟨b, ⟨c :: gap, Text.isBlanks_cons.2 ⟨blank, blanks⟩⟩, List.cons_ne_nil c gap⟩, ?_⟩
      calc t = b.text ++ c :: rest := bullet
        _ = b.text ++ c :: (gap ++ trimStart rest) := by rw [← trimmed]
        _ = b.text ++ (c :: gap) ++ trimStart rest := by rw [List.append_assoc, List.cons_append]
    · exact ⟨none, rfl⟩
  · exact ⟨none, rfl⟩

/-- No mark of emphasis begins the text where nothing is cut off as one. -/
lemma exists_emphasis (t : Text) : ∃ e : Option Emphasis,
    t = Emphasis.optional e ++ skipEmphasis t ∧ (e = none → ∀ m : Emphasis, ¬ m.text <+: t) := by
  fun_cases skipEmphasis t with
  | case1 rest => exact ⟨some .stars, rfl, fun missing => by cases missing⟩
  | case2 rest => exact ⟨some .underscores, rfl, fun missing => by cases missing⟩
  | case3 t noStars noUnderscores =>
    refine ⟨none, rfl, ?_⟩
    rintro - m ⟨rest, rfl⟩
    cases m with
    | stars => exact noStars rest rfl
    | underscores => exact noUnderscores rest rfl

/-- What is cut off in front of a label can stand there. -/
lemma exists_lead (t : Text) : ∃ l : LabelLead, t = l.text ++ skipDecoration t := by
  obtain ⟨heading, indent, blanks, headed⟩ := exists_heading t
  obtain ⟨item, listed⟩ := exists_item (trimStart (skipHeading 6 (trimStart t)))
  obtain ⟨emphasis, marked, -⟩ :=
    exists_emphasis (skipBullet (trimStart (skipHeading 6 (trimStart t))))
  obtain ⟨gap, blanks', trimmed⟩ := Text.exists_append_trimStart
    (skipEmphasis (skipBullet (trimStart (skipHeading 6 (trimStart t)))))
  refine ⟨⟨⟨indent, blanks⟩, heading, item, emphasis, ⟨gap, blanks'⟩⟩, ?_⟩
  rw [LabelLead.text, skipDecoration]
  simp only [List.append_assoc]
  rw [← trimmed, ← marked, ← listed, ← headed]

/-- What is cut off in front of a value can stand between it and a label. -/
lemma exists_value (h : value? t = some value) : ∃ (l : LabelTail) (v : LabelValue),
    t = l.text ++ ':' :: v.text ∧ v.value = value := by
  rw [value?_eq] at h
  obtain ⟨behind, colon, rfl⟩ := Option.map_eq_some_iff.1 h
  have found : trimStart (skipEmphasis (trimStart t)) = ':' :: behind :=
    Text.dropLead?_eq_some.1 colon
  obtain ⟨gap, blanks, trimmed⟩ := Text.exists_append_trimStart t
  obtain ⟨emphasis, marked, -⟩ := exists_emphasis (trimStart t)
  obtain ⟨colonGap, colonBlanks, colonTrimmed⟩ :=
    Text.exists_append_trimStart (skipEmphasis (trimStart t))
  obtain ⟨valueGap, valueBlanks, valueTrimmed⟩ := Text.exists_append_trimStart behind
  obtain ⟨valueEmphasis, valueMarked, noMark⟩ := exists_emphasis (trimStart behind)
  refine ⟨⟨⟨gap, blanks⟩, emphasis, ⟨colonGap, colonBlanks⟩⟩,
    ⟨⟨valueGap, valueBlanks⟩, valueEmphasis, skipEmphasis (trimStart behind), ?_, ?_⟩, ?_, rfl⟩
  · rw [← valueMarked]
    intro c first
    obtain ⟨rest, e⟩ := List.head?_eq_some_iff.1 first
    exact Text.trimStart_eq_cons e
  · rintro rfl
    rw [valueMarked] at noMark
    exact noMark rfl
  · rw [LabelTail.text, LabelValue.text]
    simp only [List.append_assoc]
    rw [← valueMarked, ← valueTrimmed, ← found, ← colonTrimmed, ← marked, ← trimmed]

end Sound

/-! A piece of the grammar is cut off. -/

section Complete

/-- A mark of emphasis is skipped. -/
lemma skipEmphasis_append (e : Emphasis) (t : Text) : skipEmphasis (e.text ++ t) = t := by
  cases e <;> rfl

/-- Where no mark of emphasis stands nothing is skipped. -/
lemma skipEmphasis_of_noMark (noMark : ∀ e : Emphasis, ¬ e.text <+: t) : skipEmphasis t = t := by
  obtain ⟨e, marked, -⟩ := exists_emphasis t
  cases e with
  | none => exact marked.symm
  | some e => exact absurd ⟨_, marked.symm⟩ (noMark e)

/-- A mark of emphasis begins with no blank. -/
lemma trimStart_emphasis_append (e : Emphasis) (t : Text) :
    trimStart (e.text ++ t) = e.text ++ t := by
  cases e <;> rfl

/-- Whether a character is no blank and begins no mark of emphasis. -/
def isUnmarked (c : Char) : Bool :=
  !isBlank c && c != '*' && c != '_'

/-- The first letter of a label is not one that decoration begins with. -/
lemma isUnmarked_of_startsLabel (h : startsLabel c) : isUnmarked c := by
  simp only [startsLabel, isUndecorated, Bool.and_eq_true] at h
  simp [isUnmarked, h]

/-- A mark of emphasis and the blanks around it are cut off in front of what begins neither. -/
lemma skipEmphasis_optional (blanks : IsBlanks gap) (unmarked : isUnmarked c) (e : Option Emphasis)
    (t : Text) :
    trimStart (skipEmphasis (trimStart (Emphasis.optional e ++ (gap ++ c :: t)))) = c :: t := by
  simp only [isUnmarked, Bool.and_eq_true, Bool.not_eq_true', bne_iff_ne] at unmarked
  obtain ⟨⟨solid, star⟩, underscore⟩ := unmarked
  have trimmed : trimStart (gap ++ c :: t) = c :: t := by
    rw [Text.trimStart_append blanks, Text.trimStart_cons_of_not_isBlank solid]
  cases e with
  | some e =>
    rw [Emphasis.optional, Option.elim_some, trimStart_emphasis_append, skipEmphasis_append, trimmed]
  | none =>
    have noMark : ∀ m : Emphasis, ¬ m.text <+: c :: t := by
      rintro m ⟨rest, e⟩
      cases m with
      | stars => exact star (List.cons.inj e).1.symm
      | underscores => exact underscore (List.cons.inj e).1.symm
    rw [Emphasis.optional, Option.elim_none, List.nil_append, trimmed, skipEmphasis_of_noMark noMark,
      Text.trimStart_cons_of_not_isBlank solid]

/-- Neither a mark of emphasis nor what begins a label is taken for a bullet. -/
lemma skipBullet_optional (blanks : IsBlanks gap) (starts : startsLabel c) (e : Option Emphasis)
    (t : Text) : skipBullet (trimStart (Emphasis.optional e ++ (gap ++ c :: t))) =
      trimStart (Emphasis.optional e ++ (gap ++ c :: t)) := by
  cases e with
  | some e => cases e <;> rfl
  | none =>
    simp only [startsLabel, Bool.and_eq_true] at starts
    have plain := starts.1.1.1
    rw [Emphasis.optional, Option.elim_none, List.nil_append, Text.trimStart_append blanks,
      Text.trimStart_cons_of_not_isBlank (isBlank_of_isUndecorated plain), skipBullet,
      afterBullet?_of_isUndecorated plain]

/-- A number ends at its dot or parenthesis, so a bullet is cut off whatever follows it. -/
lemma afterBullet?_text (b : Bullet) (t : Text) : afterBullet? (b.text ++ t) = some t := by
  cases b with
  | sign c isSign =>
    have sign : (c = '-' || c = '+' || c = '*') = true := by simpa [or_assoc] using isSign
    rw [Bullet.text, List.singleton_append, afterBullet?_cons, if_pos sign]
  | number digits stop ne digit isStop =>
    obtain ⟨d, more, rfl⟩ := List.exists_cons_of_ne_nil ne
    obtain ⟨hd, digit⟩ := List.forall_mem_cons.1 digit
    have noSign : ¬ (d = '-' || d = '+' || d = '*') := by
      simp only [Bool.or_eq_true, decide_eq_true_eq]
      rintro ((rfl | rfl) | rfl) <;> exact absurd hd (by decide)
    have behind : (more ++ stop :: t).dropWhile isDecimal = stop :: t := by
      refine (Text.run_append digit ?_).2
      rintro _ ⟨⟩
      rcases isStop with rfl | rfl <;> decide
    rw [Bullet.text, List.append_assoc, List.cons_append, List.singleton_append, afterBullet?_cons,
      if_neg noSign, if_pos hd, behind]
    rcases isStop with rfl | rfl <;> rfl

/-- A bullet begins neither with a blank nor with the sign of a heading. -/
lemma exists_cons_bullet (b : Bullet) :
    ∃ d rest, b.text = d :: rest ∧ isBlank d = false ∧ d ≠ '#' := by
  cases b with
  | sign c isSign =>
    refine ⟨c, [], rfl, ?_⟩
    rcases isSign with rfl | rfl | rfl <;> decide
  | number digits stop ne digit isStop =>
    obtain ⟨d, more, rfl⟩ := List.exists_cons_of_ne_nil ne
    have hd := digit d List.mem_cons_self
    refine ⟨d, more ++ [stop], rfl, isBlank_of_isDecimal hd, ?_⟩
    rintro rfl
    exact absurd hd (by decide)

/-- The beginning of an item is cut off in front of what is not taken for one. -/
lemma skipBullet_item (i : Option Item) (h : skipBullet (trimStart t) = trimStart t) :
    skipBullet (trimStart (i.elim [] Item.text ++ t)) = trimStart t := by
  cases i with
  | none => exact h
  | some i =>
    obtain ⟨b, ⟨gap, blanks⟩, ne⟩ := i
    obtain ⟨g, more, rfl⟩ := List.exists_cons_of_ne_nil ne
    obtain ⟨blank, blanks⟩ := Text.isBlanks_cons.1 blanks
    have solid : ∀ s, trimStart (b.text ++ s) = b.text ++ s := by
      obtain ⟨d, rest, bullet, solid, -⟩ := exists_cons_bullet b
      intro s
      rw [bullet, List.cons_append]
      exact Text.trimStart_cons_of_not_isBlank solid
    rw [Option.elim_some, Item.text, List.append_assoc, solid, skipBullet, afterBullet?_text,
      List.cons_append]
    dsimp only
    rw [if_pos blank, Text.trimStart_append blanks]

/-- Whether the signs of a heading end in front of a text: behind blanks there is another character. -/
def EndsHeading (t : Text) : Prop :=
  ∃ d rest, trimStart t = d :: rest ∧ d ≠ '#'

/-- A heading ends where a label begins, with emphasis in front of it or without. -/
lemma endsHeading_optional (blanks : IsBlanks gap) (starts : startsLabel c) (e : Option Emphasis)
    (t : Text) : EndsHeading (Emphasis.optional e ++ (gap ++ c :: t)) := by
  cases e with
  | some e =>
    cases e with
    | stars => exact ⟨'*', _, rfl, by decide⟩
    | underscores => exact ⟨'_', _, rfl, by decide⟩
  | none =>
    simp only [startsLabel, Bool.and_eq_true, bne_iff_ne] at starts
    obtain ⟨⟨⟨plain, sign⟩, -⟩, -⟩ := starts
    refine ⟨c, t, ?_, sign⟩
    rw [Emphasis.optional, Option.elim_none, List.nil_append, Text.trimStart_append blanks,
      Text.trimStart_cons_of_not_isBlank (isBlank_of_isUndecorated plain)]

/-- A heading ends where an item begins in front of what ends it. -/
lemma EndsHeading.item (h : EndsHeading t) (i : Option Item) :
    EndsHeading (i.elim [] Item.text ++ t) := by
  cases i with
  | none => exact h
  | some i =>
    obtain ⟨d, rest, bullet, solid, sign⟩ := exists_cons_bullet i.bullet
    refine ⟨d, rest ++ (i.gap.1 ++ t), ?_, sign⟩
    rw [Option.elim_some, Item.text, bullet, List.append_assoc, List.cons_append]
    exact Text.trimStart_cons_of_not_isBlank solid

/-- Where a heading ends no number sign stands. -/
lemma EndsHeading.dropLead?_eq_none (h : EndsHeading t) : dropLead? ['#'] t = none := by
  refine Option.eq_none_iff_forall_ne_some.2 ?_
  intro behind found
  obtain ⟨d, rest, trimmed, sign⟩ := h
  rw [Text.dropLead?_eq_some.1 found] at trimmed
  exact sign (List.cons.inj trimmed).1.symm

/-- What ends a heading ends it without the blanks in front. -/
lemma EndsHeading.trimStart (h : EndsHeading t) : EndsHeading (trimStart t) := by
  obtain ⟨d, rest, trimmed, sign⟩ := h
  exact ⟨d, rest, (Text.trimStart_trimStart t).trans trimmed, sign⟩

/-- What ends a heading ends it behind blanks. -/
lemma EndsHeading.append (h : EndsHeading t) (blanks : IsBlanks gap) : EndsHeading (gap ++ t) := by
  obtain ⟨d, rest, trimmed, sign⟩ := h
  exact ⟨d, rest, (Text.trimStart_append blanks).trans trimmed, sign⟩

/-- Number signs that are no more than allowed are skipped, as long as none follows. -/
lemma skipHeading_replicate {n k : Nat} (le : k ≤ n) (h : dropLead? ['#'] t = none) :
    skipHeading n (List.replicate k '#' ++ t) = t := by
  induction n generalizing k with
  | zero =>
    obtain rfl := Nat.le_zero.1 le
    rfl
  | succ n ih =>
    cases k with
    | zero =>
      rw [List.replicate_zero, List.nil_append, skipHeading_succ, h]
      rfl
    | succ k =>
      rw [List.replicate_succ, List.cons_append, skipHeading]
      exact ih (Nat.le_of_succ_le_succ le)

/-- A heading and the blanks around it are cut off where its signs end. -/
lemma skipHeading_text (blanks : IsBlanks gap) (h : Option Heading) (ends : EndsHeading t) :
    trimStart (skipHeading 6 (trimStart (gap ++ (h.elim [] Heading.text ++ t)))) = trimStart t := by
  rw [Text.trimStart_append blanks]
  cases h with
  | none =>
    have stays : skipHeading 6 (trimStart t) = trimStart t :=
      skipHeading_replicate (Nat.zero_le 6) ends.trimStart.dropLead?_eq_none
    rw [Option.elim_none, List.nil_append, stays, Text.trimStart_trimStart]
  | some h =>
    obtain ⟨k, ⟨gap', blanks'⟩, pos, le⟩ := h
    obtain ⟨j, rfl⟩ := Nat.exists_eq_add_one_of_ne_zero (Nat.ne_of_gt pos)
    have solid : trimStart (List.replicate (j + 1) '#' ++ (gap' ++ t)) =
        List.replicate (j + 1) '#' ++ (gap' ++ t) := rfl
    rw [Option.elim_some, Heading.text, List.append_assoc, solid,
      skipHeading_replicate le (ends.append blanks').dropLead?_eq_none, Text.trimStart_append blanks']

/-- What stands before a label is cut off it. -/
lemma skipDecoration_text (l : LabelLead) (starts : startsLabel c) (t : Text) :
    skipDecoration (l.text ++ c :: t) = c :: t := by
  obtain ⟨⟨indent, blanks⟩, heading, item, emphasis, ⟨gap, blanks'⟩⟩ := l
  have ends := (endsHeading_optional blanks' starts emphasis t).item item
  have stays := skipBullet_optional blanks' starts emphasis t
  rw [LabelLead.text, skipDecoration]
  simp only [List.append_assoc]
  rw [skipHeading_text blanks heading ends, skipBullet_item item stays,
    skipEmphasis_optional blanks' (isUnmarked_of_startsLabel starts)]

/-- In front of a value its own emphasis is skipped, and nothing else. -/
lemma skipEmphasis_value (v : LabelValue) : skipEmphasis (trimStart v.text) = v.value := by
  obtain ⟨⟨gap, blanks⟩, emphasis, value, longest, noMark⟩ := v
  have trimmed : trimStart (gap ++ (Emphasis.optional emphasis ++ value)) =
      Emphasis.optional emphasis ++ value := (Text.run_append blanks longest).2
  rw [LabelValue.text, trimmed]
  cases emphasis with
  | none => exact skipEmphasis_of_noMark (noMark rfl)
  | some e => exact skipEmphasis_append e value

/-- The value is what the grammar has behind the colon. -/
lemma value?_text (l : LabelTail) (v : LabelValue) :
    value? (l.text ++ ':' :: v.text) = some v.value := by
  obtain ⟨⟨gap, blanks⟩, emphasis, ⟨colonGap, colonBlanks⟩⟩ := l
  have colon : trimStart (skipEmphasis (trimStart
      (Emphasis.optional emphasis ++ (colonGap ++ ':' :: v.text)))) = ':' :: v.text :=
    skipEmphasis_optional colonBlanks (by decide) emphasis v.text
  rw [value?_eq, LabelTail.text]
  simp only [List.append_assoc]
  rw [Text.trimStart_append blanks, colon]
  exact congrArg some (skipEmphasis_value v)

end Complete

/-- The label and the value of a line of the grammar are read. -/
lemma read?_text (l : LabelledLine) : read? l.text = some (l.label, l.behind.value) := by
  obtain ⟨c, more, label, starts⟩ := startsLabel_of_spellsWords l.spells
  have decorated : skipDecoration l.text = l.label ++ (l.tail.text ++ ':' :: l.behind.text) := by
    rw [LabelledLine.text, label, List.cons_append]
    exact skipDecoration_text l.lead starts _
  rw [read?_eq, decorated, cutAnyLabel?_eq_some.2 ⟨l.field, l.spells, rfl⟩, Option.bind_some,
    value?_text, Option.map_some]

/-- A line of which a label and a value are read is a line of the grammar. -/
lemma exists_labelledLine (h : read? line = some (label, value)) :
    ∃ l : LabelledLine, l.text = line ∧ l.label = label ∧ l.behind.value = value := by
  rw [read?_eq, Option.bind_eq_some_iff] at h
  obtain ⟨⟨seen, rest⟩, cut, h⟩ := h
  obtain ⟨found, behind, e⟩ := Option.map_eq_some_iff.1 h
  cases e
  obtain ⟨lead, decorated⟩ := exists_lead line
  obtain ⟨f, spells, split⟩ := cutAnyLabel?_eq_some.1 cut
  obtain ⟨tail, value, rfl, rfl⟩ := exists_value behind
  refine ⟨⟨lead, f, seen, spells, tail, value⟩, ?_, rfl, rfl⟩
  rw [LabelledLine.text, ← split, ← decorated]

/-- The parts of a line that are read are the same however the line is taken apart. -/
lemma eq_of_text {l m : LabelledLine} (same : l.text = m.text) :
    l.field = m.field ∧ l.label = m.label ∧ l.behind.value = m.behind.value := by
  have read := read?_text l
  rw [same, read?_text m, Option.some_inj, Prod.mk.injEq] at read
  obtain ⟨label, value⟩ := read
  exact ⟨eq_of_spellsWords l.spells m.spells (congrArg (· ++ []) label.symm), label.symm, value.symm⟩

end FieldLine

namespace Reading

/-- A line that holds a field opens no fence. -/
lemma fenceInfo?_of_read? {p : Text × Text} (h : FieldLine.read? line = some p) :
    fenceInfo? line = none := by
  refine Option.eq_none_iff_forall_ne_some.2 ?_
  intro info fence
  rw [FieldLine.read?_eq, Option.bind_eq_some_iff] at h
  obtain ⟨⟨label, rest⟩, cut, -⟩ := h
  obtain ⟨f, spells, split⟩ := FieldLine.cutAnyLabel?_eq_some.1 cut
  obtain ⟨c, more, rfl, starts⟩ := FieldLine.startsLabel_of_spellsWords spells
  -- no decoration begins with a backtick, so the label would have to
  have stays : FieldLine.skipDecoration line = fenceMark.toList ++ info := by
    rw [FieldLine.skipDecoration, Text.dropLead?_eq_some.1 fence]
    rfl
  rw [stays] at split
  obtain rfl : '`' = c := (List.cons.inj split).1
  cases starts

/-- A line that holds a field takes the field, if the label is one of a field. -/
lemma feedProse_of_read? (s : Reading) (h : FieldLine.read? line = some (label, value)) :
    s.feedProse line = ((Field.ofLabel? label).map fun f => s.takeField f (cleanValue value)).getD
      { s with current := none } := by
  rw [feedProse, fenceInfo?_of_read? h]
  dsimp only
  rw [h]
  dsimp only
  cases Field.ofLabel? label <;> rfl

/-- A labelled line is read as the value of the field that its label stands for. -/
lemma feedProse_text (s : Reading) (l : LabelledLine) : s.feedProse l.text =
    ((Field.ofLabel? l.label).map fun f => s.takeField f (cleanValue l.behind.value)).getD
      { s with current := none } :=
  feedProse_of_read? s (FieldLine.read?_text l)

/-- Blanks at the ends of a value are left out of it. -/
lemma cleanValue_trim (t : Text) : cleanValue (Text.trim t) = cleanValue t := by
  rw [cleanValue, cleanValue, Text.trim_trim]

end Reading

/-- No blanks. -/
def Blanks.none : Blanks :=
  ⟨[], IsBlanks.nil⟩

/-- One space. -/
def Blanks.space : Blanks :=
  ⟨[' '], Text.isBlanks_cons.2 ⟨by decide, IsBlanks.nil⟩⟩

/-- The line with the same label and nothing else in front of the colon. -/
def LabelledLine.plain (l : LabelledLine) (behind : LabelValue) : LabelledLine where
  lead := ⟨Blanks.none, none, none, none, Blanks.none⟩
  field := l.field
  label := l.label
  spells := l.spells
  tail := ⟨Blanks.none, none, Blanks.none⟩
  behind := behind

/-- The plain line of a label is the label, a colon and the value. -/
lemma LabelledLine.plain_text (l : LabelledLine) (v : LabelValue) :
    (l.plain v).text = l.label ++ ':' :: v.text :=
  rfl

/-- The trimmed value behind a space. -/
def LabelValue.plain (v : LabelValue) (noMark : ∀ e : Emphasis, ¬ e.text <+: Text.trim v.value) :
    LabelValue where
  gap := Blanks.space
  emphasis := none
  value := Text.trim v.value
  longest := fun _ first => Text.isBlank_head?_of_trim (Text.trim_trim v.value) first
  noMark := fun _ => noMark

/-- A label and a value are read of exactly the lines of the grammar, and they do not depend on how the
line is taken apart. What stands around the label changes neither what is read nor what is done with
it, so a decorated line and the line without decoration, its value trimmed, are taken for the same
field. -/
theorem FieldLine.read?_iff_labelledLine :
    (∀ line label value, read? line = some (label, value) ↔
      ∃ l : LabelledLine, l.text = line ∧ l.label = label ∧ l.behind.value = value) ∧
    (∀ l m : LabelledLine, l.text = m.text →
      l.field = m.field ∧ l.label = m.label ∧ l.behind.value = m.behind.value) ∧
    (∀ (l : LabelledLine) (s : Reading),
      read? l.text = read? (l.label ++ ':' :: l.behind.text) ∧
      s.feedProse l.text = s.feedProse (l.label ++ ':' :: l.behind.text)) ∧
    ∀ (l : LabelledLine) (s : Reading), (∀ e : Emphasis, ¬ e.text <+: Text.trim l.behind.value) →
      s.feedProse l.text = s.feedProse (l.label ++ ": ".toList ++ Text.trim l.behind.value) := by
  refine ⟨?_, fun l m => eq_of_text, ?_, ?_⟩
  · intro line label value
    constructor
    · exact exists_labelledLine
    · rintro ⟨l, rfl, rfl, rfl⟩
      exact read?_text l
  · intro l s
    rw [← l.plain_text]
    exact ⟨(read?_text l).trans (read?_text (l.plain l.behind)).symm,
      (s.feedProse_text l).trans (s.feedProse_text (l.plain l.behind)).symm⟩
  · intro l s noMark
    have shape : l.label ++ ": ".toList ++ Text.trim l.behind.value =
        (l.plain (l.behind.plain noMark)).text :=
      List.append_assoc _ _ _
    have value : (l.behind.plain noMark).value = Text.trim l.behind.value := rfl
    rw [shape, s.feedProse_text, s.feedProse_text, LabelledLine.plain, value, Reading.cleanValue_trim]

/-- A line with all that can stand around a label: `## 1) **TIME  compleXity** : __ O(n)`. -/
def LabelledLine.decorated : LabelledLine where
  lead := {
    indent := Blanks.none
    heading := some ⟨2, Blanks.space, by decide, by decide⟩
    item := some {
      bullet := .number ['1'] ')' (by decide) (List.forall_mem_singleton.2 (by decide)) (.inr rfl)
      gap := Blanks.space
      gap_ne_nil := by decide }
    emphasis := some .stars
    gap := Blanks.none }
  field := .timeComplexity
  label := "TIME".toList ++ ("  ".toList ++ "compleXity".toList)
  spells := .cons (by decide) (by decide) (List.all_eq_true.1 (by decide)) (.last (by decide))
  tail := ⟨Blanks.none, some .stars, Blanks.space⟩
  behind := {
    gap := Blanks.space
    emphasis := some .underscores
    value := " O(n)".toList
    longest := by
      rintro _ ⟨⟩
      decide
    noMark := fun missing => by cases missing }

/-- However the decorated line is taken apart, it holds the time complexity, and it is taken like the
line without decoration. -/
theorem FieldLine.read?_iff_labelledLine_decorated :
    (∃ l : LabelledLine, l.text = "## 1) **TIME  compleXity** : __ O(n)".toList) ∧
    (∀ m : LabelledLine, m.text = "## 1) **TIME  compleXity** : __ O(n)".toList →
      m.field = .timeComplexity ∧ m.label = "TIME  compleXity".toList ∧
      m.behind.value = " O(n)".toList) ∧
    ∀ s : Reading, s.feedProse "## 1) **TIME  compleXity** : __ O(n)".toList =
      s.feedProse "TIME  compleXity: O(n)".toList := by
  obtain ⟨-, unique, -, plain⟩ := read?_iff_labelledLine
  have text : LabelledLine.decorated.text = "## 1) **TIME  compleXity** : __ O(n)".toList := by
    decide
  have noMark : ∀ e : Emphasis, ¬ e.text <+: Text.trim LabelledLine.decorated.behind.value := by
    intro e
    cases e <;> decide
  refine ⟨⟨.decorated, text⟩, ?_, ?_⟩
  · intro m same
    exact unique m .decorated (same.trans text.symm)
  · intro s
    rw [← text]
    exact plain .decorated s noMark

end SnippetCost
