import SnippetCost.Proofs.Snippet.LoopHead
import SnippetCost.Snippet.Estimate

/-!
# Tests for membership

Taking out the heads of loops takes the whole words `in` with it that end them, and no others: a head
begins and ends with a word, so what is left is made of the same words. What follows a word changes
only where a head follows it.

`isMembership_withoutLoopHeads` says when a word that is left is a test, and `any_isMembership_iff`
goes over all places of what is left. The main result is `hasMembership_iff`.
-/

namespace SnippetCost

open Text

namespace Pattern

variable {t front s back run rest : Text} {before out : Option Char} {c : Char}

/-- No head begins within a word. -/
lemma afterLoopHead?_of_touches (touches : before.any isWordChar) :
    afterLoopHead? ⟨before, s⟩ = none := by
  rw [afterLoopHead?, Place.afterLead?, Place.touchesWord, if_pos touches, Option.bind_none]

/-- Where no head begins, a word is left at the start of a text that was there. -/
lemma withoutLoopHeads_eq_append (word : ∀ c ∈ run, isWordChar c)
    (none : afterLoopHead? ⟨before, s⟩ = none) :
    withoutLoopHeads before s = run ++ rest ↔
      ∃ back, s = run ++ back ∧ withoutLoopHeads (run.getLast?.or before) back = rest := by
  induction run generalizing before s with
  | nil => simp
  | cons c run ih =>
    cases s with
    | nil => simp [withoutLoopHeads_nil]
    | cons d s =>
      obtain ⟨hc, word⟩ := List.forall_mem_cons.1 word
      have inside : (some c).any isWordChar := hc
      have behind := ih (s := s) word (afterLoopHead?_of_touches inside)
      rw [withoutLoopHeads_cons none, getLast?_cons_or]
      constructor
      · intro e
        obtain ⟨rfl, left⟩ := List.cons.inj e
        obtain ⟨back, rfl, left'⟩ := behind.1 left
        exact ⟨back, rfl, left'⟩
      · rintro ⟨back, e, left⟩
        obtain ⟨rfl, rfl⟩ := List.cons.inj e
        rw [behind.2 ⟨back, rfl, left⟩, List.cons_append]

/-- Where no head begins, taking heads out keeps whether a word goes on. -/
lemma beginsInWord_withoutLoopHeads (none : afterLoopHead? ⟨before, s⟩ = none) :
    beginsInWord (withoutLoopHeads before s) = beginsInWord s := by
  cases s with
  | nil => rw [withoutLoopHeads_nil]
  | cons c s => rw [withoutLoopHeads_cons none, beginsInWord, beginsInWord, List.head?_cons,
      List.head?_cons]

/-- Where no head begins behind blanks, taking heads out adds none. -/
lemma trimStart_withoutLoopHeads (none : afterLoopHead? ⟨before, trimStart s⟩ = none) :
    trimStart (withoutLoopHeads before (trimStart s)) = withoutLoopHeads before (trimStart s) := by
  cases trimmed : trimStart s with
  | nil =>
    rw [withoutLoopHeads_nil]
    rfl
  | cons c rest =>
    rw [trimmed] at none
    rw [withoutLoopHeads_cons none, trimStart_cons_of_not_isBlank (trimStart_eq_cons trimmed)]

/-- Where no head follows the blanks at the start of a text, a word that follows them is left
there. -/
lemma isPrefix_trimStart_withoutLoopHeads (word : ∀ c ∈ run, isWordChar c)
    (none : ∀ gap, IsBlanks gap → s = gap ++ trimStart s →
      afterLoopHead? ⟨gap.getLast?.or before, trimStart s⟩ = none) :
    run <+: trimStart (withoutLoopHeads before s) ↔ run <+: trimStart s := by
  obtain ⟨gap, blanks, e⟩ := exists_append_trimStart s
  have none := none gap blanks e
  have kept : withoutLoopHeads before s =
      gap ++ withoutLoopHeads (gap.getLast?.or before) (trimStart s) := by
    rw [← withoutLoopHeads_append blanks, ← e]
  rw [kept, trimStart_append blanks, trimStart_withoutLoopHeads none]
  constructor
  · rintro ⟨rest, e⟩
    obtain ⟨back, e, -⟩ := (withoutLoopHeads_eq_append word none).1 e.symm
    exact ⟨back, e.symm⟩
  · rintro ⟨back, e⟩
    exact ⟨_, ((withoutLoopHeads_eq_append word none).2 ⟨back, e.symm, rfl⟩).symm⟩

/-- A test for membership is a whole word `in` without `range` behind it. -/
lemma isMembership_iff {p : Place} :
    isMembership p ↔
      ∃ rest, p.afterWord? "in".toList = some rest ∧ ¬ "range".toList <+: trimStart rest := by
  rw [isMembership]
  cases p.afterWord? "in".toList with
  | none => simp
  | some rest =>
    simp only [Bool.not_eq_true', Option.some_inj, exists_eq_left', ← List.isPrefixOf_iff_prefix,
      Bool.not_eq_true]

/-- Where no head follows a whole word `in`, none is found behind the word and blanks. -/
lemma afterLoopHead?_behind {w : WholeWord "in".toList t} (apart : ∀ h : LoopHead t, ¬ h.Follows w)
    {gap : Text} (blanks : IsBlanks gap) (e : w.back = gap ++ s) :
    afterLoopHead? ⟨gap.getLast?.or (some 'n'), s⟩ = none := by
  have cut : t = w.front ++ ("in".toList ++ gap) ++ s := by
    rw [List.append_assoc, List.append_assoc, ← e]
    exact w.text_eq
  have last : (w.front ++ ("in".toList ++ gap)).getLast? = gap.getLast?.or (some 'n') := by
    rw [List.getLast?_append, List.getLast?_append, Option.or_assoc]
    rfl
  rw [← last]
  cases found : afterLoopHead? ⟨(w.front ++ ("in".toList ++ gap)).getLast?, s⟩ with
  | none => rfl
  | some rest =>
    obtain ⟨h, front_eq, -⟩ := (afterLoopHead?_eq_some cut).1 found
    exact absurd ⟨gap, blanks, front_eq⟩ (apart h)

/-- Whether a text goes on with a word behind both characters or behind neither. -/
def GoesOnAlike (out before : Option Char) (s : Text) : Prop :=
  out.any isWordChar = before.any isWordChar ∨ beginsInWord s = false

/-- A word `in` that is left was one of the text, and no head starts at it. -/
lemma afterWord?_withoutLoopHeads (cut : t = front ++ s)
    (alike : GoesOnAlike out front.getLast? s)
    (none : afterLoopHead? ⟨front.getLast?, s⟩ = none) :
    Place.afterWord? ⟨out, withoutLoopHeads front.getLast? s⟩ "in".toList = some rest ↔
      ∃ w : WholeWord "in".toList t, w.front = front ∧
        withoutLoopHeads (some 'n') w.back = rest := by
  have last : "in".toList.getLast?.or front.getLast? = some 'n' := rfl
  have inside : (some 'n').any isWordChar := isWordChar_of_mem_in 'n' (by decide)
  have ends (back : Text) : beginsInWord (withoutLoopHeads (some 'n') back) = beginsInWord back :=
    beginsInWord_withoutLoopHeads (afterLoopHead?_of_touches inside)
  have begins (back : Text) : beginsInWord ("in".toList ++ back) := isWordChar_of_mem_in 'i' (by decide)
  rw [Place.afterWord?_eq_some, withoutLoopHeads_eq_append isWordChar_of_mem_in none, last]
  constructor
  · rintro ⟨outside, ⟨back, rfl, rfl⟩, stops⟩
    rw [GoesOnAlike, begins, Bool.true_eq_false, or_false] at alike
    exact ⟨⟨front, back, cut, alike.symm.trans outside, (ends back).symm.trans stops⟩, rfl, rfl⟩
  · rintro ⟨w, rfl, rfl⟩
    obtain rfl := List.append_cancel_left (cut.symm.trans w.text_eq)
    rw [GoesOnAlike, begins, Bool.true_eq_false, or_false] at alike
    exact ⟨alike.trans w.begins_word, ⟨w.back, rfl, rfl⟩, (ends w.back).trans w.ends_word⟩

/-- Where no head begins, and none follows a whole word `in`, a test for membership is left if it
stood there. -/
lemma isMembership_withoutLoopHeads (cut : t = front ++ s)
    (alike : GoesOnAlike out front.getLast? s)
    (none : afterLoopHead? ⟨front.getLast?, s⟩ = none)
    (apart : ∀ w : WholeWord "in".toList t, w.front = front → ∀ h : LoopHead t, ¬ h.Follows w) :
    isMembership ⟨out, withoutLoopHeads front.getLast? s⟩ ↔
      ∃ w : WholeWord "in".toList t, w.front = front ∧ ¬ "range".toList <+: trimStart w.back := by
  have letters : ∀ c ∈ "range".toList, isWordChar c :=
    List.all_eq_true.1 (by decide)
  have range (w : WholeWord "in".toList t) (here : w.front = front) :
      "range".toList <+: trimStart (withoutLoopHeads (some 'n') w.back) ↔
        "range".toList <+: trimStart w.back :=
    isPrefix_trimStart_withoutLoopHeads letters fun _ blanks e =>
      afterLoopHead?_behind (apart w here) blanks e
  rw [isMembership_iff]
  constructor
  · rintro ⟨rest, word, noRange⟩
    obtain ⟨w, here, rfl⟩ := (afterWord?_withoutLoopHeads cut alike none).1 word
    exact ⟨w, here, fun found => noRange ((range w here).2 found)⟩
  · rintro ⟨w, here, noRange⟩
    have word := (afterWord?_withoutLoopHeads cut alike none).2 ⟨w, here, rfl⟩
    exact ⟨_, word, fun found => noRange ((range w here).1 found)⟩

/-- A head that follows a whole word `in` is one of the leftmost heads from the word on. -/
lemma exists_mem_follows {w : WholeWord "in".toList t} {heads : List (LoopHead t)}
    (leftmost : LoopHead.AreLeftmost w.start heads) {e : LoopHead t} (follows : e.Follows w) :
    ∃ h ∈ heads, h.Follows w := by
  obtain ⟨gap, blanks, front_eq⟩ := follows
  have start : e.start = w.start + ("in".toList ++ gap).length := by
    rw [LoopHead.start, WholeWord.start, front_eq, List.length_append, WholeWord.start]
  cases heads with
  | nil =>
    have lt : e.start < w.start := leftmost e
    omega
  | cons h hs =>
    refine ⟨h, .head _, gap, blanks, ?_⟩
    obtain ⟨lower, first, -⟩ := leftmost
    have upper : h.start ≤ e.start := first e (by omega)
    rw [← front_eq]
    refine (List.append_inj (h.keyword.text_eq.symm.trans e.keyword.text_eq) ?_).1
    refine Nat.le_antisymm upper (Nat.le_of_not_lt fun lt => ?_)
    -- between the word and the head that follows it there is no `f` to begin another one
    have cut := h.keyword.text_eq.symm.trans e.keyword.text_eq
    rw [front_eq, List.append_assoc] at cut
    obtain ⟨c, mem, head⟩ := exists_mem_head?_eq cut lower (Nat.lt_of_lt_of_le lt (Nat.le_of_eq start))
    obtain rfl : 'f' = c := Option.some.inj head
    rcases List.mem_append.1 mem with mem | mem
    · exact absurd mem (by decide)
    · exact absurd (blanks _ mem) (by decide)

section Tests

variable {heads hs : List (LoopHead t)} {P : WholeWord "in".toList t → Prop}

/-- The whole words `in` that end no head come before the next head or behind it. -/
lemma exists_behind_head (h : LoopHead t) :
    (∃ w : WholeWord "in".toList t, h.start ≤ w.start ∧ (∀ e ∈ h :: hs, w ≠ e.closing) ∧ P w) ↔
      ∃ w : WholeWord "in".toList t, h.stop ≤ w.start ∧ (∀ e ∈ hs, w ≠ e.closing) ∧ P w := by
  constructor
  · rintro ⟨w, le, others, test⟩
    obtain ⟨ne, others⟩ := List.forall_mem_cons.1 others
    exact ⟨w, h.stop_le_of_ne le ne, others, test⟩
  · rintro ⟨w, le, others, test⟩
    have ne : w ≠ h.closing := by
      rintro rfl
      have lt : h.closing.start < h.stop := Nat.lt_add_of_pos_right (by decide)
      omega
    have lt := h.start_lt_stop
    exact ⟨w, by omega, List.forall_mem_cons.2 ⟨ne, others⟩, test⟩

/-- They begin at a place where no head does, or behind the place. -/
lemma exists_behind_place (cut : t = front ++ s) (leftmost : LoopHead.AreLeftmost front.length heads) :
    (∃ w : WholeWord "in".toList t, front.length ≤ w.start ∧ (∀ h ∈ heads, w ≠ h.closing) ∧ P w) ↔
      (∃ w : WholeWord "in".toList t, w.front = front ∧ P w) ∨
        ∃ w : WholeWord "in".toList t, front.length + 1 ≤ w.start ∧
          (∀ h ∈ heads, w ≠ h.closing) ∧ P w := by
  constructor
  · rintro ⟨w, le, others, test⟩
    rcases Nat.eq_or_lt_of_le le with start | lt
    · exact .inl ⟨w, w.front_eq_of_start cut start.symm, test⟩
    · exact .inr ⟨w, lt, others, test⟩
  · rintro (⟨w, rfl, test⟩ | ⟨w, lt, others, test⟩)
    · refine ⟨w, Nat.le_refl _, fun h mem => ?_, test⟩
      rintro rfl
      have le := leftmost.le_start h mem
      exact Nat.lt_irrefl _ (Nat.lt_of_lt_of_le h.start_lt_closing le)
    · exact ⟨w, Nat.le_of_lt lt, others, test⟩

/-- What the search finds from a place on, behind a text that ends in a word if the text in front of
the place does. The induction is on the length, since a head is passed at once. -/
lemma any_isMembership_iff (cut : t = front ++ s)
    (alike : GoesOnAlike out front.getLast? s)
    (leftmost : LoopHead.AreLeftmost front.length heads)
    (apart : ∀ w : WholeWord "in".toList t, ∀ h ∈ heads, ¬ h.Follows w) :
    (placesFrom out (withoutLoopHeads front.getLast? s)).any isMembership ↔
      ∃ w : WholeWord "in".toList t, front.length ≤ w.start ∧ (∀ h ∈ heads, w ≠ h.closing) ∧
        ¬ "range".toList <+: trimStart w.back := by
  induction len : s.length using Nat.strongRecOn generalizing front s out heads with
  | ind n ih =>
    cases found : afterLoopHead? ⟨front.getLast?, s⟩ with
    | some rest =>
      have shorter := afterLoopHead?_length found
      obtain ⟨h, rfl, rfl⟩ := (afterLoopHead?_eq_some cut).1 found
      obtain ⟨hs, rfl, rest⟩ := leftmost.head h rfl
      have last : (h.closing.front ++ "in".toList).getLast? = some 'n' := by
        rw [List.getLast?_append]
        rfl
      have stop : (h.closing.front ++ "in".toList).length = h.stop := h.closing.length_behind
      rw [← stop] at rest
      have behind : (placesFrom out _).any isMembership ↔ _ := ih h.closing.back.length
        (len ▸ shorter) h.closing.text_eq_behind (.inr h.closing.ends_word) rest
        (fun w e mem => apart w e (.tail _ mem)) rfl
      rw [last, stop] at behind
      rw [withoutLoopHeads_head found, behind]
      exact (exists_behind_head h).symm
    | none =>
      have noHead := start_ne_of_afterLoopHead? cut found
      have apart' : ∀ w : WholeWord "in".toList t, w.front = front →
          ∀ h : LoopHead t, ¬ h.Follows w := by
        rintro w rfl h follows
        obtain ⟨e, mem, follows⟩ := exists_mem_follows leftmost follows
        exact apart w e mem follows
      have here := isMembership_withoutLoopHeads cut alike found apart'
      rw [exists_behind_place cut leftmost, ← here]
      cases s with
      | nil =>
        have ends : ¬ ∃ w : WholeWord "in".toList t, front.length + 1 ≤ w.start ∧
            (∀ h ∈ heads, w ≠ h.closing) ∧ ¬ "range".toList <+: trimStart w.back := by
          rintro ⟨w, lt, -⟩
          have le := w.start_le
          have length := congrArg List.length cut
          rw [List.append_nil] at length
          omega
        rw [withoutLoopHeads_nil, placesFrom, List.any_cons, List.any_nil, Bool.or_false]
        exact (or_iff_left ends).symm
      | cons c s =>
        have cut' : t = front ++ [c] ++ s := by rw [cut, List.append_assoc, List.singleton_append]
        have last : (front ++ [c]).getLast? = some c := List.getLast?_concat
        have length : (front ++ [c]).length = front.length + 1 := List.length_append
        have leftmost := (LoopHead.areLeftmost_succ noHead).2 leftmost
        rw [← length] at leftmost
        have behind : (placesFrom (some c) _).any isMembership ↔ _ := ih s.length
          (by simp [← len]) cut' (.inl (by rw [last])) leftmost apart rfl
        rw [last, length] at behind
        rw [withoutLoopHeads_cons found, placesFrom, List.any_cons, Bool.or_eq_true, behind]

end Tests

end Pattern

namespace Snippet

/-- A text has leftmost heads of loops. If none of them follows a whole word `in`, the snippet tests
for membership if and only if some whole word `in` ends none of them and no word that begins with
`range` comes next. -/
theorem hasMembership_iff [PatternBuilder] (t : Text) :
    (∃ heads : List (LoopHead t), LoopHead.AreLeftmost 0 heads) ∧
      ∀ heads : List (LoopHead t), LoopHead.AreLeftmost 0 heads →
        (∀ w : WholeWord "in".toList t, ∀ h ∈ heads, ¬ h.Follows w) →
        ((Snippet.ofText t).hasMembership ↔
          ∃ w : WholeWord "in".toList t, (∀ h ∈ heads, w ≠ h.closing) ∧
            ¬ "range".toList <+: trimStart w.back) := by
  refine ⟨LoopHead.exists_areLeftmost t 0, fun heads leftmost apart => ?_⟩
  have all := @Pattern.any_isMembership_iff t [] t none heads rfl (.inl rfl) leftmost apart
  have every (w : WholeWord "in".toList t) : ([] : Text).length ≤ w.start := Nat.zero_le _
  simp only [every, true_and] at all
  exact all

/-- A comprehension with a condition. -/
def filtered : Text :=
  "[y for y in a if y in b]".toList

/-- Its condition tests for membership. -/
theorem hasMembership_iff_filtered : (Snippet.ofText filtered).hasMembership := by
  obtain ⟨⟨heads, leftmost⟩, iff⟩ := hasMembership_iff filtered
  -- the words `in` stand at the places 9 and 19, and `for` stands before both
  have keyword : ∀ n ≤ filtered.length, "for".toList <+: filtered.drop n → n < 9 := by
    decide +kernel
  have blanks : ∀ n ≤ filtered.length, "for".toList <+: trimStart (filtered.drop n) → n < 9 := by
    decide +kernel
  have operator : ∀ n ≤ filtered.length, "in".toList <+: filtered.drop n → 9 ≤ n := by
    decide +kernel
  let target : WholeWord "in".toList filtered :=
    ⟨"[y for y ".toList, " a if y in b]".toList, by decide +kernel, by decide +kernel,
      by decide +kernel⟩
  let test : WholeWord "in".toList filtered :=
    ⟨"[y for y in a if y ".toList, " b]".toList, by decide +kernel, by decide +kernel,
      by decide +kernel⟩
  refine (iff heads leftmost fun w h _ follows => ?_).2 ⟨test, fun h _ closes => ?_, by decide +kernel⟩
  · have behind := follows.isPrefix_trimStart
    rw [← w.drop_stop] at behind
    have lt := blanks w.stop w.stop_le behind
    have le := operator w.start w.start_le ⟨w.back, w.drop_start.symm⟩
    have inner : w.start ≤ w.stop := Nat.le_add_right _ _
    omega
  · have lt := keyword h.start h.keyword.start_le ⟨h.keyword.back, h.keyword.drop_start.symm⟩
    have first : h.closing.start ≤ 9 := h.first target lt
    rw [← closes] at first
    exact absurd first (by decide +kernel)

/-- A loop on a name that begins like the word for a range. -/
def whileInRanges : Text :=
  "while x in ranges:\n    x = x + 1".toList

/-- It has no head of a `for` loop, and the whole word `range` does not follow its `in`; it still
does not count as a test for membership, and the snippet is not estimated as quadratic. -/
theorem hasMembership_eq_false_whileInRanges :
    LoopHead.AreLeftmost 0 ([] : List (LoopHead whileInRanges)) ∧
      (∃ w : WholeWord "in".toList whileInRanges,
        ¬ ∃ rest, trimStart w.back = "range".toList ++ rest ∧ beginsInWord rest = false) ∧
      (Snippet.ofText whileInRanges).hasMembership = false ∧
      Estimate.ofText whileInRanges = ⟨.linear, .nestingDepth, 1⟩ := by
  have keyword : ∀ n ≤ whileInRanges.length, ¬ "for".toList <+: whileInRanges.drop n := by
    decide +kernel
  let w : WholeWord "in".toList whileInRanges :=
    ⟨"while x ".toList, " ranges:\n    x = x + 1".toList, by decide +kernel, by decide +kernel,
      by decide +kernel⟩
  refine ⟨fun h => ?_, ⟨w, ?_⟩, by decide +kernel, by decide +kernel⟩
  · have stands : "for".toList <+: whileInRanges.drop h.start :=
      ⟨h.keyword.back, h.keyword.drop_start.symm⟩
    exact absurd stands (keyword h.start h.keyword.start_le)
  · rintro ⟨rest, e, ends⟩
    have behind : trimStart w.back = "range".toList ++ "s:\n    x = x + 1".toList := by
      decide +kernel
    obtain rfl := List.append_cancel_left (behind.symm.trans e)
    exact absurd ends (by decide +kernel)

end Snippet

end SnippetCost
