import SnippetCost.Proofs.Text.Search
import SnippetCost.Proofs.Text.Trim
import SnippetCost.Report.Numeral
import SnippetCost.Text.Double

/-!
# Ratings out of ten

A number that is said to be out of ten is found behind any other numbers: what stands between two
numbers keeps the first from reaching the slash. It is the score as far as it is one, and a fraction
can at most round it up.

`numeral?_of_outOfTen` passes what stands in front of the number, `read?_of_numeral?` reads it, and
`min_le_score` and `score_le_min` bound the score. The main result is `read?_firstOutOfTen`.
-/

namespace SnippetCost

open Text (IsBlanks beginsInWord trimStart)

variable {c : Char} {t p u m : Text}

/-- An ASCII digit is a decimal. -/
lemma isDecimal_of_isAsciiDigit (h : isAsciiDigit c) : isDecimal c := by
  simp only [isAsciiDigit, Bool.and_eq_true, decide_eq_true_eq] at h
  have zero : 0x30 ≤ c.toNat := UInt32.le_iff_toNat_le.1 h.1
  have nine : c.toNat ≤ 0x39 := UInt32.le_iff_toNat_le.1 h.2
  simp [isDecimal, decimalRanges, Ranges.has, zero, nine]

namespace IsDigits

/-- Digits are decimals. -/
lemma isDecimal (h : IsDigits t) : ∀ c ∈ t, isDecimal c :=
  fun c mem => isDecimal_of_isAsciiDigit (h.isAsciiDigit c mem)

/-- A text that begins with digits begins with no blank. -/
lemma startsSolid (h : IsDigits t) (u : Text) : Text.startsSolid (t ++ u) := by
  obtain ⟨c, rest, rfl⟩ := List.exists_cons_of_ne_nil h.ne_nil
  have digit := h.isAsciiDigit c List.mem_cons_self
  simp [Text.startsSolid, isBlank_of_isAsciiDigit digit]

/-- A character that is no digit is not among digits. -/
lemma notMem (h : IsDigits t) (hc : SnippetCost.isAsciiDigit c = false) : c ∉ t := by
  intro mem
  rw [h.isAsciiDigit c mem] at hc
  cases hc

end IsDigits

namespace Rating

/-- No score is better than the best. -/
lemma score_le_best (n : Numeral) : score n ≤ best := by
  rw [score]
  split
  · exact Nat.le_refl best
  · split <;> omega

/-- A score fits into eight bits. -/
lemma toNat_score (n : Numeral) : (UInt8.ofNat (score n)).toNat = score n := by
  have le := score_le_best n
  rw [best] at le
  rw [UInt8.toNat_ofNat', Nat.mod_eq_of_lt (by omega)]

/-- A rating is out of the best score. -/
lemma read?_le_best {n : UInt8} (h : read? t = some n) : n.toNat ≤ best := by
  rw [read?] at h
  split at h
  · next numeral _ =>
    rw [Option.ite_none_right_eq_some] at h
    obtain ⟨-, e⟩ := h
    cases e
    rw [toNat_score]
    exact score_le_best numeral
  · cases h

/-- A numeral scores its whole part at least, as far as it is a score. -/
lemma min_le_score (n : Numeral) : min (numeralValue n.whole) best ≤ score n := by
  rw [score]
  split
  · exact Nat.min_le_right _ _
  · split <;> omega

/-- A fraction adds one at most to the score. -/
lemma score_le_min (n : Numeral) : score n ≤ min (numeralValue n.whole + 1) best := by
  rw [score]
  split
  · omega
  · split <;> omega

/-- Whole numbers are not rounded. -/
lemma score_of_whole {n : Numeral} (whole : n.fraction = []) :
    score n = min (numeralValue n.whole) best := by
  have exact : ∀ n < best, roundsUp n [] = false := by
    decide +kernel
  rw [score, whole]
  split
  · next le => exact (Nat.min_eq_right le).symm
  · next lt =>
    rw [exact _ (Nat.lt_of_not_le lt)]
    exact (Nat.min_eq_left (Nat.le_of_not_le lt)).symm

/-- Whether a number can end in front of a text: it begins with neither a digit nor a point. -/
def EndsNumber (t : Text) : Prop :=
  ∀ c ∈ t.head?, isDecimal c = false ∧ c ≠ '.'

/-- Digits that no number goes on behind are a numeral without a fraction. -/
lemma numeralAt?_of_whole (digits : IsDigits u) (ends : EndsNumber t) :
    numeralAt? (u ++ t) = some ⟨u, [], t⟩ := by
  obtain ⟨whole, rest⟩ := Text.run_append digits.isDecimal fun c head => (ends c head).1
  obtain ⟨c, v, rfl⟩ := List.exists_cons_of_ne_nil digits.ne_nil
  rw [numeralAt?, whole, rest]
  dsimp only
  split
  · exact absurd rfl (ends '.' rfl).2
  · rfl

/-- What begins with a point begins with no decimal. -/
lemma isDecimal_point : ∀ c ∈ ('.' :: t).head?, isDecimal c = false := by
  rintro _ ⟨⟩
  decide

/-- Digits around a point are a numeral with a fraction. -/
lemma numeralAt?_of_fraction {f : Text} (digits : IsDigits u) (fraction : IsDigits f)
    (ends : EndsNumber t) : numeralAt? (u ++ '.' :: (f ++ t)) = some ⟨u, f, t⟩ := by
  obtain ⟨whole, rest⟩ := Text.run_append digits.isDecimal (isDecimal_point (t := f ++ t))
  obtain ⟨behind, after⟩ := Text.run_append fraction.isDecimal fun c head => (ends c head).1
  obtain ⟨c, v, rfl⟩ := List.exists_cons_of_ne_nil digits.ne_nil
  obtain ⟨d, w, rfl⟩ := List.exists_cons_of_ne_nil fraction.ne_nil
  rw [numeralAt?, whole, rest]
  simp only [behind, after]

/-- A number goes on as far as it can: digits, and a point with digits behind it. -/
lemma numeralAt?_cases {n : Numeral} (h : numeralAt? t = some n) :
    IsDecimals n.whole ∧ (∀ c ∈ n.after.head?, isDecimal c = false) ∧
      (n.fraction = [] ∧ t = n.whole ++ n.after ∧
          (∀ v, n.after = '.' :: v → ∀ c ∈ v.head?, isDecimal c = false) ∨
        IsDecimals n.fraction ∧ t = n.whole ++ '.' :: (n.fraction ++ n.after)) := by
  have cut (v : Text) : v = v.takeWhile isDecimal ++ v.dropWhile isDecimal :=
    List.takeWhile_append_dropWhile.symm
  have digits (v : Text) (ne : v.takeWhile isDecimal ≠ []) : IsDecimals (v.takeWhile isDecimal) :=
    ⟨ne, List.all_eq_true.1 List.all_takeWhile⟩
  have stops (v : Text) : ∀ c ∈ (v.dropWhile isDecimal).head?, isDecimal c = false := by
    intro c head
    simpa [Option.mem_def.1 head] using List.head?_dropWhile_not isDecimal v
  rw [numeralAt?] at h
  split at h
  · cases h
  · next ne =>
    dsimp only at h
    split at h
    · next behind point =>
      split at h
      · next none =>
        cases h
        refine ⟨digits t ne, stops t, .inl ⟨rfl, cut t, ?_⟩⟩
        intro v e
        obtain rfl : behind = v := (List.cons.inj (point.symm.trans e)).2
        intro c head
        rw [cut behind, none] at head
        exact stops behind c head
      · next ne' =>
        cases h
        refine ⟨digits t ne, stops behind, .inr ⟨digits behind ne', ?_⟩⟩
        rw [← cut behind, ← point]
        exact cut t
    · next noPoint =>
      cases h
      refine ⟨digits t ne, stops t, .inl ⟨rfl, cut t, ?_⟩⟩
      intro v e
      exact absurd e (noPoint v)

/-- What a numeral is made of. -/
lemma IsNumeral.isDecimal_or_point (h : IsNumeral t) (mem : c ∈ t) : isDecimal c ∨ c = '.' := by
  cases h with
  | whole digits => exact .inl (digits.isDecimal c mem)
  | pointed whole fraction =>
    rw [List.mem_append, List.mem_cons] at mem
    rcases mem with mem | rfl | mem
    · exact .inl (whole.isDecimal c mem)
    · exact .inr rfl
    · exact .inl (fraction.isDecimal c mem)

/-- A number stands at the start of the text that it is found in. -/
lemma isNumeral_of_numeralAt? {n : Numeral} (h : numeralAt? t = some n) :
    IsNumeral n.text ∧ t = n.text ++ n.after := by
  obtain ⟨whole, -, ⟨none, cut, -⟩ | ⟨fraction, cut⟩⟩ := numeralAt?_cases h
  · rw [Numeral.text, if_pos none]
    exact ⟨.whole whole, cut⟩
  · rw [Numeral.text, if_neg fraction.ne_nil, List.append_assoc]
    exact ⟨.pointed whole fraction, cut⟩

/-- A slash and a ten, blanks in front of each, say that a number is out of ten. -/
lemma saysOutOfTen_append {v w s : Text} (hv : IsBlanks v) (hw : IsBlanks w)
    (ends : beginsInWord s = false) : saysOutOfTen (v ++ '/' :: (w ++ '1' :: '0' :: s)) := by
  have slash : trimStart (v ++ '/' :: (w ++ '1' :: '0' :: s)) = '/' :: (w ++ '1' :: '0' :: s) := by
    rw [Text.trimStart_append hv, Text.trimStart_cons_of_not_isBlank (by decide)]
  have ten : trimStart (w ++ '1' :: '0' :: s) = '1' :: '0' :: s := by
    rw [Text.trimStart_append hw, Text.trimStart_cons_of_not_isBlank (by decide)]
  rw [beginsInWord] at ends
  simp only [saysOutOfTen, slash, ten, ends, Bool.not_false]

/-- What says that a number is out of ten is a slash and a ten, blanks in front of each. -/
lemma exists_append_of_saysOutOfTen (h : saysOutOfTen t) :
    ∃ v w s, IsBlanks v ∧ IsBlanks w ∧ beginsInWord s = false ∧
      t = v ++ '/' :: (w ++ '1' :: '0' :: s) := by
  obtain ⟨v, hv, e⟩ := Text.exists_append_trimStart t
  rw [saysOutOfTen] at h
  split at h
  · next rest slash =>
    obtain ⟨w, hw, e'⟩ := Text.exists_append_trimStart rest
    split at h
    · next s ten =>
      rw [slash, e', ten] at e
      exact ⟨v, w, s, hv, hw, (Bool.not_eq_true' _).mp h, e⟩
    · cases h
  · cases h

/-- No number that begins before the last one in front of the first slash is out of ten: something
that belongs to no number, and is no blank, stands between it and the slash. -/
lemma outOfTenAt?_eq_none {c : Char} (last : p.getLast? = some c)
    (apart : isDecimal c = false ∧ c ≠ '.') (solid : Text.startsSolid m) (noSlash : '/' ∉ p ++ m) (t : Text) :
    outOfTenAt? (p ++ (m ++ '/' :: t)) = none := by
  refine Option.eq_none_iff_forall_ne_some.2 fun n found => ?_
  obtain ⟨number, outOfTen⟩ := Option.filter_eq_some_iff.1 found
  obtain ⟨numeral, cut⟩ := isNumeral_of_numeralAt? number
  obtain ⟨gap, _, _, blanks, -, -, after⟩ := exists_append_of_saysOutOfTen outOfTen
  have noSlash' : '/' ∉ n.text ++ gap := by
    rw [List.mem_append]
    rintro (mem | mem)
    · rcases numeral.isDecimal_or_point mem with digit | point
      · exact absurd digit (by decide)
      · cases point
    · exact absurd (blanks _ mem) (by decide)
  -- so what stands before the first slash is the number and the blanks behind it
  have same : p ++ m = n.text ++ gap := by
    rw [after, ← List.append_assoc, ← List.append_assoc] at cut
    have front := congrArg (List.takeWhile (· ≠ '/')) cut
    rwa [Text.takeWhile_ne_append noSlash, Text.takeWhile_ne_append noSlash'] at front
  rcases List.append_eq_append_iff.1 same with ⟨v, text, -⟩ | ⟨v, -, rfl⟩
  · have mem : c ∈ n.text := by
      rw [text]
      exact List.mem_append_left v (List.mem_of_getLast? last)
    rcases numeral.isDecimal_or_point mem with digit | point
    · rw [apart.1] at digit
      cases digit
    · exact apart.2 point
  · rw [Text.startsSolid_of_isBlanks (Text.isBlanks_append.1 blanks).2] at solid
    cases solid

/-- What is found at the start of a text is found first. -/
lemma firstAt?_of_some {f : Text → Option Numeral} {n : Numeral} (ne : t ≠ []) (h : f t = some n) :
    firstAt? f t = some n := by
  obtain ⟨c, rest, rfl⟩ := List.exists_cons_of_ne_nil ne
  rw [firstAt?, h]

/-- A search goes past a text at none of whose characters it finds anything. -/
lemma firstAt?_append {f : Text → Option Numeral} (none : ∀ v, v ≠ [] → v <:+ p → f (v ++ t) = none) :
    firstAt? f (p ++ t) = firstAt? f t := by
  induction p with
  | nil => rfl
  | cons c p ih =>
    have here := none (c :: p) (List.cons_ne_nil c p) (List.suffix_refl _)
    rw [List.cons_append] at here ⊢
    rw [firstAt?, here]
    exact ih fun v ne suffix => none v ne (suffix.trans (List.suffix_cons c p))

/-- A number in front of the first slash that is out of ten is the rating, whatever numbers stand
before it. -/
lemma numeral?_of_outOfTen {n : Numeral} (apart : ∀ c ∈ p.getLast?, isDecimal c = false ∧ c ≠ '.')
    (solid : Text.startsSolid m) (noSlash : '/' ∉ p ++ m)
    (found : outOfTenAt? (m ++ '/' :: t) = some n) :
    numeral? (p ++ (m ++ '/' :: t)) = some n := by
  have passes : ∀ v, v ≠ [] → v <:+ p → outOfTenAt? (v ++ (m ++ '/' :: t)) = none := by
    rintro v ne ⟨u, rfl⟩
    have last : v.getLast? = some (v.getLast ne) := List.getLast?_eq_some_getLast ne
    refine outOfTenAt?_eq_none last (apart _ ?_) solid ?_ t
    · rw [List.getLast?_append, last, Option.some_or]
      rfl
    · rw [List.append_assoc] at noSlash
      exact fun mem => noSlash (List.mem_append_right u mem)
  rw [numeral?, firstAt?_append passes, firstAt?_of_some (by simp) found]

/-- The numeral that is found is read as its score, if its digits are ASCII digits. -/
lemma read?_of_numeral? {n : Numeral} (found : numeral? t = some n)
    (digits : ∀ c ∈ n.whole ++ n.fraction, isAsciiDigit c) :
    read? t = some (UInt8.ofNat (score n)) := by
  rw [read?, found]
  exact if_pos (List.all_eq_true.2 digits)

/-- No number goes on where it is said to be out of ten. -/
lemma endsNumber_outOfTen {v : Text} (hv : IsBlanks v) : EndsNumber (v ++ '/' :: t) := by
  intro c head
  cases v with
  | nil =>
    cases head
    decide
  | cons d v =>
    cases head
    have blank := (Text.isBlanks_cons.1 hv).1
    refine ⟨isDecimal_of_isBlank blank, ?_⟩
    rintro rfl
    exact absurd blank (by decide)

/-- A number that reaches up to what says that it is out of ten decides the rating. -/
lemma read?_of_numeralAt? {n : Numeral} {v w s : Text}
    (apart : ∀ c ∈ p.getLast?, isDecimal c = false ∧ c ≠ '.') (solid : ∀ t, Text.startsSolid (u ++ t))
    (noSlash : '/' ∉ p ++ u) (hv : IsBlanks v) (hw : IsBlanks w) (ends : beginsInWord s = false)
    (number : numeralAt? (u ++ (v ++ '/' :: (w ++ '1' :: '0' :: s))) = some n)
    (after : n.after = v ++ '/' :: (w ++ '1' :: '0' :: s))
    (digits : ∀ c ∈ n.whole ++ n.fraction, isAsciiDigit c) :
    read? (p ++ u ++ v ++ '/' :: w ++ '1' :: '0' :: s) = some (UInt8.ofNat (score n)) := by
  have shape : p ++ u ++ v ++ '/' :: w ++ '1' :: '0' :: s =
      p ++ ((u ++ v) ++ '/' :: (w ++ '1' :: '0' :: s)) := by
    simp
  have noSlash : '/' ∉ p ++ (u ++ v) := by
    rw [← List.append_assoc, List.mem_append]
    rintro (mem | mem)
    · exact noSlash mem
    · exact absurd (hv _ mem) (by decide)
  rw [← List.append_assoc] at number
  have found : outOfTenAt? ((u ++ v) ++ '/' :: (w ++ '1' :: '0' :: s)) = some n := by
    rw [outOfTenAt?, number, Option.filter_some, after, saysOutOfTen_append hv hw ends, if_pos rfl]
  rw [shape]
  exact read?_of_numeral? (numeral?_of_outOfTen apart (solid v) noSlash found) digits

/-- The first number that is said to be out of ten is the rating, up to the best score, whatever
numbers without a slash stand before it; a fraction raises it by at most one. No text gives a rating
beyond the best score. -/
theorem read?_firstOutOfTen :
    (∀ p n v w s : Text, '/' ∉ p → (∀ c ∈ p.getLast?, isDecimal c = false ∧ c ≠ '.') →
      IsDigits n → IsBlanks v → IsBlanks w → beginsInWord s = false →
        read? (p ++ n ++ v ++ '/' :: w ++ '1' :: '0' :: s) =
            some (UInt8.ofNat (min (Nat.ofDigitChars 10 n 0) best)) ∧
          ∀ f : Text, IsDigits f →
            ∃ score, read? (p ++ n ++ '.' :: f ++ v ++ '/' :: w ++ '1' :: '0' :: s) = some score ∧
              min (Nat.ofDigitChars 10 n 0) best ≤ score.toNat ∧
              score.toNat ≤ min (Nat.ofDigitChars 10 n 0 + 1) best) ∧
      ∀ t score, read? t = some score → score.toNat ≤ best := by
  refine ⟨?_, fun _ _ => read?_le_best⟩
  intro p n v w s noSlash apart digits hv hw ends
  have stops : EndsNumber (v ++ '/' :: (w ++ '1' :: '0' :: s)) := endsNumber_outOfTen hv
  have noSlash : '/' ∉ p ++ n := List.not_mem_append noSlash (digits.notMem rfl)
  constructor
  · have read := read?_of_numeralAt? apart digits.startsSolid noSlash hv hw ends
      (numeralAt?_of_whole digits stops) rfl (by simpa using digits.isAsciiDigit)
    rw [read, score_of_whole rfl]
    rfl
  · intro f fraction
    have number := numeralAt?_of_fraction digits fraction stops
    have shape : n ++ '.' :: (f ++ (v ++ '/' :: (w ++ '1' :: '0' :: s))) =
        (n ++ '.' :: f) ++ (v ++ '/' :: (w ++ '1' :: '0' :: s)) := by
      simp
    have solid : ∀ t, Text.startsSolid (n ++ '.' :: f ++ t) := by
      intro t
      rw [List.append_assoc]
      exact digits.startsSolid _
    have noSlash' : '/' ∉ p ++ (n ++ '.' :: f) := by
      rw [← List.append_assoc]
      exact List.not_mem_append noSlash (List.not_mem_cons_of_ne_of_not_mem (by decide)
        (fraction.notMem rfl))
    have both : ∀ c ∈ n ++ f, isAsciiDigit c :=
      List.forall_mem_append.2 ⟨digits.isAsciiDigit, fraction.isAsciiDigit⟩
    rw [shape] at number
    have read := read?_of_numeralAt? apart solid noSlash' hv hw ends number rfl both
    rw [← List.append_assoc] at read
    refine ⟨_, read, ?_⟩
    rw [toNat_score]
    exact ⟨min_le_score ⟨n, f, _⟩, score_le_min ⟨n, f, _⟩⟩

/-- Behind two numbers that are not out of ten, a third with zeros in front is. -/
theorem read?_firstOutOfTen_third :
    read? "3 of 5, i.e. 007 /\u00a010!".toList = some 7 ∧
      ∃ score, read? "3 of 5, i.e. 007.5 /\u00a010!".toList = some score ∧
        7 ≤ score.toNat ∧ score.toNat ≤ 8 := by
  have apart : ∀ c ∈ "3 of 5, i.e. ".toList.getLast?, isDecimal c = false ∧ c ≠ '.' := by
    rintro _ ⟨⟩
    decide
  obtain ⟨whole, fraction⟩ := read?_firstOutOfTen.1 "3 of 5, i.e. ".toList "007".toList " ".toList
    "\u00a0".toList "!".toList (by decide) apart ⟨by decide, List.all_eq_true.1 (by decide)⟩
    (List.all_eq_true.1 (by decide)) (List.all_eq_true.1 (by decide)) (by decide)
  exact ⟨whole, fraction "5".toList ⟨by decide, List.all_eq_true.1 (by decide)⟩⟩

end Rating

end SnippetCost
