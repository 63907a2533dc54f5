import Mathlib.Logic.ExistsUnique
import SnippetCost.Proofs.Report.Rating
import SnippetCost.Proofs.Text.Double

/-!
# Texts without a rating

The number that is found in a text is the numeral that counts as its rating, and every text with a digit
has one. It gives a rating only if it is read as a double, and doubles are written in ASCII digits: a
text can have a number out of ten, and no rating.

What a search finds is `firstAt?`, characterised by `exists_append_of_firstAt?` and
`eq_none_of_firstAt?`, so that the occurrence that counts is the one found (`exists_isFound`,
`exists_counts`). The main result is `read?_eq_none_iff`.
-/

namespace SnippetCost.Rating

variable {t u v : Text} {n : Numeral} {f : Text → Option Numeral}

/-- A numeral is read as a double exactly if its digits are ASCII digits. -/
lemma IsNumeral.isDouble_iff (h : IsNumeral t) :
    IsDouble t ↔ ∀ c ∈ t, isDecimal c → isAsciiDigit c := by
  refine ⟨fun double _ mem digit => double.isAsciiDigit mem digit, fun ascii => ?_⟩
  have mantissa : Double.IsMantissa t := by
    cases h with
    | whole digits =>
      exact .whole ⟨digits.ne_nil, fun c mem => ascii c mem (digits.isDecimal c mem)⟩
    | pointed whole fraction =>
      rw [List.forall_mem_append, List.forall_mem_cons] at ascii
      obtain ⟨front, -, behind⟩ := ascii
      refine .pointed ⟨List.append_ne_nil_of_left_ne_nil whole.ne_nil _, ?_⟩
      refine List.forall_mem_append.2 ⟨?_, ?_⟩
      · exact fun c mem => front c mem (whole.isDecimal c mem)
      · exact fun c mem => behind c mem (fraction.isDecimal c mem)
  simpa using IsDouble.number (.inl rfl) mantissa .none

/-- What a search finds stands where nothing is found further to the left. -/
lemma exists_append_of_firstAt? (found : firstAt? f t = some n) :
    ∃ u v, t = u ++ v ∧ f v = some n ∧
      ∀ u' v', t = u' ++ v' → u'.length < u.length → f v' = none := by
  induction t with
  | nil => cases found
  | cons c t ih =>
    rw [firstAt?] at found
    split at found
    · next here =>
      cases found
      exact ⟨[], c :: t, rfl, here, fun _ _ _ lt => absurd lt (Nat.not_lt_zero _)⟩
    · next none =>
      obtain ⟨u, v, rfl, here, before⟩ := ih found
      refine ⟨c :: u, v, rfl, here, ?_⟩
      intro u' v' cut lt
      cases u' with
      | nil =>
        rw [List.nil_append] at cut
        rw [← cut]
        exact none
      | cons d u' => exact before u' v' (List.cons.inj cut).2 (Nat.lt_of_succ_lt_succ lt)

/-- A search that finds nothing has missed nothing. -/
lemma eq_none_of_firstAt? (empty : f [] = none) (nothing : firstAt? f t = none) (cut : t = u ++ v) :
    f v = none := by
  induction t generalizing u with
  | nil =>
    rw [(List.append_eq_nil_iff.1 cut.symm).2]
    exact empty
  | cons c t ih =>
    rw [firstAt?] at nothing
    split at nothing
    · cases nothing
    · next here =>
      cases u with
      | nil =>
        rw [List.nil_append] at cut
        rw [← cut]
        exact here
      | cons d u => exact ih nothing (List.cons.inj cut).2

/-- Decimals begin with one. -/
lemma IsDecimals.exists_cons (digits : IsDecimals u) (v : Text) :
    ∃ c w, u ++ v = c :: w ∧ SnippetCost.isDecimal c := by
  obtain ⟨c, u, rfl⟩ := List.exists_cons_of_ne_nil digits.ne_nil
  exact ⟨c, u ++ v, rfl, digits.isDecimal c List.mem_cons_self⟩

/-- A numeral begins with a decimal. -/
lemma IsNumeral.exists_cons (h : IsNumeral u) (v : Text) : ∃ c w, u ++ v = c :: w ∧ isDecimal c := by
  cases h with
  | whole digits => exact digits.exists_cons v
  | pointed digits _ =>
    rw [List.append_assoc]
    exact digits.exists_cons _

/-- A number is found where a text begins with a digit. -/
lemma numeralAt?_ne_none {c : Char} (digit : isDecimal c) (t : Text) :
    numeralAt? (c :: t) ≠ none := by
  intro none
  rw [numeralAt?, List.takeWhile_cons_of_pos digit] at none
  dsimp only at none
  split at none
  · split at none <;> cases none
  · cases none

/-- No numeral that begins a text is longer than the number that is found there. -/
lemma length_le_of_numeralAt? (found : numeralAt? t = some n) (h : IsNumeral u) (cut : t = u ++ v) :
    u.length ≤ n.text.length := by
  obtain ⟨whole, ends, ⟨none, shape, noMore⟩ | ⟨fraction, shape⟩⟩ := numeralAt?_cases found
  all_goals rw [shape] at cut
  · rw [Numeral.text, if_pos none]
    cases h with
    | whole digits => exact Text.length_le_of_run whole.isDecimal ends digits.isDecimal cut
    | pointed digits more =>
      rw [List.append_assoc, List.cons_append] at cut
      -- the point would belong to the number, as a digit stands behind it
      have ge := Text.length_le_of_run digits.isDecimal isDecimal_point whole.isDecimal cut.symm
      have le := Text.length_le_of_run whole.isDecimal ends digits.isDecimal cut
      obtain ⟨-, after⟩ := List.append_inj cut (Nat.le_antisymm ge le)
      obtain ⟨c, w, begins, digit⟩ := more.exists_cons v
      rw [begins] at after
      rw [noMore _ after c rfl] at digit
      cases digit
  · rw [Numeral.text, if_neg fraction.ne_nil]
    cases h with
    | whole digits =>
      have le := Text.length_le_of_run whole.isDecimal isDecimal_point digits.isDecimal cut
      rw [List.length_append]
      omega
    | pointed digits more =>
      rw [List.append_assoc] at cut
      have ge := Text.length_le_of_run digits.isDecimal isDecimal_point whole.isDecimal cut.symm
      have le := Text.length_le_of_run whole.isDecimal isDecimal_point digits.isDecimal cut
      obtain ⟨rfl, after⟩ := List.append_inj cut (Nat.le_antisymm ge le)
      have le := Text.length_le_of_run fraction.isDecimal ends more.isDecimal (List.cons.inj after).2
      simpa using le

/-- The number that is found is the numeral that begins there, if neither a digit nor a point follows
it. -/
lemma after_eq_of_endsNumber (found : numeralAt? (u ++ v) = some n) (h : IsNumeral u)
    (ends : EndsNumber v) : n.after = v := by
  obtain ⟨numeral, cut⟩ := isNumeral_of_numeralAt? found
  have le := length_le_of_numeralAt? found h rfl
  obtain ⟨w, text, rfl⟩ | ⟨w, rfl, after⟩ := List.append_eq_append_iff.1 cut
  · cases w with
    | nil => rfl
    | cons c w =>
      have mem : c ∈ n.text := by
        rw [text]
        exact List.mem_append_right u List.mem_cons_self
      obtain ⟨noDigit, noPoint⟩ := ends c rfl
      rcases numeral.isDecimal_or_point mem with digit | point
      · rw [noDigit] at digit
        cases digit
      · exact absurd point noPoint
  · rw [List.length_append] at le
    obtain rfl : w = [] := List.length_eq_zero_iff.1 (by omega)
    exact after

/-- The digits of a number that is found are the decimal digits of its text. -/
lemma filter_isDecimal_text (found : numeralAt? t = some n) :
    n.text.filter isDecimal = n.whole ++ n.fraction := by
  have keep {u : Text} (digits : IsDecimals u) : u.filter isDecimal = u :=
    List.filter_eq_self.2 digits.isDecimal
  obtain ⟨whole, -, ⟨none, -⟩ | ⟨fraction, -⟩⟩ := numeralAt?_cases found
  · rw [Numeral.text, if_pos none, none, keep whole, List.append_nil]
  · have point : ¬ isDecimal '.' := by decide
    rw [Numeral.text, if_neg fraction.ne_nil, List.filter_append, keep whole,
      List.filter_cons_of_neg point, keep fraction]

namespace Occurrence

variable {o e : Occurrence t} {kind : Occurrence t → Prop}

/-- A text with an occurrence of a numeral has a decimal in it. -/
lemma exists_isDecimal (o : Occurrence t) : ∃ c ∈ t, isDecimal c := by
  obtain ⟨c, w, begins, digit⟩ := o.isNumeral.exists_cons o.back
  refine ⟨c, ?_, digit⟩
  rw [o.text_eq, begins]
  exact List.mem_append_right _ List.mem_cons_self

/-- Where a numeral occurs one is found. -/
lemma exists_numeralAt? (o : Occurrence t) : ∃ n, numeralAt? (o.numeral ++ o.back) = some n := by
  obtain ⟨c, w, begins, digit⟩ := o.isNumeral.exists_cons o.back
  rw [begins]
  exact Option.ne_none_iff_exists'.1 (numeralAt?_ne_none digit w)

/-- An occurrence is out of ten exactly if what is behind it says so. -/
lemma isOutOfTen_iff : o.IsOutOfTen ↔ saysOutOfTen o.back := by
  constructor
  · rintro ⟨v, w, s, hv, hw, ends, e⟩
    rw [e]
    exact saysOutOfTen_append hv hw ends
  · exact exists_append_of_saysOutOfTen

/-- Where a numeral out of ten occurs one is found. -/
lemma exists_outOfTenAt? (h : o.IsOutOfTen) : ∃ n, outOfTenAt? (o.numeral ++ o.back) = some n := by
  obtain ⟨n, found⟩ := o.exists_numeralAt?
  have ends : EndsNumber o.back := by
    obtain ⟨v, w, s, hv, -, -, e⟩ := h
    rw [e]
    exact endsNumber_outOfTen hv
  have after := after_eq_of_endsNumber found o.isNumeral ends
  refine ⟨n, ?_⟩
  rw [outOfTenAt?, found, Option.filter_some, after, isOutOfTen_iff.1 h, if_pos rfl]

/-- A search finds one occurrence only. -/
lemma IsFound.unique (ho : o.IsFound kind) (he : e.IsFound kind) : o = e := by
  have front_length := Nat.le_antisymm (ho.leftmost e he.of_kind) (he.leftmost o ho.of_kind)
  obtain ⟨front, rest⟩ := List.append_inj (o.text_eq.symm.trans e.text_eq) front_length
  have length := Nat.le_antisymm (he.longest o ho.of_kind front) (ho.longest e he.of_kind front.symm)
  obtain ⟨numeral, back⟩ := List.append_inj rest length
  exact Occurrence.ext front numeral back

/-- One occurrence only counts. -/
lemma Counts.unique (ho : o.Counts) (he : e.Counts) : o = e := by
  obtain ho | ⟨none, ho⟩ := ho <;> obtain he | ⟨none', he⟩ := he
  · exact ho.unique he
  · exact absurd ho.of_kind (none' o)
  · exact absurd he.of_kind (none e)
  · exact ho.unique he

/-- A search for the numerals of a kind finds the first of them. -/
lemma exists_isFound (number : ∀ {u n}, f u = some n → numeralAt? u = some n)
    (finds : ∀ e : Occurrence t, kind e → ∃ n, f (e.numeral ++ e.back) = some n)
    (of_found : ∀ (e : Occurrence t) {n},
      f (e.numeral ++ e.back) = some n → n.after = e.back → kind e)
    (found : firstAt? f t = some n) :
    ∃ o : Occurrence t, o.IsFound kind ∧ o.numeral = n.text ∧
      numeralAt? (o.numeral ++ o.back) = some n := by
  obtain ⟨front, rest, cut, here, before⟩ := exists_append_of_firstAt? found
  obtain ⟨numeral, rfl⟩ := isNumeral_of_numeralAt? (number here)
  let o : Occurrence t := ⟨front, n.text, n.after, cut, numeral⟩
  refine ⟨o, ⟨of_found o here rfl, ?_, ?_⟩, rfl, number here⟩
  · intro e he
    refine Nat.le_of_not_lt fun lt => ?_
    obtain ⟨m, there⟩ := finds e he
    rw [before e.front _ e.text_eq lt] at there
    cases there
  · intro e _ same
    have whole := cut.symm.trans e.text_eq
    rw [same] at whole
    exact length_le_of_numeralAt? (number here) e.isNumeral (List.append_cancel_left whole)

/-- The number that is found in a text is the numeral that counts. -/
lemma exists_counts (found : numeral? t = some n) :
    ∃ o : Occurrence t, o.Counts ∧ o.numeral = n.text ∧
      numeralAt? (o.numeral ++ o.back) = some n := by
  have number {u : Text} {n : Numeral} (h : outOfTenAt? u = some n) :
      numeralAt? u = some n ∧ saysOutOfTen n.after :=
    Option.filter_eq_some_iff.1 h
  rw [numeral?] at found
  split at found
  · next n first =>
    cases found
    have first : ∃ o : Occurrence t, o.IsFound IsOutOfTen ∧ o.numeral = n.text ∧
        numeralAt? (o.numeral ++ o.back) = some n := by
      refine exists_isFound (fun h => (number h).1) (fun _ => exists_outOfTenAt?) ?_ first
      intro e n h after
      rw [isOutOfTen_iff, ← after]
      exact (number h).2
    obtain ⟨o, isFound, same⟩ := first
    exact ⟨o, .inl isFound, same⟩
  · next none =>
    have first : ∃ o : Occurrence t, o.IsFound (fun _ => True) ∧ o.numeral = n.text ∧
        numeralAt? (o.numeral ++ o.back) = some n :=
      exists_isFound id (fun e _ => e.exists_numeralAt?) (fun _ _ _ _ => trivial) found
    obtain ⟨o, isFound, same⟩ := first
    refine ⟨o, .inr ⟨?_, isFound⟩, same⟩
    intro e he
    obtain ⟨m, there⟩ := exists_outOfTenAt? he
    rw [eq_none_of_firstAt? rfl none e.text_eq] at there
    cases there

end Occurrence

/-- A text without digits has no number. -/
lemma numeral?_eq_none : numeral? t = none ↔ ∀ c ∈ t, isDecimal c = false := by
  constructor
  · intro none c mem
    refine Bool.eq_false_iff.2 fun digit => ?_
    obtain ⟨u, v, cut⟩ := List.append_of_mem mem
    rw [numeral?] at none
    split at none
    · cases none
    · exact numeralAt?_ne_none digit v (eq_none_of_firstAt? rfl none cut)
  · intro noDigit
    refine Option.eq_none_iff_forall_ne_some.2 fun n found => ?_
    obtain ⟨o, -, -⟩ := Occurrence.exists_counts found
    obtain ⟨c, mem, digit⟩ := o.exists_isDecimal
    rw [noDigit c mem] at digit
    cases digit

namespace Occurrence

variable {o : Occurrence t}

/-- An occurrence counts exactly in the texts that have a decimal in them. -/
lemma exists_counts_iff : (∃ o : Occurrence t, o.Counts) ↔ ∃ c ∈ t, isDecimal c := by
  constructor
  · rintro ⟨o, -⟩
    exact o.exists_isDecimal
  · rintro ⟨c, mem, digit⟩
    cases found : numeral? t with
    | none =>
      rw [numeral?_eq_none.1 found c mem] at digit
      cases digit
    | some n =>
      obtain ⟨o, counts, -⟩ := exists_counts found
      exact ⟨o, counts⟩

/-- A rating is read from the numeral that counts if it is a double. -/
lemma Counts.read?_eq_none (counts : o.Counts) : read? t = none ↔ ¬ IsDouble o.numeral := by
  cases found : numeral? t with
  | none =>
    obtain ⟨c, mem, digit⟩ := o.exists_isDecimal
    rw [numeral?_eq_none.1 found c mem] at digit
    cases digit
  | some n =>
    obtain ⟨e, counts', text, here⟩ := exists_counts found
    obtain rfl := counts.unique counts'
    have digits : (∀ c ∈ o.numeral, isDecimal c → isAsciiDigit c) ↔
        (n.whole ++ n.fraction).all isAsciiDigit := by
      rw [text, ← filter_isDecimal_text here, List.all_eq_true]
      simp only [List.mem_filter, and_imp]
    rw [o.isNumeral.isDouble_iff, digits, read?, found]
    simp

end Occurrence

/-- A text gives no rating exactly if it has no digit, or if the numeral in it that counts is not read
as a double. A text has a numeral that counts, and then one only, exactly if it has a digit, and a
numeral is read as a double exactly if all its digits are ASCII digits. -/
theorem read?_eq_none_iff (t : Text) :
    (read? t = none ↔
        (∀ c ∈ t, isDecimal c = false) ∨ ∃ o : Occurrence t, o.Counts ∧ ¬ IsDouble o.numeral) ∧
      ((∃ c ∈ t, isDecimal c) ↔ ∃! o : Occurrence t, o.Counts) ∧
      ∀ o : Occurrence t, IsDouble o.numeral ↔ ∀ c ∈ o.numeral, isDecimal c → isAsciiDigit c := by
  have unique : (∃! o : Occurrence t, o.Counts) ↔ ∃ o : Occurrence t, o.Counts :=
    ⟨ExistsUnique.exists, fun ⟨o, counts⟩ => ⟨o, counts, fun _ counts' => counts'.unique counts⟩⟩
  refine ⟨⟨?_, ?_⟩, ?_, fun o => o.isNumeral.isDouble_iff⟩
  · intro none
    by_cases digit : ∃ c ∈ t, isDecimal c
    · obtain ⟨o, counts⟩ := Occurrence.exists_counts_iff.2 digit
      exact .inr ⟨o, counts, counts.read?_eq_none.1 none⟩
    · left
      simpa using digit
  · rintro (noDigit | ⟨o, counts, notDouble⟩)
    · rw [read?, numeral?_eq_none.2 noDigit]
    · exact counts.read?_eq_none.2 notDouble
  · rw [unique, Occurrence.exists_counts_iff]

/-- Of the numbers in this text, the one out of ten counts, and only its whole part is in ASCII
digits. -/
theorem read?_eq_none_iff_mixedScripts :
    (∃! o : Occurrence "3 of 5, i.e. 7.٥/10".toList, o.Counts) ∧
      ∃ o : Occurrence "3 of 5, i.e. 7.٥/10".toList, o.Counts ∧ ¬ IsDouble o.numeral := by
  obtain ⟨none, unique, -⟩ := read?_eq_none_iff "3 of 5, i.e. 7.٥/10".toList
  refine ⟨unique.1 ⟨'3', by decide, by decide⟩, ?_⟩
  rcases none.1 (by decide) with noDigit | counts
  · exact absurd (noDigit '3' (by decide)) (by decide)
  · exact counts

/-- A number out of ten counts as the rating of this text, which gives no rating. -/
theorem read?_eq_none_arabicSeven :
    (∃ o : Occurrence "٧/10".toList, o.Counts ∧ o.numeral = "٧".toList) ∧
      (∃ c ∈ "٧/10".toList, isDecimal c) ∧ read? "٧/10".toList = none := by
  have found : numeral? "٧/10".toList = some ⟨"٧".toList, [], "/10".toList⟩ := by
    decide
  obtain ⟨o, counts, text, -⟩ := Occurrence.exists_counts found
  exact ⟨⟨o, counts, text⟩, ⟨'٧', by decide, by decide⟩, by decide⟩

end SnippetCost.Rating
