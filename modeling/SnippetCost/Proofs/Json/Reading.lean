import SnippetCost.Json.Reading
import SnippetCost.Json.Writing
import SnippetCost.Proofs.Json.Quoted
import SnippetCost.Proofs.Text.Number
import SnippetCost.Proofs.Text.Search

/-!
# What is written is read back

A value is read back from its written form, whatever gaps stand before it and whatever can follow it
in a document. Writing a part of a value takes fewer characters than writing the value, so the length
of the document is fuel enough.

Leaves are read back by `readNumber?_ofNat`, `readString?_quoted` and `readKey?_quote`, a gap is
skipped by `readValue_congr`, and the three mutual inductions over a value are `readValue_writeAt`,
`readItems_writeItems` and `readMembers_writeMembers`. The main result is `Value.read?_write`.
-/

namespace SnippetCost.Json

open Value (newLine writeAt writeItems writeMembers)

variable {c : Char} {t rest : Text} {n fuel indent : Nat}

namespace Value

mutual

/-- Whether a value is read back from its written form: it holds no broken string, and no numbers but
naturals. -/
def IsPlain : Value → Prop
  | null | bool _ | natural _ | text _ => True
  | number _ | broken => False
  | array items => ArePlain items
  | object members => HavePlainValues members

/-- Whether all items of an array are read back. -/
def ArePlain : List Value → Prop
  | [] => True
  | item :: items => item.IsPlain ∧ ArePlain items

/-- Whether all members of an object are read back. -/
def HavePlainValues : List (Text × Value) → Prop
  | [] => True
  | (_, value) :: members => value.IsPlain ∧ HavePlainValues members

end

end Value

/-- Whether a value that is written in front of a text ends there: a comma or a new line follows, or
nothing. -/
def EndsValue (t : Text) : Prop :=
  ∀ c ∈ t.head?, c = ',' ∨ c = '\n'

/-- The end of a document ends a value. -/
lemma endsValue_nil : EndsValue [] := by
  intro c mem
  cases mem

/-- A new line ends a value. -/
lemma endsValue_newLine (n : Nat) (t : Text) : EndsValue (newLine n ++ t) := by
  rintro _ ⟨⟩
  exact .inr rfl

/-- A new line is a gap. -/
lemma isGapChar_newLine (n : Nat) : ∀ c ∈ newLine n, isGapChar c := by
  intro c mem
  rcases List.mem_cons.1 mem with rfl | mem
  · rfl
  · rw [List.eq_of_mem_replicate mem]
    rfl

/-- A gap is skipped. -/
lemma skipGap_append {gap : Text} (all : ∀ c ∈ gap, isGapChar c) (t : Text) :
    skipGap (gap ++ t) = skipGap t :=
  List.dropWhile_append_of_pos all

/-- A new line is skipped. -/
lemma skipGap_newLine (n : Nat) (t : Text) : skipGap (newLine n ++ t) = skipGap t :=
  skipGap_append (isGapChar_newLine n) t

/-- What is no gap is not skipped. -/
lemma skipGap_cons (h : isGapChar c = false) (t : Text) : skipGap (c :: t) = c :: t :=
  List.dropWhile_cons_of_neg (by simp [h])

/-- Reading a value begins behind the gap before it. -/
lemma readValue_congr {s t : Text} (h : skipGap s = skipGap t) :
    readValue fuel s = readValue fuel t := by
  cases fuel with
  | zero => rfl
  | succ fuel => rw [readValue, readValue, h]

section Numbers

/-- The numeral of a number has the number for its value. -/
lemma numeralValue_ofNat (n : Nat) : numeralValue (Text.ofNat n) = n :=
  Nat.ofDigitChars_toDigits (by decide) (by decide)

/-- A digit is none of the characters that are no digits. -/
lemma ne_of_isAsciiDigit {d : Char} (digit : isAsciiDigit c) (no : isAsciiDigit d = false) :
    c ≠ d := by
  rintro rfl
  rw [digit] at no
  cases no

/-- No digit belongs to a gap. -/
lemma isGapChar_of_isAsciiDigit (digit : isAsciiDigit c) : isGapChar c = false := by
  rw [← Bool.not_eq_true]
  intro gap
  simp only [isGapChar, Bool.or_eq_true, decide_eq_true_eq] at gap
  obtain ((rfl | rfl) | rfl) | rfl := gap <;> cases digit

/-- The numeral of a number begins with a digit. -/
lemma exists_ofNat_eq (n : Nat) : ∃ c t, Text.ofNat n = c :: t ∧ isAsciiDigit c := by
  obtain ⟨c, t, e⟩ := List.exists_cons_of_ne_nil (Text.ofNat_ne_nil n)
  have digits := Text.all_isAsciiDigit_ofNat n
  rw [e, List.all_cons, Bool.and_eq_true] at digits
  exact ⟨c, t, e, digits.1⟩

/-- The numeral of a number has no sign. -/
lemma cutMinus_ofNat (n : Nat) (rest : Text) :
    cutMinus (Text.ofNat n ++ rest) = ([], Text.ofNat n ++ rest) := by
  obtain ⟨c, t, e, digit⟩ := exists_ofNat_eq n
  rw [e, List.cons_append, cutMinus]
  rintro rest ⟨rfl⟩
  cases digit

/-- The digits of a number are its whole part, since only zero begins with a zero. -/
lemma cutWhole?_ofNat (h : EndsValue rest) :
    cutWhole? (Text.ofNat n ++ rest) = some (Text.ofNat n, rest) := by
  by_cases zero : n = 0
  · subst zero
    rfl
  · obtain ⟨c, t, e, -⟩ := exists_ofNat_eq n
    have all : ∀ c ∈ Text.ofNat n, isAsciiDigit c :=
      List.all_eq_true.1 (Text.all_isAsciiDigit_ofNat n)
    have stops : ∀ c ∈ rest.head?, isAsciiDigit c = false := by
      intro c mem
      rcases h c mem with rfl | rfl <;> rfl
    obtain ⟨taken, left⟩ := Text.run_append all stops
    have digits : cutDigits? (Text.ofNat n ++ rest) = some (Text.ofNat n, rest) := by
      rw [cutDigits?, taken, left, e]
    rw [← digits, e, List.cons_append, cutWhole?]
    rintro rest ⟨rfl⟩
    exact zero (Text.eq_zero_of_head?_ofNat (by rw [e]; rfl))

/-- No fraction follows where a value ends. -/
lemma cutFraction?_of_endsValue (h : EndsValue rest) : cutFraction? rest = some ([], rest) := by
  rw [cutFraction?]
  rintro rest rfl
  rcases h '.' rfl with e | e <;> cases e

/-- No exponent follows where a value ends. -/
lemma cutExponent?_of_endsValue (h : EndsValue rest) : cutExponent? rest = some ([], rest) := by
  cases rest with
  | nil => rfl
  | cons c rest =>
    have no : (c = 'e' || c = 'E') = false := by
      rcases h c rfl with rfl | rfl <;> rfl
    rw [cutExponent?, no]
    rfl

/-- A number is read back from its numeral. -/
lemma readNumber?_ofNat (h : EndsValue rest) :
    readNumber? (Text.ofNat n ++ rest) = some (.natural n, rest) := by
  simp [readNumber?, cutMinus_ofNat, cutWhole?_ofNat h, cutFraction?_of_endsValue h,
    cutExponent?_of_endsValue h, numeralValue_ofNat]

end Numbers

/-- What is written of a value begins with a character that is no gap and closes no array. -/
lemma exists_writeAt_eq {v : Value} (h : v.IsPlain) (indent : Nat) :
    ∃ c t, writeAt indent v = c :: t ∧ isGapChar c = false ∧ c ≠ ']' := by
  cases v with
  | null => exact ⟨_, _, rfl, by decide, by decide⟩
  | bool b => cases b <;> exact ⟨_, _, rfl, by decide, by decide⟩
  | natural n =>
    obtain ⟨c, t, e, digit⟩ := exists_ofNat_eq n
    exact ⟨c, t, by rw [writeAt, e], isGapChar_of_isAsciiDigit digit, ne_of_isAsciiDigit digit rfl⟩
  | text t => exact ⟨_, _, rfl, by decide, by decide⟩
  | number | broken => exact h.elim
  | array items =>
    cases items with
    | nil => exact ⟨_, _, rfl, by decide, by decide⟩
    | cons item items => exact ⟨'[', _, by rw [writeAt]; rfl, by decide, by decide⟩
  | object members =>
    cases members with
    | nil => exact ⟨_, _, rfl, by decide, by decide⟩
    | cons m members => exact ⟨'\x7b', _, by rw [writeAt]; rfl, by decide, by decide⟩

/-- No gap stands in front of a written value. -/
lemma skipGap_writeAt {v : Value} (h : v.IsPlain) (indent : Nat) (t : Text) :
    skipGap (writeAt indent v ++ t) = writeAt indent v ++ t := by
  obtain ⟨c, u, e, gap, -⟩ := exists_writeAt_eq h indent
  rw [e, List.cons_append, skipGap_cons gap]

/-- No gap stands in front of a quoted text. -/
lemma skipGap_quote (key t : Text) : skipGap (quote key ++ t) = quote key ++ t :=
  skipGap_cons (by decide) _

/-- A text is read back from the string it is quoted as. -/
lemma readString?_quoted (t rest : Text) :
    readString? (t.flatMap quoteChar ++ '"' :: rest) = some (.text t, rest) := by
  simp [readString?, readPieces?_quoted, assemble?_chars]

/-- A name is read back together with the colon behind it. -/
lemma readKey?_quote (key rest : Text) :
    readKey? (quote key ++ (':' :: rest)) = some (some key, rest) := by
  have colon : skipGap (':' :: rest) = ':' :: rest := skipGap_cons (by decide) rest
  simp [readKey?, quote, readPieces?_quoted, assemble?_chars, colon]

section Values

variable {v : Value}

/-- A new line is as long as its indentation and the line feed. -/
lemma length_newLine (n : Nat) : (newLine n).length = n + 1 := by
  simp [newLine]

/-- A space in front of a value is skipped. -/
lemma readValue_space (fuel : Nat) (t : Text) : readValue fuel (' ' :: t) = readValue fuel t :=
  readValue_congr (List.dropWhile_cons_of_pos rfl)

/-- A value behind a new line is read as without it. -/
lemma readValue_newLine (fuel n : Nat) (t : Text) :
    readValue fuel (newLine n ++ t) = readValue fuel t :=
  readValue_congr (skipGap_newLine n t)

/-- A new line in front of the items of an array is skipped. -/
lemma readItems_newLine (fuel n : Nat) (t : Text) :
    readItems fuel (newLine n ++ t) = readItems fuel t := by
  cases fuel with
  | zero => rfl
  | succ fuel => rw [readItems, readItems, readValue_newLine]

/-- A new line in front of the members of an object is skipped. -/
lemma readMembers_newLine (fuel n : Nat) (t : Text) :
    readMembers fuel (newLine n ++ t) = readMembers fuel t := by
  cases fuel with
  | zero => rfl
  | succ fuel => rw [readMembers, readMembers, skipGap_newLine]

/-- An array that is not empty is read item by item. -/
lemma readValue_array {inner : Text} (start : skipGap t = c :: inner) (ne : c ≠ ']') :
    readValue (fuel + 1) ('[' :: t) =
      (readItems fuel (c :: inner)).map fun read => (.array read.1, read.2) := by
  have bracket : skipGap ('[' :: t) = '[' :: t := skipGap_cons (by decide) t
  simp [readValue, bracket, start, ne]

/-- An object that is not empty is read member by member. -/
lemma readValue_object {inner : Text} (start : skipGap t = c :: inner) (ne : c ≠ '\x7d') :
    readValue (fuel + 1) ('\x7b' :: t) =
      (readMembers fuel (c :: inner)).map fun read => (Members.toValue read.1, read.2) := by
  have brace : skipGap ('\x7b' :: t) = '\x7b' :: t := skipGap_cons (by decide) t
  simp [readValue, brace, start, ne]

/-- A comma or a new line stands behind every item but the last. -/
lemma endsValue_writeItems (items : List Value) (h : EndsValue rest) :
    EndsValue (writeItems indent items ++ rest) := by
  cases items with
  | nil => exact h
  | cons item items =>
    rw [writeItems]
    rintro _ ⟨⟩
    exact .inl rfl

/-- What follows a written member ends its value. -/
lemma endsValue_writeMembers (members : List (Text × Value)) (h : EndsValue rest) :
    EndsValue (writeMembers indent members ++ rest) := by
  cases members with
  | nil => exact h
  | cons member members =>
    obtain ⟨key, value⟩ := member
    rw [writeMembers]
    rintro _ ⟨⟩
    exact .inl rfl

mutual

/-- A value is read back from its written form. -/
lemma readValue_writeAt (v : Value) (plain : v.IsPlain) (indent fuel : Nat) (rest : Text)
    (ends : EndsValue rest) (enough : (writeAt indent v).length ≤ fuel) :
    readValue fuel (writeAt indent v ++ rest) = some (v, rest) := by
  cases fuel with
  | zero =>
    obtain ⟨c, t, head, -, -⟩ := exists_writeAt_eq plain indent
    rw [head] at enough
    cases enough
  | succ fuel =>
    cases v with
    | null => rfl
    | bool b => cases b <;> rfl
    | natural n =>
      obtain ⟨c, t, e, digit⟩ := exists_ofNat_eq n
      have number := readNumber?_ofNat (n := n) ends
      rw [readValue, skipGap_writeAt plain, writeAt]
      rw [e, List.cons_append] at number ⊢
      simp [number, digit, ne_of_isAsciiDigit digit (d := '"') rfl,
        ne_of_isAsciiDigit digit (d := '[') rfl, ne_of_isAsciiDigit digit (d := '\x7b') rfl]
    | text t =>
      have written :
          writeAt indent (.text t) ++ rest = '"' :: (t.flatMap quoteChar ++ '"' :: rest) := by
        simp [writeAt, quote]
      rw [readValue, skipGap_writeAt plain, written]
      exact readString?_quoted t rest
    | number | broken => exact plain.elim
    | array items =>
      cases items with
      | nil => rfl
      | cons item items =>
        rw [Value.IsPlain, Value.ArePlain] at plain
        have inner := readItems_writeItems item items plain (indent + 2) indent fuel rest (by
          simp only [writeAt, List.length_append, List.length_cons, length_newLine] at enough
          omega)
        have written : writeAt indent (.array (item :: items)) ++ rest =
            '[' :: (newLine (indent + 2) ++ (writeAt (indent + 2) item ++
              (writeItems (indent + 2) items ++ (newLine indent ++ ']' :: rest)))) := by
          simp [writeAt]
        have start := skipGap_writeAt plain.1 (indent + 2)
          (writeItems (indent + 2) items ++ (newLine indent ++ ']' :: rest))
        rw [← skipGap_newLine (indent + 2)] at start
        obtain ⟨c, t, first, -, ne⟩ := exists_writeAt_eq plain.1 (indent + 2)
        rw [first, List.cons_append] at inner start
        rw [written, first, List.cons_append, readValue_array start ne, inner, Option.map_some]
    | object members =>
      cases members with
      | nil => rfl
      | cons member members =>
        cases member with
        | mk key value =>
          rw [Value.IsPlain, Value.HavePlainValues] at plain
          have inner := readMembers_writeMembers key value members plain (indent + 2) indent fuel rest
            (by
              simp only [writeAt, List.length_append, List.length_cons, length_newLine] at enough
              omega)
          have written : writeAt indent (.object ((key, value) :: members)) ++ rest =
              '\x7b' :: (newLine (indent + 2) ++ (quote key ++ ':' :: ' ' ::
                (writeAt (indent + 2) value ++
                  (writeMembers (indent + 2) members ++ (newLine indent ++ '\x7d' :: rest))))) := by
            simp [writeAt]
          have start := skipGap_quote key (':' :: ' ' :: (writeAt (indent + 2) value ++
            (writeMembers (indent + 2) members ++ (newLine indent ++ '\x7d' :: rest))))
          rw [← skipGap_newLine (indent + 2)] at start
          rw [written, readValue_object start (by decide)]
          exact congrArg _ inner
termination_by fuel

/-- The items of an array are read back. -/
lemma readItems_writeItems (item : Value) (items : List Value)
    (plain : item.IsPlain ∧ Value.ArePlain items) (indent outer fuel : Nat) (rest : Text)
    (enough : (writeAt indent item).length + (writeItems indent items).length < fuel) :
    readItems fuel (writeAt indent item ++
      (writeItems indent items ++ (newLine outer ++ ']' :: rest))) = some (item :: items, rest) := by
  cases fuel with
  | zero => cases enough
  | succ fuel =>
    have ends : EndsValue (writeItems indent items ++ (newLine outer ++ ']' :: rest)) :=
      endsValue_writeItems items (endsValue_newLine _ _)
    have first := readValue_writeAt item plain.1 indent fuel _ ends (by omega)
    cases items with
    | nil =>
      have close : skipGap (newLine outer ++ ']' :: rest) = ']' :: rest := by
        rw [skipGap_newLine, skipGap_cons (by decide)]
      rw [writeItems, List.nil_append] at first ⊢
      simp [readItems, first, close]
    | cons next items =>
      rw [Value.ArePlain] at plain
      have more := readItems_writeItems next items plain.2 indent outer fuel rest (by
        simp only [writeItems, List.length_append, List.length_cons, length_newLine] at enough
        omega)
      have written : writeItems indent (next :: items) ++ (newLine outer ++ ']' :: rest) =
          ',' :: (newLine indent ++ (writeAt indent next ++
            (writeItems indent items ++ (newLine outer ++ ']' :: rest)))) := by
        simp [writeItems]
      have comma (t : Text) : skipGap (',' :: t) = ',' :: t := skipGap_cons (by decide) t
      rw [written] at first ⊢
      simp [readItems, first, comma, readItems_newLine, more]
termination_by fuel

/-- The members of an object are read back. -/
lemma readMembers_writeMembers (key : Text) (value : Value) (members : List (Text × Value))
    (plain : value.IsPlain ∧ Value.HavePlainValues members) (indent outer fuel : Nat) (rest : Text)
    (enough : (writeAt indent value).length + (writeMembers indent members).length < fuel) :
    readMembers fuel (quote key ++ ':' :: ' ' :: (writeAt indent value ++
      (writeMembers indent members ++ (newLine outer ++ '\x7d' :: rest)))) =
        some (some ((key, value) :: members), rest) := by
  cases fuel with
  | zero => cases enough
  | succ fuel =>
    have ends : EndsValue (writeMembers indent members ++ (newLine outer ++ '\x7d' :: rest)) :=
      endsValue_writeMembers members (endsValue_newLine _ _)
    have first := readValue_writeAt value plain.1 indent fuel _ ends (by omega)
    cases members with
    | nil =>
      have close : skipGap (newLine outer ++ '\x7d' :: rest) = '\x7d' :: rest := by
        rw [skipGap_newLine, skipGap_cons (by decide)]
      rw [writeMembers, List.nil_append] at first ⊢
      simp [readMembers, skipGap_quote, readKey?_quote, readValue_space, first, close, Members.cons]
    | cons member members =>
      cases member with
      | mk nextKey next =>
        rw [Value.HavePlainValues] at plain
        have more := readMembers_writeMembers nextKey next members plain.2 indent outer fuel rest (by
          simp only [writeMembers, List.length_append, List.length_cons, length_newLine] at enough
          omega)
        have written : writeMembers indent ((nextKey, next) :: members) ++
            (newLine outer ++ '\x7d' :: rest) = ',' :: (newLine indent ++ (quote nextKey ++
              ':' :: ' ' :: (writeAt indent next ++
                (writeMembers indent members ++ (newLine outer ++ '\x7d' :: rest))))) := by
          simp [writeMembers]
        have comma (t : Text) : skipGap (',' :: t) = ',' :: t := skipGap_cons (by decide) t
        rw [written] at first ⊢
        simp [readMembers, skipGap_quote, readKey?_quote, readValue_space, first, comma,
          readMembers_newLine, more, Members.cons]
termination_by fuel

end

end Values

/-- A document is read back from its written form, whatever gap stands behind it. -/
theorem Value.read?_write {v : Value} (plain : v.IsPlain) {gap : Text}
    (all : ∀ c ∈ gap, isGapChar c) (ends : EndsValue gap) : read? (v.write ++ gap) = some v := by
  have whole := readValue_writeAt v plain 0 (2 * (writeAt 0 v ++ gap).length + 2) gap ends (by
    rw [List.length_append]
    omega)
  have behind : skipGap gap = [] := by
    have skipped := skipGap_append all []
    rwa [List.append_nil] at skipped
  rw [read?, write, whole]
  simp [behind]

end SnippetCost.Json
