import SnippetCost.Proofs.Text.Basic
import SnippetCost.Text.Blank
import SnippetCost.Text.Word

/-!
# Trimming

What blanks at the edges of a text can and cannot change: they belong to no word and to no name, a
text is its trimmed part between blanks, and nothing that begins with other characters is found
among them.

Which characters are no blanks is `not_of_isBlank`, from the table of all blanks. The main results are
`exists_append_trim`, that a text is its trimmed part between blanks, `trim_append_right` and
`trim_trim`.
-/

namespace SnippetCost

/-- The code points of the blanks, one by one. -/
def blankPoints : List Nat :=
  blankRanges.flatMap fun r => List.range' r.1 (r.2 - r.1 + 1)

/-- A blank is one of twenty-five characters. -/
lemma mem_blankPoints_of_isBlank {c : Char} (h : isBlank c) : c.toNat ∈ blankPoints := by
  obtain ⟨r, mem, lo, hi⟩ := Ranges.exists_of_has h
  refine List.mem_flatMap.2 ⟨r, mem, ?_⟩
  rw [List.mem_range'_1]
  omega

/-- A class of characters that holds of none of the blanks. -/
lemma not_of_isBlank {p : Char → Bool} (check : ∀ n ∈ blankPoints, p (Char.ofNat n) = false)
    {c : Char} (h : isBlank c) : p c = false := by
  have := check _ (mem_blankPoints_of_isBlank h)
  rwa [Char.ofNat_toNat] at this

/-- A character of a class that holds no blanks is none. -/
lemma isBlank_eq_false {p : Char → Bool} (hp : ∀ c, isBlank c → p c = false) {c : Char} (hc : p c) :
    isBlank c = false := by
  cases blank : isBlank c with
  | false => rfl
  | true =>
    rw [hp c blank] at hc
    cases hc

/-- A blank is no word character. -/
lemma isWordChar_of_isBlank {c : Char} (h : isBlank c) : isWordChar c = false :=
  not_of_isBlank (by decide +kernel) h

/-- A blank stands in no name. -/
lemma isNameChar_of_isBlank {c : Char} (h : isBlank c) : isNameChar c = false :=
  not_of_isBlank (by decide +kernel) h

/-- A blank is no decimal. -/
lemma isDecimal_of_isBlank {c : Char} (h : isBlank c) : isDecimal c = false :=
  not_of_isBlank (by decide +kernel) h

/-- A decimal is no blank. -/
lemma isBlank_of_isDecimal {c : Char} (h : isDecimal c) : isBlank c = false :=
  isBlank_eq_false (fun _ => isDecimal_of_isBlank) h

/-- A digit is no blank. -/
lemma isBlank_of_isAsciiDigit {c : Char} (h : isAsciiDigit c) : isBlank c = false :=
  isBlank_eq_false (fun _ blank => not_of_isBlank (by decide +kernel) blank) h

/-- A character that begins a name is no blank. -/
lemma isBlank_of_isNameStart {c : Char} (h : isNameStart c) : isBlank c = false :=
  isBlank_eq_false (fun _ blank => not_of_isBlank (by decide +kernel) blank) h

/-- A run that ends within a list does not see what stands behind the list. -/
lemma takeWhile_append_of_stops {α : Type} {p : α → Bool} {l : List α} (stops : l.dropWhile p ≠ [])
    (r : List α) : (l ++ r).takeWhile p = l.takeWhile p := by
  induction l with
  | nil => exact absurd rfl stops
  | cons x l ih =>
    by_cases hx : p x
    · rw [List.dropWhile_cons_of_pos hx] at stops
      rw [List.cons_append, List.takeWhile_cons_of_pos hx, List.takeWhile_cons_of_pos hx, ih stops]
    · rw [List.cons_append, List.takeWhile_cons_of_neg hx, List.takeWhile_cons_of_neg hx]

namespace Text

variable {s t u v lead : Text}

/-- The empty text has nothing but blanks. -/
lemma IsBlanks.nil : IsBlanks [] := by
  intro c mem
  cases mem

/-- A text has nothing but blanks if its first character and the rest have. -/
lemma isBlanks_cons {c : Char} : IsBlanks (c :: t) ↔ isBlank c ∧ IsBlanks t :=
  List.forall_mem_cons

/-- Two texts have nothing but blanks if each has. -/
lemma isBlanks_append : IsBlanks (s ++ t) ↔ IsBlanks s ∧ IsBlanks t :=
  List.forall_mem_append

/-- The blanks at the start of a text are blanks. -/
lemma isBlanks_takeWhile (t : Text) : IsBlanks (t.takeWhile isBlank) := by
  intro c mem
  exact List.all_eq_true.1 List.all_takeWhile c mem

/-- Whether a text begins with a character that is no blank. -/
def startsSolid (t : Text) : Bool :=
  t.head?.any fun c => !isBlank c

/-- A text that begins with a blank does not start solid. -/
lemma startsSolid_cons_of_isBlank {c : Char} (blank : isBlank c) : startsSolid (c :: t) = false := by
  simp [startsSolid, blank]

/-- A text that does not start solid begins with a blank, if it begins at all. -/
lemma isBlank_of_startsSolid {c : Char} (h : startsSolid (c :: t) = false) : isBlank c := by
  simpa [startsSolid] using h

/-- A text behind blanks does not start solid. -/
lemma startsSolid_append (blanks : IsBlanks u) (ne : u ≠ []) (t : Text) :
    startsSolid (u ++ t) = false := by
  cases u with
  | nil => exact absurd rfl ne
  | cons c u => exact startsSolid_cons_of_isBlank (isBlanks_cons.1 blanks).1

/-- Blanks do not start solid. -/
lemma startsSolid_of_isBlanks (blanks : IsBlanks u) : startsSolid u = false := by
  cases u with
  | nil => rfl
  | cons c u => exact startsSolid_cons_of_isBlank (isBlanks_cons.1 blanks).1

/-- A run of a class that holds no blanks is empty where a blank begins the text. -/
lemma run_of_startsSolid {p : Char → Bool} (hp : ∀ c, isBlank c → p c = false)
    (h : startsSolid t = false) : t.takeWhile p = [] ∧ t.dropWhile p = t := by
  cases t with
  | nil => exact ⟨rfl, rfl⟩
  | cons c t =>
    have neg : ¬ p c := by simp [hp c (isBlank_of_startsSolid h)]
    exact ⟨List.takeWhile_cons_of_neg neg, List.dropWhile_cons_of_neg neg⟩

/-- Only without blanks in front does a text begin with a character that is none. -/
lemma head?_append_eq_some {c : Char} (blanks : IsBlanks u) (solid : isBlank c = false) :
    (u ++ t).head? = some c ↔ u = [] ∧ t.head? = some c := by
  cases u with
  | nil => simp
  | cons d u =>
    have ne : d ≠ c := by
      rintro rfl
      rw [(isBlanks_cons.1 blanks).1] at solid
      cases solid
    simp [ne]

/-- Blanks in front are trimmed away. -/
lemma trimStart_append (blanks : IsBlanks u) : trimStart (u ++ t) = trimStart t :=
  List.dropWhile_append_of_pos blanks

/-- Nothing is left of blanks. -/
lemma trimStart_of_isBlanks (blanks : IsBlanks t) : trimStart t = [] := by
  have h := trimStart_append (t := []) blanks
  rwa [List.append_nil] at h

/-- A blank in front is trimmed away. -/
lemma trimStart_cons_of_isBlank {c : Char} (blank : isBlank c) :
    trimStart (c :: t) = trimStart t :=
  List.dropWhile_cons_of_pos blank

/-- A character that is no blank stays, and all behind it. -/
lemma trimStart_cons_of_not_isBlank {c : Char} (solid : isBlank c = false) :
    trimStart (c :: t) = c :: t :=
  List.dropWhile_cons_of_neg (by simp [solid])

/-- What is left begins with no blank. -/
lemma trimStart_eq_cons {c : Char} (h : trimStart t = c :: s) : isBlank c = false := by
  induction t with
  | nil => cases h
  | cons d t ih =>
    cases blank : isBlank d with
    | true =>
      rw [trimStart_cons_of_isBlank blank] at h
      exact ih h
    | false =>
      rw [trimStart_cons_of_not_isBlank blank] at h
      cases h
      exact blank

/-- What is left is the end of the text. -/
lemma trimStart_suffix (t : Text) : trimStart t <:+ t :=
  List.dropWhile_suffix isBlank

/-- Trimming the start once is enough. -/
lemma trimStart_trimStart (t : Text) : trimStart (trimStart t) = trimStart t := by
  cases e : trimStart t with
  | nil => rfl
  | cons c rest => exact trimStart_cons_of_not_isBlank (trimStart_eq_cons e)

/-- What is left is empty if it does not start solid. -/
lemma trimStart_eq_nil (h : startsSolid (trimStart t) = false) : trimStart t = [] := by
  cases e : trimStart t with
  | nil => rfl
  | cons c rest =>
    rw [e] at h
    have solid := trimStart_eq_cons e
    rw [isBlank_of_startsSolid h] at solid
    cases solid

/-- A text that starts solid stays as it is. -/
lemma trimStart_of_startsSolid (h : startsSolid t) : trimStart t = t := by
  cases t with
  | nil => cases h
  | cons c t => exact trimStart_cons_of_not_isBlank (by simpa [startsSolid] using h)

/-- A text with a character that is no blank begins with one of its own when it is trimmed. -/
lemma exists_trimStart_append (content : ∃ c ∈ t, isBlank c = false) (s : Text) :
    ∃ d rest, d ∈ t ∧ trimStart (t ++ s) = d :: rest := by
  induction t with
  | nil => simp at content
  | cons c t ih =>
    cases blank : isBlank c with
    | false => exact ⟨c, t ++ s, .head _, trimStart_cons_of_not_isBlank blank⟩
    | true =>
      obtain ⟨d, mem, solid⟩ := content
      have behind : d ∈ t := by
        rcases List.mem_cons.1 mem with rfl | mem
        · rw [blank] at solid
          cases solid
        · exact mem
      obtain ⟨e, rest, he, trimmed⟩ := ih ⟨d, behind, solid⟩
      exact ⟨e, rest, .tail _ he, by rw [List.cons_append, trimStart_cons_of_isBlank blank, trimmed]⟩

/-- A text is what trimming its start leaves, behind blanks. -/
lemma exists_append_trimStart (t : Text) : ∃ u, IsBlanks u ∧ t = u ++ trimStart t :=
  ⟨t.takeWhile isBlank, isBlanks_takeWhile t, List.takeWhile_append_dropWhile.symm⟩

/-- What trimming the start leaves is the trimmed text before blanks. -/
lemma exists_trimStart_eq (t : Text) : ∃ v, IsBlanks v ∧ trimStart t = trim t ++ v := by
  refine ⟨((trimStart t).reverse.takeWhile isBlank).reverse, ?_, ?_⟩
  · intro c mem
    exact isBlanks_takeWhile _ c (List.mem_reverse.1 mem)
  · -- trimming the end is dropping from the reversed text
    have h := List.takeWhile_append_dropWhile (p := isBlank) (l := (trimStart t).reverse)
    have h := congrArg List.reverse h
    rw [List.reverse_append, List.reverse_reverse] at h
    exact h.symm

/-- A text with a character that is no blank is not trimmed to nothing. -/
lemma trim_ne_nil (h : trimStart t ≠ []) : trim t ≠ [] := by
  intro empty
  obtain ⟨v, blanks, e⟩ := exists_trimStart_eq t
  rw [empty, List.nil_append] at e
  apply h
  apply trimStart_eq_nil
  rw [e]
  exact startsSolid_of_isBlanks blanks

/-- A text is its trimmed part between blanks. -/
lemma exists_append_trim (t : Text) :
    ∃ u v, IsBlanks u ∧ IsBlanks v ∧ t = u ++ (trim t ++ v) := by
  obtain ⟨u, hu, eu⟩ := exists_append_trimStart t
  obtain ⟨v, hv, ev⟩ := exists_trimStart_eq t
  exact ⟨u, v, hu, hv, by rw [← ev, ← eu]⟩

/-- Blanks at the end of a text are trimmed away. -/
lemma trim_append_right (blanks : IsBlanks v) : trim (t ++ v) = trim t := by
  have rev : IsBlanks v.reverse := by
    intro c mem
    exact blanks c (List.mem_reverse.1 mem)
  have dropEnd : ∀ s : Text, dropEndWhile isBlank (s ++ v) = dropEndWhile isBlank s := by
    intro s
    rw [dropEndWhile, dropEndWhile, List.reverse_append, List.dropWhile_append_of_pos rev]
  cases h : t.dropWhile isBlank with
  | nil =>
    -- all of the text is blank
    obtain ⟨u, hu, e⟩ := exists_append_trimStart t
    rw [trimStart, h, List.append_nil] at e
    have all := trimStart_of_isBlanks (isBlanks_append.2 ⟨hu, blanks⟩)
    rw [← e] at all
    rw [trim, trim, strip, strip, h, ← trimStart, all]
  | cons c rest =>
    have e : (t ++ v).dropWhile isBlank = t.dropWhile isBlank ++ v := by
      rw [List.dropWhile_append, h]
      rfl
    rw [trim, trim, strip, strip, e, dropEnd]

/-- Trimming leaves no blank at either end. -/
lemma trim_trim (t : Text) : trim (trim t) = trim t := by
  obtain ⟨v, blanks, e⟩ := exists_trimStart_eq t
  calc trim (trim t) = trim (trim t ++ v) := (trim_append_right blanks).symm
    _ = trim (trimStart t) := by rw [e]
    _ = dropEndWhile isBlank (trimStart (trimStart t)) := rfl
    _ = trim t := by rw [trimStart_trimStart, trim, strip, trimStart]

/-- Nothing is dropped from the end if the last character stays. -/
lemma dropEndWhile_eq_self {p : Char → Bool} (h : ∀ c, t.getLast? = some c → p c = false) :
    dropEndWhile p t = t := by
  rw [dropEndWhile]
  cases e : t.reverse with
  | nil => rw [List.dropWhile_nil, ← e, List.reverse_reverse]
  | cons c rest =>
    have last : t.getLast? = some c := by
      rw [← List.head?_reverse, e, List.head?_cons]
    rw [List.dropWhile_cons_of_neg (by simp [h c last]), ← e, List.reverse_reverse]

/-- Nothing is stripped if the first and the last character stay. -/
lemma strip_eq_self {p : Char → Bool} (first : ∀ c, t.head? = some c → p c = false)
    (last : ∀ c, t.getLast? = some c → p c = false) : strip p t = t := by
  cases t with
  | nil => rfl
  | cons c rest =>
    rw [strip, List.dropWhile_cons_of_neg (by simp [first c rfl])]
    exact dropEndWhile_eq_self last

/-- Stripping only leaves characters out. -/
lemma strip_sublist (p : Char → Bool) (t : Text) : (strip p t).Sublist t := by
  have back := (List.dropWhile_sublist p (l := (t.dropWhile p).reverse)).reverse
  rw [List.reverse_reverse] at back
  exact back.trans (List.dropWhile_sublist p)

/-- A trimmed text has no blanks at its start. -/
lemma trimStart_of_trim (trimmed : trim t = t) : trimStart t = t := by
  obtain ⟨v, -, e⟩ := exists_trimStart_eq t
  rw [trimmed] at e
  refine (trimStart_suffix t).eq_of_length (Nat.le_antisymm (trimStart_suffix t).length_le ?_)
  rw [e, List.length_append]
  exact Nat.le_add_right _ _

/-- A trimmed text begins with no blank. -/
lemma isBlank_head?_of_trim (trimmed : trim t = t) {c : Char} (first : t.head? = some c) :
    isBlank c = false := by
  obtain ⟨rest, whole⟩ := List.head?_eq_some_iff.1 first
  exact trimStart_eq_cons ((trimStart_of_trim trimmed).trans whole)

/-- A trimmed text ends with no blank. -/
lemma isBlank_getLast?_of_trim (trimmed : trim t = t) {c : Char} (last : t.getLast? = some c) :
    isBlank c = false := by
  have whole : (t.reverse.dropWhile isBlank).reverse = t := by
    rw [trim, strip, ← trimStart, trimStart_of_trim trimmed, dropEndWhile] at trimmed
    exact trimmed
  have reversed := congrArg List.reverse whole
  rw [List.reverse_reverse] at reversed
  rw [← List.head?_reverse, List.head?_eq_some_iff] at last
  obtain ⟨rest, first⟩ := last
  rw [first, ← trimStart] at reversed
  exact trimStart_eq_cons reversed

/-- What follows the lead is the end of the text. -/
lemma dropLead?_suffix (h : dropLead? lead t = some u) : u <:+ t :=
  ⟨lead, (dropLead?_eq_some.1 h).symm⟩

/-- A text without blanks is found before blanks only where it is found without them. -/
lemma dropLead?_append_of_isBlanks (solid : lead.IsSolid) (blanks : IsBlanks v) :
    dropLead? lead (t ++ v) = (dropLead? lead t).map (· ++ v) := by
  induction lead generalizing t with
  | nil => rfl
  | cons l lead ih =>
    obtain ⟨hl, solid⟩ := List.forall_mem_cons.1 solid
    cases t with
    | nil =>
      cases v with
      | nil => rfl
      | cons c v =>
        have hc := (isBlanks_cons.1 blanks).1
        have ne : l ≠ c := by
          rintro rfl
          rw [hl] at hc
          cases hc
        simp [dropLead?, ne]
    | cons c t =>
      by_cases h : l = c
      · simpa [dropLead?, h] using ih solid
      · simp [dropLead?, h]

end Text

end SnippetCost
