import SnippetCost.Proofs.Snippet.Relaid
import SnippetCost.Proofs.Text.Place
import SnippetCost.Proofs.Text.Search
import SnippetCost.Snippet.Basic
import SnippetCost.Snippet.Definition

/-!
# Calls inside and outside the head of a definition

A call begins with a run of word characters that is the whole name, and a parenthesis follows at once.
The head of a definition has such a run in it exactly when no blank stands between the name and the
parenthesis, so only then does the count of calls include the head.

The count of calls is cut along the words of a text: none begins within a word
(`countP_placesWithin_inside`) or between words (`countP_placesWithin_gap`), so a head adds what
`countP_text` says. The first definition is found by `firstDefinedName?_of_isFirst`. The main result
is `selfCalls_eq_callsOutside`.
-/

namespace SnippetCost

open Text

/-- A character that begins the name of a function is a word character. -/
lemma isWordChar_of_isFunctionStart {c : Char} (h : Pattern.isFunctionStart c) : isWordChar c := by
  have ascii : ∀ n < 128, Pattern.isFunctionStart (Char.ofNat n) → isWordChar (Char.ofNat n) := by
    decide +kernel
  have le : c ≤ 'z' := by
    simp only [Pattern.isFunctionStart, isAsciiLetter, Bool.or_eq_true, Bool.and_eq_true,
      decide_eq_true_eq] at h
    obtain (⟨-, le⟩ | ⟨-, le⟩) | rfl := h
    · exact le
    · exact Char.le_trans le (by decide)
    · decide
  have le : c.toNat ≤ 122 := UInt32.le_iff_toNat_le.1 le
  have word := ascii c.toNat (by omega)
  rw [Char.ofNat_toNat] at word
  exact word h

/-- A parenthesis is no word character. -/
lemma isWordChar_paren : isWordChar '(' = false := by
  decide +kernel

/-- The name of a function has word characters only. -/
lemma isWordChar_of_isFunctionName {name : Text} (h : isFunctionName name) :
    ∀ c ∈ name, isWordChar c := by
  cases name with
  | nil => cases h
  | cons c rest =>
    rw [isFunctionName, Bool.and_eq_true] at h
    exact List.forall_mem_cons.2 ⟨isWordChar_of_isFunctionStart h.1, List.all_eq_true.1 h.2⟩

/-- The name of a function is not empty. -/
lemma ne_nil_of_isFunctionName {name : Text} (h : isFunctionName name) : name ≠ [] := by
  rintro rfl
  cases h

namespace Pattern

section Calls

variable {name run u rest after : Text} {before : Option Char} {p : Place}

/-- A call stands where the name and a parenthesis follow no word character. -/
lemma isCallOf_iff :
    isCallOf name p ↔ p.touchesWord = false ∧ ∃ rest, p.after = name ++ '(' :: rest := by
  rw [isCallOf, Option.isSome_iff_exists]
  simp only [Place.afterLead?_eq_some, exists_and_left, List.append_assoc, List.singleton_append]

/-- A call begins with a run of word characters that is the name. -/
lemma eq_name_of_append_eq (hrun : ∀ c ∈ run, isWordChar c) (stops : beginsInWord rest = false)
    (hname : ∀ c ∈ name, isWordChar c) (e : run ++ rest = name ++ '(' :: after) :
    run = name ∧ rest = '(' :: after := by
  obtain ⟨taken, left⟩ := run_append hrun (any_isWordChar_eq_false.1 stops)
  rw [e] at taken left
  have paren : beginsInWord ('(' :: after) = false := isWordChar_paren
  obtain ⟨taken', left'⟩ := run_append hname (any_isWordChar_eq_false.1 paren)
  exact ⟨taken.symm.trans taken', left.symm.trans left'⟩

/-- Within a word no call begins. -/
lemma countP_placesWithin_inside (touches : before.any isWordChar) (word : ∀ c ∈ run, isWordChar c) :
    (placesWithin before run rest).countP (isCallOf name) = 0 := by
  induction run generalizing before with
  | nil => rfl
  | cons c run ih =>
    obtain ⟨hc, word⟩ := List.forall_mem_cons.1 word
    have no : ¬ isCallOf name ⟨before, c :: (run ++ rest)⟩ := by
      rw [isCallOf_iff, Place.touchesWord, touches]
      rintro ⟨⟨⟩, -⟩
    have inside : (some c).any isWordChar := hc
    rw [placesWithin, List.countP_cons_of_neg no, ih inside word]

/-- No call begins between words. -/
lemma countP_placesWithin_gap (hname : isFunctionName name) (gap : ∀ c ∈ u, isWordChar c = false) :
    (placesWithin before u rest).countP (isCallOf name) = 0 := by
  induction u generalizing before with
  | nil => rfl
  | cons c u ih =>
    obtain ⟨hc, gap⟩ := List.forall_mem_cons.1 gap
    have no : ¬ isCallOf name ⟨before, c :: (u ++ rest)⟩ := by
      rw [isCallOf_iff]
      rintro ⟨-, after, e⟩
      obtain ⟨d, name, rfl⟩ := List.exists_cons_of_ne_nil (ne_nil_of_isFunctionName hname)
      obtain ⟨rfl, -⟩ := List.cons.inj e
      rw [isWordChar_of_isFunctionName hname c (.head _)] at hc
      cases hc
    rw [placesWithin, List.countP_cons_of_neg no, ih gap]

/-- A word is a call if it is the name and a parenthesis follows. -/
lemma countP_placesWithin_run (hname : isFunctionName name) (ne : run ≠ [])
    (word : ∀ c ∈ run, isWordChar c) (out : before.any isWordChar = false)
    (stops : beginsInWord rest = false) :
    (placesWithin before run rest).countP (isCallOf name) =
      if run = name ∧ rest.head? = some '(' then 1 else 0 := by
  obtain ⟨c, run, rfl⟩ := List.exists_cons_of_ne_nil ne
  have call : isCallOf name ⟨before, c :: run ++ rest⟩ ↔
      c :: run = name ∧ rest.head? = some '(' := by
    rw [isCallOf_iff]
    constructor
    · rintro ⟨-, after, e⟩
      obtain ⟨rfl, rfl⟩ := eq_name_of_append_eq word stops (isWordChar_of_isFunctionName hname) e
      exact ⟨rfl, rfl⟩
    · rintro ⟨rfl, head⟩
      obtain ⟨after, rfl⟩ := List.head?_eq_some_iff.1 head
      exact ⟨out, after, rfl⟩
  obtain ⟨hc, inner⟩ := List.forall_mem_cons.1 word
  have inside : (some c).any isWordChar := hc
  rw [placesWithin, List.countP_cons, countP_placesWithin_inside inside inner, Nat.zero_add]
  simp only [← List.cons_append, call]

end Calls

end Pattern

namespace DefinitionHead

variable (h : DefinitionHead) {before : Option Char} {back : Text}

/-- The head of a definition has a call of its function in it exactly when the parenthesis stands
directly behind the name. -/
lemma countP_text (out : before.any isWordChar = false) :
    (placesWithin before h.text back).countP (Pattern.isCallOf h.name) =
      if h.space = [] then 1 else 0 := by
  have name := h.isFunctionName_name
  have solid : isBlank '(' = false := by decide
  have keyword : ∀ c ∈ "def".toList, isWordChar c :=
    List.all_eq_true.1 (by decide +kernel)
  -- neither `def` nor the blanks and the parenthesis hold a call; the name does if it is one
  have keywordPlaces (t : Text) :
      (placesWithin before "def".toList (h.gap ++ t)).countP (Pattern.isCallOf h.name) = 0 := by
    have stops : beginsInWord (h.gap ++ t) = false :=
      beginsInWord_append h.isBlank_gap (.inl h.gap_ne_nil)
    rw [Pattern.countP_placesWithin_run name (by decide) keyword out stops, if_neg]
    rintro ⟨-, head⟩
    exact h.gap_ne_nil ((head?_append_eq_some h.isBlank_gap solid).1 head).1
  have gapPlaces (b : Option Char) (t : Text) :
      (placesWithin b h.gap t).countP (Pattern.isCallOf h.name) = 0 :=
    Pattern.countP_placesWithin_gap name fun c mem => isWordChar_of_isBlank (h.isBlank_gap c mem)
  have endPlaces (b : Option Char) (t : Text) :
      (placesWithin b (h.space ++ ['(']) t).countP (Pattern.isCallOf h.name) = 0 := by
    refine Pattern.countP_placesWithin_gap name ?_
    intro c mem
    rcases List.mem_append.1 mem with mem | mem
    · exact isWordChar_of_isBlank (h.isBlank_space c mem)
    · rw [List.mem_singleton.1 mem, isWordChar_paren]
  have behindGap (b : Option Char) : (h.gap.getLast?.or b).any isWordChar = false :=
    any_getLast?_or h.isBlank_gap (.inl h.gap_ne_nil)
  have namePlaces (b : Option Char) :
      (placesWithin (h.gap.getLast?.or b) h.name (h.space ++ '(' :: back)).countP
        (Pattern.isCallOf h.name) = if h.space = [] then 1 else 0 := by
    have stops : beginsInWord (h.space ++ '(' :: back) = false :=
      beginsInWord_append h.isBlank_space (.inr isWordChar_paren)
    rw [Pattern.countP_placesWithin_run name (ne_nil_of_isFunctionName name)
      (isWordChar_of_isFunctionName name) (behindGap b) stops]
    simp only [true_and, head?_append_eq_some h.isBlank_space solid, List.head?_cons, and_true]
  rw [text, placesWithin_append, placesWithin_append, placesWithin_append, List.countP_append,
    List.countP_append, List.countP_append, endPlaces, gapPlaces, List.append_assoc,
    keywordPlaces, Nat.zero_add, Nat.zero_add, Nat.add_zero, List.append_assoc]
  exact namePlaces _

end DefinitionHead

namespace Pattern

variable {name t after : Text} {p : Place}

/-- What follows a parenthesis is found behind blanks. -/
lemma afterParen?_eq_some : afterParen? t = some after ↔ ∃ u, IsBlanks u ∧ t = u ++ '(' :: after := by
  have paren : isBlank '(' = false := by decide
  rw [afterParen?, dropLead?_eq_some]
  constructor
  · intro trimmed
    obtain ⟨u, blanks, e⟩ := exists_append_trimStart t
    rw [trimmed] at e
    exact ⟨u, blanks, e⟩
  · rintro ⟨u, blanks, rfl⟩
    rw [trimStart_append blanks, trimStart_cons_of_not_isBlank paren]
    rfl

/-- A name is called where it stands before a parenthesis, with blanks between them or none. -/
lemma calledName?_eq_some :
    calledName? t = some name ↔ isFunctionName name ∧
      ∃ u after, IsBlanks u ∧ t = name ++ (u ++ '(' :: after) := by
  constructor
  · intro called
    cases t with
    | nil => cases called
    | cons c rest =>
      rw [calledName?] at called
      split at called
      · next both =>
        cases called
        obtain ⟨start, paren⟩ := Bool.and_eq_true_iff.1 both
        obtain ⟨after, paren⟩ := Option.isSome_iff_exists.1 paren
        obtain ⟨u, blanks, e⟩ := afterParen?_eq_some.1 paren
        refine ⟨Bool.and_eq_true_iff.2 ⟨start, List.all_takeWhile⟩, u, after, blanks, ?_⟩
        rw [← e, List.cons_append, List.takeWhile_append_dropWhile]
      · cases called
  · rintro ⟨isName, u, after, blanks, rfl⟩
    obtain ⟨c, run, rfl⟩ := List.exists_cons_of_ne_nil (ne_nil_of_isFunctionName isName)
    obtain ⟨start, word⟩ := Bool.and_eq_true_iff.1 isName
    have ends : beginsInWord (u ++ '(' :: after) = false :=
      beginsInWord_append blanks (.inr isWordChar_paren)
    obtain ⟨taken, left⟩ :=
      run_append (List.all_eq_true.1 word) (any_isWordChar_eq_false.1 ends)
    have paren := (afterParen?_eq_some).2 ⟨u, blanks, (rfl : _ = u ++ '(' :: after)⟩
    rw [List.cons_append, calledName?, taken, left, start, paren]
    rfl

/-- A name is found behind one blank or more. -/
lemma nameBehindBlank?_eq_some :
    nameBehindBlank? t = some name ↔
      ∃ u rest, IsBlanks u ∧ u ≠ [] ∧ t = u ++ rest ∧ calledName? rest = some name := by
  constructor
  · intro found
    cases t with
    | nil => cases found
    | cons c rest =>
      rw [nameBehindBlank?] at found
      split at found
      · next blank =>
        obtain ⟨u, blanks, e⟩ := exists_append_trimStart rest
        refine ⟨c :: u, trimStart rest, isBlanks_cons.2 ⟨blank, blanks⟩, by simp, ?_, found⟩
        rw [List.cons_append, ← e]
      · cases found
  · rintro ⟨u, rest, blanks, ne, rfl, called⟩
    have solid : startsSolid rest := by
      cases start : startsSolid rest with
      | true => rfl
      | false =>
        rw [calledName?_of_startsSolid start] at called
        cases called
    rw [nameBehindBlank?_of_isBlanks blanks ne, trimStart_of_startsSolid solid, called]

/-- A definition stands at a place exactly if the text of a head does. -/
lemma definedName?_eq_some :
    definedName? p = some name ↔ p.touchesWord = false ∧
      ∃ (h : DefinitionHead) (back : Text), h.name = name ∧ p.after = h.text ++ back := by
  rw [definedName?_eq, Option.bind_eq_some_iff]
  constructor
  · rintro ⟨behind, lead, found⟩
    obtain ⟨out, e⟩ := Place.afterLead?_eq_some.1 lead
    obtain ⟨gap, rest, isBlank_gap, gap_ne_nil, rfl, called⟩ := nameBehindBlank?_eq_some.1 found
    obtain ⟨isFunctionName_name, space, back, isBlank_space, rfl⟩ := calledName?_eq_some.1 called
    refine ⟨out, ⟨gap, name, space, gap_ne_nil, isBlank_gap, isFunctionName_name, isBlank_space⟩,
      back, rfl, ?_⟩
    simp [e, DefinitionHead.text]
  · rintro ⟨out, h, back, rfl, e⟩
    refine ⟨h.gap ++ (h.name ++ (h.space ++ '(' :: back)), ?_, ?_⟩
    · refine Place.afterLead?_eq_some.2 ⟨out, ?_⟩
      simp [e, DefinitionHead.text]
    · refine nameBehindBlank?_eq_some.2 ⟨_, _, h.isBlank_gap, h.gap_ne_nil, rfl, ?_⟩
      exact calledName?_eq_some.2 ⟨h.isFunctionName_name, _, back, h.isBlank_space, rfl⟩

end Pattern

namespace Definition

variable {t name : Text}

/-- The function of a definition is called as often as outside the head, and once more if the
parenthesis stands directly behind the name. -/
lemma callsIn (d : Definition t) :
    Pattern.callsIn d.head.name t = d.callsOutside + if d.head.space = [] then 1 else 0 := by
  have out := d.begins_word
  have cut : places t = placesWithin none d.front (d.head.text ++ d.back) ++
      (placesWithin d.front.getLast? d.head.text d.back ++
        placesFrom (d.head.text.getLast?.or d.front.getLast?) d.back) := by
    refine (congrArg places d.text_eq).trans ?_
    rw [places, placesFrom_append, placesFrom_append, Option.or_none]
  rw [Pattern.callsIn, callsOutside, placesOutside, cut]
  have front := length_placesWithin none d.front (d.head.text ++ d.back)
  have head := length_placesWithin d.front.getLast? d.head.text d.back
  rw [List.take_left' front, ← List.drop_drop, List.drop_left' front, List.drop_left' head]
  rw [List.countP_append, List.countP_append, List.countP_append, d.head.countP_text out]
  omega

/-- The name in the head of a definition is found. -/
lemma definedName? (d : Definition t) :
    Pattern.definedName? ⟨d.front.getLast?, d.head.text ++ d.back⟩ = some d.head.name :=
  Pattern.definedName?_eq_some.2 ⟨d.begins_word, d.head, d.back, rfl, rfl⟩

/-- A definition at the beginning of a text is found first. -/
lemma firstDefinedName?_of_front (d : Definition t) (atStart : d.front = []) :
    Pattern.firstDefinedName? t = some d.head.name := by
  have here := d.definedName?
  have whole := d.text_eq
  obtain ⟨ps, places_eq⟩ := exists_placesFrom_eq none t
  rw [atStart, List.nil_append] at whole
  rw [atStart, ← whole, List.getLast?_nil] at here
  rw [Pattern.firstDefinedName?, places, places_eq, List.findSome?_cons, here]

/-- The name that is found first belongs to a first definition. -/
lemma exists_isFirst (found : Pattern.firstDefinedName? t = some name) :
    ∃ d : Definition t, d.IsFirst ∧ d.head.name = name := by
  obtain ⟨before, p, behind, cut, here, none⟩ := List.findSome?_eq_some_iff.1 found
  obtain ⟨front, rest, text_eq, rfl, rfl⟩ := exists_append_of_placesFrom cut
  obtain ⟨begins_word, head, back, rfl, rfl⟩ := Pattern.definedName?_eq_some.1 here
  rw [Option.or_none] at begins_word
  refine ⟨⟨front, head, back, text_eq, begins_word⟩, ?_, rfl⟩
  intro e
  refine Nat.le_of_not_lt fun lt => ?_
  -- a definition further left would have been found
  have not := none _ (mem_placesWithin (text_eq.symm.trans e.text_eq) lt)
  rw [e.definedName?] at not
  cases not

/-- The first definition names the function that is found first. -/
lemma firstDefinedName?_of_isFirst {d : Definition t} (first : d.IsFirst)
    (found : Pattern.firstDefinedName? t = some name) : d.head.name = name := by
  obtain ⟨e, leftmost, rfl⟩ := exists_isFirst found
  have length := Nat.le_antisymm (first e) (leftmost d)
  obtain ⟨front, rest⟩ := List.append_inj (d.text_eq.symm.trans e.text_eq) length
  have same := d.definedName?
  rw [front, rest, e.definedName?] at same
  exact (Option.some.inj same).symm

end Definition

namespace Snippet

/-- A text with a definition has a first one. If the pattern for calls of its function can be built,
then the calls that are counted are those outside its head, and the head itself exactly when no blank
stands between the name and the parenthesis. Otherwise none is counted. -/
theorem selfCalls_eq_callsOutside [PatternBuilder] (t name : Text)
    (named : (Snippet.ofText t).functionName = some name) :
    (∃ d : Definition t, d.IsFirst) ∧
      ∀ d : Definition t, d.IsFirst → d.head.name = name ∧
        (Snippet.ofText t).selfCalls =
          if PatternBuilder.builds (Pattern.callPattern name) then
            d.callsOutside + if d.head.space = [] then 1 else 0
          else 0 := by
  have found : Pattern.firstDefinedName? t = some name := named
  obtain ⟨d, first, -⟩ := Definition.exists_isFirst found
  refine ⟨⟨d, first⟩, fun d first => ?_⟩
  have same := Definition.firstDefinedName?_of_isFirst first found
  refine ⟨same, ?_⟩
  rw [selfCalls_of_some named, Pattern.countCalls, ← same, d.callsIn]

/-- The head of the definition of a search, with `space` before the parenthesis. -/
def searchHead (space : Text) (isBlank_space : ∀ c ∈ space, isBlank c) : DefinitionHead where
  gap := [' ']
  name := "search".toList
  space
  gap_ne_nil := by decide
  isBlank_gap := List.all_eq_true.1 (by decide +kernel)
  isFunctionName_name := by decide +kernel
  isBlank_space

/-- What follows the head: the search goes on in half of its range. -/
def searchBody : Text :=
  "a, lo, hi):\n    m = (lo + hi) // 2\n    return search(a, lo, m)".toList

/-- A text that begins with the definition of the search. -/
def searchDefinition {t space : Text} (isBlank_space : ∀ c ∈ space, isBlank c)
    (text_eq : t = (searchHead space isBlank_space).text ++ searchBody) : Definition t where
  front := []
  head := searchHead space isBlank_space
  back := searchBody
  text_eq
  begins_word := rfl

/-- A search whose parenthesis stands directly behind its name. -/
def directSearch : Text :=
  "def search(a, lo, hi):\n    m = (lo + hi) // 2\n    return search(a, lo, m)".toList

/-- The one call and the definition make two, and the search is recognised. -/
theorem selfCalls_eq_callsOutside_directSearch :
    (ofText directSearch).functionName = some "search".toList ∧
      (ofText directSearch).selfCalls = 2 ∧
      Rule.recursiveBinarySearch.recognises (ofText directSearch) := by
  have named : (ofText directSearch).functionName = some "search".toList := by decide +kernel
  let d : Definition directSearch := searchDefinition (List.forall_mem_nil _) (by decide +kernel)
  have first : d.IsFirst := fun _ => Nat.zero_le _
  have outside : d.callsOutside = 1 := by decide +kernel
  have built : PatternBuilder.builds (Pattern.callPattern "search".toList) := by decide
  obtain ⟨-, calls⟩ := (selfCalls_eq_callsOutside _ _ named).2 d first
  rw [if_pos built, outside] at calls
  exact ⟨named, calls, by decide +kernel⟩

/-- The same search with a blank before its parenthesis. -/
def spacedSearch : Text :=
  "def search (a, lo, hi):\n    m = (lo + hi) // 2\n    return search(a, lo, m)".toList

/-- The definition is not counted, and the search not recognised. -/
theorem selfCalls_ne_callsOutside_spacedSearch :
    ∃ d : Definition spacedSearch, d.IsFirst ∧
      (ofText spacedSearch).functionName = some d.head.name ∧ d.callsOutside = 1 ∧
      (ofText spacedSearch).selfCalls ≠ d.callsOutside + 1 ∧
      ¬ Rule.recursiveBinarySearch.recognises (ofText spacedSearch) := by
  refine ⟨@searchDefinition _ [' '] (List.all_eq_true.1 (by decide +kernel))
    (by decide +kernel), ?_, ?_⟩
  · exact fun _ => Nat.zero_le _
  · decide +kernel

end Snippet

end SnippetCost
