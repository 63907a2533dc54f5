import Mathlib.Data.Set.Card
import SnippetCost.Proofs.Snippet.Definition
import SnippetCost.Snippet.CallPattern

/-!
# A search for calls finds each of them

Whatever characters a name has, the pattern that is written from it asks for these characters. As a
name begins with a word character, the edge of a word in front of it is its own beginning. Nor can two
calls overlap: one ends with a parenthesis, and between its beginning and its end no other begins.

What the pattern asks for is `pieces?_callPattern`, where it matches is `behindMatch?_call`, and that
no two matches overlap is `countP_placesFrom_call`; so a search counts every call, `searchCalls_eq`.
The main result is `selfCalls_eq_ncard`.
-/

namespace SnippetCost

open Text

/-- The members of a list are counted by their places in it. -/
lemma countP_eq_ncard {α : Type} (p : α → Bool) (l : List α) :
    l.countP p = {n : Nat | ∃ a, l[n]? = some a ∧ p a}.ncard := by
  induction l with
  | nil => simp
  | cons a l ih =>
    have finite : {n : Nat | ∃ b, l[n]? = some b ∧ p b}.Finite := by
      refine (Set.finite_lt_nat l.length).subset ?_
      rintro n ⟨b, found, -⟩
      exact (List.getElem?_eq_some_iff.1 found).1
    have later : (Nat.succ '' {n : Nat | ∃ b, l[n]? = some b ∧ p b}).ncard = l.countP p := by
      rw [Set.ncard_image_of_injective _ Nat.succ_injective, ih]
    by_cases here : p a
    · have places : {n : Nat | ∃ b, (a :: l)[n]? = some b ∧ p b} =
          insert 0 (Nat.succ '' {n | ∃ b, l[n]? = some b ∧ p b}) := by
        ext n
        cases n <;> simp [here]
      have first : 0 ∉ Nat.succ '' {n | ∃ b, l[n]? = some b ∧ p b} := by simp
      rw [List.countP_cons_of_pos here, places, Set.ncard_insert_of_notMem first (finite.image _),
        later]
    · have places : {n : Nat | ∃ b, (a :: l)[n]? = some b ∧ p b} =
          Nat.succ '' {n | ∃ b, l[n]? = some b ∧ p b} := by
        ext n
        cases n <;> simp [here]
      rw [List.countP_cons_of_neg here, places, later]

/-- The places of a text are where it is cut in two, in order. -/
lemma Text.getElem?_placesFrom {before : Option Char} {t : Text} {n : Nat} {p : Place} :
    (placesFrom before t)[n]? = some p ↔
      ∃ front back, t = front ++ back ∧ front.length = n ∧ p = ⟨front.getLast?.or before, back⟩ := by
  constructor
  · intro found
    obtain ⟨lt, here⟩ := List.getElem?_eq_some_iff.1 found
    have cut := (List.take_append_drop n (placesFrom before t)).symm
    rw [List.drop_eq_getElem_cons lt, here] at cut
    obtain ⟨front, back, rfl, rfl, taken⟩ := exists_append_of_placesFrom cut
    refine ⟨front, back, rfl, ?_, rfl⟩
    rw [← length_placesWithin before front back, ← taken, List.length_take,
      Nat.min_eq_left (Nat.le_of_lt lt)]
  · rintro ⟨front, back, rfl, rfl, rfl⟩
    obtain ⟨ps, here⟩ := exists_placesFrom_eq (front.getLast?.or before) back
    have length := length_placesWithin before front back
    rw [placesFrom_append, List.getElem?_append_right (Nat.le_of_eq length), length, Nat.sub_self,
      here, List.getElem?_cons_zero]

namespace Pattern

variable {name : Text} {before : Option Char} {p q : Place}

/-- The calls that are counted stand at the places where the name and a parenthesis begin. -/
lemma callsIn_eq_ncard (name t : Text) : callsIn name t = {n | CallsAt name t n}.ncard := by
  rw [callsIn, countP_eq_ncard]
  congr 1
  ext n
  constructor
  · rintro ⟨p, found, call⟩
    obtain ⟨front, back, rfl, rfl, rfl⟩ := getElem?_placesFrom.1 found
    obtain ⟨out, back, rfl⟩ := isCallOf_iff.1 call
    rw [Place.touchesWord, Option.or_none] at out
    exact ⟨front, back, rfl, rfl, out⟩
  · rintro ⟨front, back, rfl, rfl, out⟩
    refine ⟨⟨front.getLast?.or none, name ++ '(' :: back⟩, ?_, ?_⟩
    · exact getElem?_placesFrom.2 ⟨front, _, rfl, rfl, rfl⟩
    · refine isCallOf_iff.2 ⟨?_, back, rfl⟩
      rw [Place.touchesWord, Option.or_none]
      exact out

/-- A character that means itself in a pattern is a piece of it. -/
lemma pieces?_cons {c : Char} (plain : isSpecial c = false) (t : Text) :
    pieces? (c :: t) = (pieces? t).map (.char c :: ·) := by
  rw [pieces?, plain, if_neg Bool.false_ne_true]
  rintro d more rfl -
  cases plain

/-- A character behind a backslash is a piece of a pattern. -/
lemma pieces?_special {c : Char} (special : isSpecial c) (t : Text) :
    pieces? ('\\' :: c :: t) = (pieces? t).map (.char c :: ·) := by
  have ne : c ≠ 'b' := by
    rintro rfl
    cases special
  rw [pieces?, if_neg ne, if_pos special]

/-- A text written as a pattern is read as its characters. -/
lemma pieces?_literal_append (t u : Text) :
    pieces? (literal t ++ u) = (pieces? u).map (t.map .char ++ ·) := by
  induction t with
  | nil =>
    rw [literal, List.flatMap_nil, List.nil_append]
    exact Option.map_id'.symm
  | cons c t ih =>
    have tail : pieces? (literal (c :: t) ++ u) = (pieces? (literal t ++ u)).map (.char c :: ·) := by
      rw [literal, List.flatMap_cons, ← literal]
      by_cases special : isSpecial c
      · rw [if_pos special]
        exact pieces?_special special _
      · rw [if_neg special]
        exact pieces?_cons (by simpa using special) _
    rw [tail, ih, Option.map_map]
    rfl

/-- The pattern for calls asks for the edge of a word, the name and a parenthesis. -/
lemma pieces?_callPattern (name : Text) :
    pieces? (callPattern name) = some (.wordEdge :: (name.map .char ++ [.char '('])) := by
  have edge (t : Text) : pieces? ("\\b".toList ++ t) = (pieces? t).map (.wordEdge :: ·) := rfl
  have paren : pieces? "\\(".toList = some [.char '('] := by decide
  rw [callPattern, edge, pieces?_literal_append, paren]
  rfl

/-- Characters of a pattern match themselves. -/
lemma behindMatch?_chars (u : Text) (pieces : List PatternPiece) (p : Place) :
    behindMatch? (u.map .char ++ pieces) p = some q ↔
      ∃ rest, p.after = u ++ rest ∧ behindMatch? pieces ⟨u.getLast?.or p.before, rest⟩ = some q := by
  induction u generalizing p with
  | nil => simp
  | cons c u ih =>
    obtain ⟨before, after⟩ := p
    rw [List.map_cons, List.cons_append, behindMatch?]
    cases after with
    | nil => simp
    | cons d after =>
      dsimp only
      rw [Option.ite_none_right_eq_some, ih]
      constructor
      · rintro ⟨rfl, rest, rfl, found⟩
        exact ⟨rest, rfl, by rwa [getLast?_cons_or]⟩
      · rintro ⟨rest, e, found⟩
        obtain ⟨rfl, rfl⟩ := List.cons.inj e
        exact ⟨rfl, rest, rfl, by rwa [getLast?_cons_or] at found⟩

/-- The pattern of a call matches where a call begins, up to its parenthesis. -/
lemma behindMatch?_call (hname : isFunctionName name) :
    behindMatch? (.wordEdge :: (name.map .char ++ [.char '('])) p = some q ↔
      p.touchesWord = false ∧ p.after = name ++ '(' :: q.after ∧ q.before = some '(' := by
  have word := isWordChar_of_isFunctionName hname
  obtain ⟨c, tail, rfl⟩ := List.exists_cons_of_ne_nil (ne_nil_of_isFunctionName hname)
  -- where the name stands, the edge is the beginning of a word
  have edge {rest : Text} (e : p.after = c :: tail ++ rest) : p.isWordEdge = !p.touchesWord := by
    have begins : beginsInWord p.after = true := by
      rw [e]
      exact word c (.head _)
    rw [Place.isWordEdge, begins, Bool.bne_true]
  rw [behindMatch?, Option.ite_none_right_eq_some, behindMatch?_chars]
  constructor
  · rintro ⟨isEdge, rest, e, found⟩
    rw [edge e, Bool.not_eq_true'] at isEdge
    cases rest with
    | nil => cases found
    | cons d rest =>
      rw [behindMatch?, Option.ite_none_right_eq_some] at found
      obtain ⟨rfl, found⟩ := found
      cases found
      exact ⟨isEdge, e, rfl⟩
  · rintro ⟨out, e, first⟩
    obtain ⟨before, after⟩ := q
    obtain rfl : before = some '(' := first
    refine ⟨?_, '(' :: after, e, ?_⟩
    · rw [edge e, out, Bool.not_false]
    · rw [behindMatch?]
      exact if_pos rfl

/-- One call stands from its beginning to behind its parenthesis. -/
lemma countP_placesFrom_call (hname : isFunctionName name) (out : before.any isWordChar = false)
    (rest : Text) :
    (placesFrom before (name ++ '(' :: rest)).countP (isCallOf name) =
      (placesFrom (some '(') rest).countP (isCallOf name) + 1 := by
  have split : name ++ '(' :: rest = (name ++ ['(']) ++ rest := by
    rw [List.append_assoc, List.singleton_append]
  have last : (name ++ ['(']).getLast?.or before = some '(' := by
    rw [List.getLast?_append, List.getLast?_singleton, Option.some_or, Option.some_or]
  have stops : beginsInWord (['('] ++ rest) = false := isWordChar_paren
  have run : (placesWithin before name (['('] ++ rest)).countP (isCallOf name) = 1 := by
    rw [countP_placesWithin_run hname (ne_nil_of_isFunctionName hname)
      (isWordChar_of_isFunctionName hname) out stops]
    exact if_pos ⟨rfl, rfl⟩
  have paren (b : Option Char) : (placesWithin b ['('] rest).countP (isCallOf name) = 0 :=
    countP_placesWithin_gap hname (List.forall_mem_singleton.2 isWordChar_paren)
  rw [split, placesFrom_append, last, placesWithin_append, List.countP_append, List.countP_append,
    run, paren, Nat.add_zero, Nat.add_comm]

/-- A search that goes on behind each call passes over none. -/
lemma countMatches_call (hname : isFunctionName name) (before : Option Char) (t : Text) :
    countMatches (.wordEdge :: (name.map .char ++ [.char '('])) before t =
      (placesFrom before t).countP (isCallOf name) := by
  fun_induction countMatches _ before t with
  | case1 before =>
    have no : ¬ isCallOf name ⟨before, []⟩ := by
      rw [isCallOf_iff]
      simp
    rw [placesFrom, List.countP_cons_of_neg no, List.countP_nil]
  | case2 before c rest found ih =>
    have no : ¬ isCallOf name ⟨before, c :: rest⟩ := by
      rw [isCallOf_iff]
      rintro ⟨out, after, e⟩
      have hit := (behindMatch?_call hname (q := ⟨some '(', after⟩)).2 ⟨out, e, rfl⟩
      rw [found] at hit
      cases hit
    rw [placesFrom, List.countP_cons_of_neg no, ih]
  | case3 before c rest p found le ih =>
    obtain ⟨out, e, first⟩ := (behindMatch?_call hname).1 found
    have e : c :: rest = name ++ '(' :: p.after := e
    rw [ih, first, e, countP_placesFrom_call hname out]
  | case4 before c rest p found lt ih =>
    obtain ⟨-, e, -⟩ := (behindMatch?_call hname).1 found
    have length := congrArg List.length e
    rw [List.length_append, List.length_cons, List.length_cons] at length
    omega

/-- The search finds the calls that are counted, and none if there is no pattern. -/
lemma searchCalls_eq [PatternBuilder] (hname : isFunctionName name) (t : Text) :
    searchCalls name t = countCalls name t := by
  have all := countMatches_call hname none t
  rw [searchCalls, countCalls, pieces?_callPattern]
  simp only [all, callsIn, places]

/-- A text written as a pattern is no shorter than itself. -/
lemma byteSize_le_literal (t : Text) : byteSize t ≤ byteSize (literal t) := by
  induction t with
  | nil => exact Nat.le_refl 0
  | cons c t ih =>
    have char : byteSize [c] ≤ byteSize (if isSpecial c then ['\\', c] else [c]) := by
      split
      · exact (Nat.le_add_left _ _).trans_eq (byteSize_append ['\\'] [c]).symm
      · exact Nat.le_refl _
    have whole := Nat.add_le_add char ih
    rw [← byteSize_append] at whole
    rw [literal, List.flatMap_cons, byteSize_append]
    exact whole

/-- The pattern for calls has no fewer bytes than the name. -/
lemma byteSize_le_callPattern (name : Text) : byteSize name ≤ byteSize (callPattern name) := by
  have literal := byteSize_le_literal name
  rw [callPattern, byteSize_append, byteSize_append]
  omega

end Pattern

namespace Snippet

/-- The name of a snippet is the name of a function, and that in the first head of a definition. The
calls that are counted are what a search for the pattern of a call finds: if the pattern can be built,
all places where the name and a parenthesis stand behind no word character, and else none. -/
theorem selfCalls_eq_ncard [PatternBuilder] (t name : Text)
    (named : (Snippet.ofText t).functionName = some name) :
    isFunctionName name ∧
      (∃ d : Definition t, d.IsFirst) ∧
      (∀ d : Definition t, d.IsFirst → d.head.name = name) ∧
      (Snippet.ofText t).selfCalls = Pattern.searchCalls name t ∧
      (Snippet.ofText t).selfCalls =
        if PatternBuilder.builds (Pattern.callPattern name) then {n | CallsAt name t n}.ncard
        else 0 := by
  have found : Pattern.firstDefinedName? t = some name := named
  have counted := selfCalls_of_some named
  obtain ⟨d, first, rfl⟩ := Definition.exists_isFirst found
  have hname := d.head.isFunctionName_name
  refine ⟨hname, ⟨d, first⟩, ?_, ?_, ?_⟩
  · intro e leftmost
    exact Definition.firstDefinedName?_of_isFirst leftmost found
  · rw [counted, Pattern.searchCalls_eq hname]
  · rw [counted, Pattern.countCalls, Pattern.callsIn_eq_ncard]

/-- A method that calls itself through an attribute, and a function with a longer name. -/
def attributeCall : Text :=
  "def go(self, n):\n    return self.go(n - 1) + logo(n)".toList

/-- The head and the attribute make two calls; the longer name makes none. -/
theorem selfCalls_eq_ncard_attributeCall :
    (ofText attributeCall).functionName = some "go".toList ∧
      {n | CallsAt "go".toList attributeCall n}.ncard = 2 ∧
      Pattern.searchCalls "go".toList attributeCall = 2 := by
  have computed : (ofText attributeCall).functionName = some "go".toList ∧
      (ofText attributeCall).selfCalls = 2 := by decide +kernel
  have built : PatternBuilder.builds (Pattern.callPattern "go".toList) := by decide
  obtain ⟨named, two⟩ := computed
  obtain ⟨-, -, -, search, places⟩ := selfCalls_eq_ncard _ _ named
  rw [if_pos built] at places
  exact ⟨named, places.symm.trans two, search.symm.trans two⟩

/-- The definition of a function without parameters. -/
def bareDefinition (name : Text) : Text :=
  "def ".toList ++ (name ++ "()".toList)

/-- Where the pattern for a name cannot be built, the head of its definition is a call that is not
counted. -/
lemma selfCalls_bareDefinition [PatternBuilder] {name : Text} (hname : isFunctionName name)
    (tooLarge : PatternBuilder.builds (Pattern.callPattern name) = false) :
    (ofText (bareDefinition name)).functionName = some name ∧
      0 < {n | CallsAt name (bareDefinition name) n}.ncard ∧
      (ofText (bareDefinition name)).selfCalls = 0 := by
  let head : DefinitionHead :=
    ⟨[' '], name, [], by decide, List.all_eq_true.1 (by decide), hname, List.forall_mem_nil _⟩
  let d : Definition (bareDefinition name) := ⟨[], head, [')'], ?_, rfl⟩
  · have named : (ofText (bareDefinition name)).functionName = some name :=
      d.firstDefinedName?_of_front rfl
    have calls : Pattern.callsIn name (bareDefinition name) = d.callsOutside + 1 := d.callsIn
    refine ⟨named, ?_, ?_⟩
    · rw [← Pattern.callsIn_eq_ncard, calls]
      exact Nat.succ_pos _
    · rw [selfCalls_of_some named, Pattern.countCalls, tooLarge, if_neg Bool.false_ne_true]
  · simp [bareDefinition, DefinitionHead.text, head]

/-- A name that the standard builder builds no pattern for. -/
def longName : Text :=
  'f' :: List.replicate 440000 'a'

/-- The name of the example is one that a function can have. -/
lemma isFunctionName_longName : isFunctionName longName := by
  have start : Pattern.isFunctionStart 'f' := by decide
  have word : isWordChar 'a' := by decide +kernel
  rw [longName, isFunctionName, start, List.all_replicate, word, ite_self]
  rfl

/-- Its characters alone take more than the standard builder may. -/
lemma builds_longName : PatternBuilder.builds (Pattern.callPattern longName) = false := by
  have size : byteSize longName = 1 + 440000 * 1 := by
    rw [longName, ← List.singleton_append, byteSize_append, byteSize_replicate]
    rfl
  have le := Pattern.byteSize_le_callPattern longName
  rw [size] at le
  refine decide_eq_false ?_
  omega

/-- The head of its definition is a call that is not counted. -/
theorem selfCalls_ne_ncard_longName :
    (ofText (bareDefinition longName)).functionName = some longName ∧
      0 < {n | CallsAt longName (bareDefinition longName) n}.ncard ∧
      (ofText (bareDefinition longName)).selfCalls = 0 :=
  selfCalls_bareDefinition isFunctionName_longName builds_longName

end Snippet

end SnippetCost
