import SnippetCost.Proofs.Text.Place
import SnippetCost.Proofs.Text.Relaid
import SnippetCost.Snippet.Rule

/-!
# The signs of an algorithm under another layout

None of the patterns that the rules look for depends on the layout of a text: each begins with a
character that is no blank, and passes over blanks only by trimming them. Taking out the heads of
loops leaves texts that are laid out anew.

A sign that does not depend on the layout is a `BlindTest`: `blindTest_isHalving`,
`blindTest_isSortCall`, `blindTest_isCallOf` and, for what is found at a place, `blind_definedName?`.
The main result is `withoutLoopHeads_relaid`, and with it `hasMembership_relaid`.
-/

namespace SnippetCost

open Text

namespace Pattern

variable {s t name : Text} {p q : Place}

/-- Blanks in front of a parenthesis may be others. -/
lemma afterParen?_relaid (h : Relaid s t) : (afterParen? s).isSome = (afterParen? t).isSome :=
  isSome_eq_of_rel (h.trimStart.dropLead? (by decide))

/-- A division by two does not depend on the layout. -/
lemma blindTest_isHalving : BlindTest isHalving where
  same := by
    intro p q h
    have slash : isBlank '/' = false := by decide
    -- one direction is enough, since the relation is symmetric
    have other : ∀ {p q : Place}, Place.Relaid p q → isHalving p → isHalving q := by
      intro p q h found
      rw [isHalving] at found
      split at found
      · next rest e =>
        have after := h.after
        rw [e] at after
        obtain ⟨rest', e', rel⟩ := after.cons_inv slash
        rw [isHalving, e']
        simpa [rel.head?_trimStart] using found
      · cases found
    rw [Bool.eq_iff_iff]
    exact ⟨other h, other ⟨h.touches.symm, h.after.symm⟩⟩
  solid := by
    intro p hp
    rw [isHalving]
    split
    · next rest e =>
      have slash : isBlank '/' = false := by decide
      simp [Place.isSolid, startsSolid, e, slash] at hp
    · rfl

/-- A call of a sort does not depend on the layout. -/
lemma blindTest_isSortCall : BlindTest isSortCall where
  same := by
    intro p q h
    have call : ∀ {a b : Option Text}, Option.Rel Relaid a b →
        (a.bind afterParen?).isSome = (b.bind afterParen?).isSome := by
      intro a b rel
      cases rel with
      | none => rfl
      | some rel => exact afterParen?_relaid rel
    rw [isSortCall, isSortCall, call (h.after.dropLead? (by decide)),
      call (h.afterLead? (by decide))]
  solid := by
    intro p hp
    rw [isSortCall, Place.dropLead?_of_not_isSolid (by decide) (by decide) hp,
      Place.afterLead?_of_not_isSolid (by decide) (by decide) hp]
    rfl

/-- No name of a function begins with a blank. -/
lemma isFunctionStart_of_isBlank {c : Char} (h : isBlank c) : isFunctionStart c = false :=
  not_of_isBlank (by decide) h

/-- No name of a function is found at a blank or at the end. -/
lemma calledName?_of_startsSolid (h : startsSolid t = false) : calledName? t = none := by
  cases t with
  | nil => rfl
  | cons c t => simp [calledName?, isFunctionStart_of_isBlank (isBlank_of_startsSolid h)]

/-- The name that stands at the start of two texts, with a parenthesis behind it, is the same. -/
lemma calledName?_relaid (h : Relaid s t) : calledName? s = calledName? t := by
  rcases h.keep_or_blank with ⟨c, s', t', rfl, rfl, rel⟩ | ⟨hs, ht⟩
  · obtain ⟨run, after⟩ := rel.run (p := isWordChar) fun _ blank => isWordChar_of_isBlank blank
    rw [calledName?, calledName?, run, afterParen?_relaid after]
  · rw [calledName?_of_startsSolid hs, calledName?_of_startsSolid ht]

/-- The name behind the word of a definition and at least one blank. -/
def nameBehindBlank? : Text → Option Text
  | c :: rest => if isBlank c then calledName? (trimStart rest) else none
  | [] => none

/-- A definition is the keyword and a name behind a blank. -/
lemma definedName?_eq (p : Place) :
    definedName? p = (p.afterLead? "def".toList).bind nameBehindBlank? := by
  rw [definedName?]
  cases p.afterLead? "def".toList with
  | none => rfl
  | some t => cases t <;> rfl

/-- Behind blanks the name is looked for in what is left without them. -/
lemma nameBehindBlank?_of_isBlanks {u : Text} (blanks : IsBlanks u) (ne : u ≠ []) (t : Text) :
    nameBehindBlank? (u ++ t) = calledName? (trimStart t) := by
  cases u with
  | nil => exact absurd rfl ne
  | cons c u =>
    obtain ⟨blank, blanks⟩ := isBlanks_cons.1 blanks
    rw [List.cons_append, nameBehindBlank?, if_pos blank, trimStart_append blanks]

/-- The blanks in front of a name may be others. -/
lemma nameBehindBlank?_relaid (h : Relaid s t) : nameBehindBlank? s = nameBehindBlank? t := by
  have ends : ∀ u : Text, IsBlanks u → nameBehindBlank? u = none := by
    intro u hu
    cases u with
    | nil => rfl
    | cons c u =>
      have e := nameBehindBlank?_of_isBlanks hu (by simp) []
      rwa [List.append_nil] at e
  cases h with
  | ends hs ht => rw [ends s hs, ends t ht]
  | keep c h => rw [nameBehindBlank?, nameBehindBlank?, calledName?_relaid h.trimStart]
  | gap hu hv nu nv h =>
    rw [nameBehindBlank?_of_isBlanks hu (List.ne_nil_of_mem nu),
      nameBehindBlank?_of_isBlanks hv (List.ne_nil_of_mem nv), calledName?_relaid h.trimStart]

/-- A definition does not depend on the layout. -/
lemma blind_definedName? : Blind definedName? where
  same := by
    intro p q h
    have solid : Text.IsSolid "def".toList := by decide
    have rel := h.afterLead? solid
    rw [definedName?_eq, definedName?_eq]
    generalize p.afterLead? "def".toList = a at rel
    generalize q.afterLead? "def".toList = b at rel
    cases rel with
    | none => rfl
    | some rel => exact nameBehindBlank?_relaid rel
  solid := by
    intro p hp
    rw [definedName?_eq, Place.afterLead?_of_not_isSolid (by decide) (by decide) hp]
    rfl

/-- The first definition does not depend on the layout. -/
lemma firstDefinedName?_relaid (h : RelaidText s t) :
    firstDefinedName? s = firstDefinedName? t :=
  h.findSome?_places blind_definedName?

/-- The name of a function has no blanks. -/
lemma solid_of_calledName? (h : calledName? t = some name) : name.IsSolid := by
  cases t with
  | nil => cases h
  | cons c rest =>
    rw [calledName?] at h
    split at h
    · next hc =>
      cases h
      rw [Bool.and_eq_true] at hc
      refine List.forall_mem_cons.2 ⟨?_, ?_⟩
      · exact isBlank_eq_false (fun _ blank => isFunctionStart_of_isBlank blank) hc.1
      · intro d mem
        exact isBlank_eq_false (fun _ blank => isWordChar_of_isBlank blank)
          (List.all_eq_true.1 List.all_takeWhile d mem)
    · cases h

/-- The first name that is defined has no blanks. -/
lemma solid_of_firstDefinedName? (h : firstDefinedName? t = some name) :
    name.IsSolid := by
  obtain ⟨p, _, found⟩ := List.exists_of_findSome?_eq_some h
  rw [definedName?_eq] at found
  obtain ⟨rest, _, found⟩ := Option.bind_eq_some_iff.1 found
  cases rest with
  | nil => cases found
  | cons c rest =>
    rw [nameBehindBlank?] at found
    split at found
    · exact solid_of_calledName? found
    · cases found

/-- A call does not depend on the layout. -/
lemma blindTest_isCallOf (solid : name.IsSolid) : BlindTest (isCallOf name) := by
  have solid' : Text.IsSolid (name ++ ['(']) := by
    intro c mem
    rcases List.mem_append.1 mem with mem | mem
    · exact solid c mem
    · rw [List.mem_singleton.1 mem]
      decide
  constructor
  · intro p q h
    exact isSome_eq_of_rel (h.afterLead? solid')
  · intro p hp
    rw [isCallOf, Place.afterLead?_of_not_isSolid (by simp) solid' hp]
    rfl

section Heads

variable {before after : Option Char} {u v : Text}

/-- Blanks have no word `in`. -/
lemma afterLoopTarget?_of_isBlanks (blanks : IsBlanks u) : afterLoopTarget? before u = none := by
  induction u generalizing before with
  | nil => rfl
  | cons c u ih =>
    obtain ⟨blank, blanks⟩ := isBlanks_cons.1 blanks
    have here := Place.isSolid_of_isBlank blank before u
    rw [afterLoopTarget?, Place.afterWord?_of_not_isSolid (by decide) (by decide) here]
    dsimp only
    split
    · rfl
    · exact ih blanks

/-- A loop target ends on its line. -/
lemma afterLoopTarget?_of_mem (blanks : IsBlanks u) (feed : '\n' ∈ u) (t : Text) :
    afterLoopTarget? before (u ++ t) = none := by
  induction u generalizing before with
  | nil => cases feed
  | cons c u ih =>
    obtain ⟨blank, blanks⟩ := isBlanks_cons.1 blanks
    have here := Place.isSolid_of_isBlank blank before (u ++ t)
    rw [List.cons_append, afterLoopTarget?,
      Place.afterWord?_of_not_isSolid (by decide) (by decide) here]
    rcases List.mem_cons.1 feed with rfl | feed
    · rfl
    · dsimp only
      split
      · rfl
      · exact ih blanks feed

/-- What follows the target of a loop is laid out anew with the text. -/
lemma afterLoopTarget?_relaid (h : Relaid s t)
    (touch : before.any isWordChar = after.any isWordChar) :
    Option.Rel Relaid (afterLoopTarget? before s) (afterLoopTarget? after t) := by
  induction h generalizing before after with
  | ends hu hv =>
    rw [afterLoopTarget?_of_isBlanks hu, afterLoopTarget?_of_isBlanks hv]
    exact .none
  | @keep s t c h ih =>
    have place : Place.Relaid ⟨before, c :: s⟩ ⟨after, c :: t⟩ := ⟨touch, .keep c h⟩
    have solid : Text.IsSolid "in".toList := by decide
    have rel := place.afterWord? solid
    rw [afterLoopTarget?, afterLoopTarget?]
    generalize Place.afterWord? ⟨before, c :: s⟩ "in".toList = a at rel
    generalize Place.afterWord? ⟨after, c :: t⟩ "in".toList = b at rel
    cases rel with
    | some rel => exact .some rel
    | none =>
      dsimp only
      split
      · exact .none
      · exact ih rfl
  | gap hu hv nu nv =>
    rw [afterLoopTarget?_of_mem hu nu, afterLoopTarget?_of_mem hv nv]
    exact .none

/-- What follows the head of a loop is laid out anew with the text. -/
lemma afterLoopHead?_relaid (h : Place.Relaid p q) :
    Option.Rel Relaid (afterLoopHead? p) (afterLoopHead? q) := by
  have solid : Text.IsSolid "for".toList := by decide
  have rel := h.afterLead? solid
  rw [afterLoopHead?, afterLoopHead?]
  generalize p.afterLead? "for".toList = a at rel
  generalize q.afterLead? "for".toList = b at rel
  cases rel with
  | none => exact .none
  | some rel =>
    rw [Option.bind_some, Option.bind_some, rel.beginsInWord]
    split
    · exact .none
    · exact afterLoopTarget?_relaid rel rfl

/-- No head begins at a blank or at the end. -/
lemma afterLoopHead?_of_not_isSolid (h : p.isSolid = false) : afterLoopHead? p = none := by
  rw [afterLoopHead?, Place.afterLead?_of_not_isSolid (by decide) (by decide) h]
  rfl

/-- A head is taken out. -/
lemma withoutLoopHeads_head {rest : Text} (h : afterLoopHead? ⟨before, t⟩ = some rest) :
    withoutLoopHeads before t = withoutLoopHeads (some 'n') rest := by
  rw [withoutLoopHeads]
  split
  · next rest' e =>
    rw [h] at e
    cases e
    rfl
  · next e =>
    rw [h] at e
    cases e

/-- Where no head begins the character stays. -/
lemma withoutLoopHeads_cons {c : Char} (h : afterLoopHead? ⟨before, c :: t⟩ = none) :
    withoutLoopHeads before (c :: t) = c :: withoutLoopHeads (some c) t := by
  rw [withoutLoopHeads]
  split
  · next rest e =>
    rw [h] at e
    cases e
  · rfl

/-- Nothing is left of nothing. -/
lemma withoutLoopHeads_nil : withoutLoopHeads before [] = [] := by
  rw [withoutLoopHeads]
  split
  · next rest e =>
    rw [afterLoopHead?_of_not_isSolid rfl] at e
    cases e
  · rfl

/-- Blanks are kept. -/
lemma withoutLoopHeads_append (blanks : IsBlanks u) (t : Text) :
    withoutLoopHeads before (u ++ t) = u ++ withoutLoopHeads (u.getLast?.or before) t := by
  induction u generalizing before with
  | nil => rfl
  | cons c u ih =>
    obtain ⟨blank, blanks⟩ := isBlanks_cons.1 blanks
    have here := Place.isSolid_of_isBlank blank before (u ++ t)
    rw [List.cons_append, withoutLoopHeads_cons (afterLoopHead?_of_not_isSolid here), ih blanks,
      getLast?_cons_or, List.cons_append]

/-- Behind the blanks the text goes on as behind no word. -/
lemma exists_withoutLoopHeads_append (blanks : IsBlanks u) (ne : u ≠ [] ∨ before.any isWordChar = false)
    (t : Text) : ∃ last : Option Char, last.any isWordChar = false ∧
      withoutLoopHeads before (u ++ t) = u ++ withoutLoopHeads last t :=
  ⟨_, any_getLast?_or blanks ne, withoutLoopHeads_append blanks t⟩

/-- Blanks stay. -/
lemma withoutLoopHeads_of_isBlanks (blanks : IsBlanks u) : withoutLoopHeads before u = u := by
  have kept : withoutLoopHeads before (u ++ []) = _ := withoutLoopHeads_append blanks []
  rwa [List.append_nil, withoutLoopHeads_nil, List.append_nil] at kept

/-- Without their heads of loops, texts that are laid out anew still are. The induction is on the
length, since a head that is taken out takes more than one character with it. -/
theorem withoutLoopHeads_relaid (h : Relaid s t)
    (touch : before.any isWordChar = after.any isWordChar) :
    Relaid (withoutLoopHeads before s) (withoutLoopHeads after t) := by
  induction len : s.length using Nat.strongRecOn generalizing s t before after with
  | ind n ih =>
    have place : Place.Relaid ⟨before, s⟩ ⟨after, t⟩ := ⟨touch, h⟩
    have rel := afterLoopHead?_relaid place
    -- a head begins both texts or neither
    cases hs : afterLoopHead? ⟨before, s⟩ with
    | some rest =>
      cases ht : afterLoopHead? ⟨after, t⟩ with
      | none =>
        rw [hs, ht] at rel
        cases rel
      | some rest' =>
        rw [hs, ht] at rel
        cases rel with
        | some rel =>
          have shorter := afterLoopHead?_length hs
          rw [withoutLoopHeads_head hs, withoutLoopHeads_head ht]
          exact ih rest.length (by simpa [len] using shorter) rel rfl rfl
    | none =>
      have ht : afterLoopHead? ⟨after, t⟩ = none := by
        rw [hs] at rel
        cases e : afterLoopHead? ⟨after, t⟩ with
        | none => rfl
        | some rest =>
          rw [e] at rel
          cases rel
      cases h with
      | ends hu hv =>
        rw [withoutLoopHeads_of_isBlanks hu, withoutLoopHeads_of_isBlanks hv]
        exact .ends hu hv
      | @keep s t c h =>
        rw [withoutLoopHeads_cons hs, withoutLoopHeads_cons ht]
        exact .keep c (ih s.length (by simp [← len]) h rfl rfl)
      | @gap u v s t hu hv nu nv h =>
        have hne := List.ne_nil_of_mem nu
        obtain ⟨last, hl, e⟩ := exists_withoutLoopHeads_append hu (.inl hne) s
        obtain ⟨last', hl', e'⟩ :=
          exists_withoutLoopHeads_append hv (.inl (List.ne_nil_of_mem nv)) t
        have shorter : s.length < n := by
          have := List.length_pos_iff.2 hne
          simp only [List.length_append] at len
          omega
        rw [e, e']
        exact .gap hu hv nu nv (ih s.length shorter h (hl.trans hl'.symm) rfl)

end Heads

/-- A test for membership does not depend on the layout. -/
lemma blindTest_isMembership : BlindTest isMembership where
  same := by
    intro p q h
    have solid : Text.IsSolid "in".toList := by decide
    have rel := h.afterWord? solid
    rw [isMembership, isMembership]
    generalize p.afterWord? "in".toList = a at rel
    generalize q.afterWord? "in".toList = b at rel
    cases rel with
    | none => rfl
    | some rel =>
      dsimp only
      rw [rel.trimStart.isPrefixOf (by decide)]
  solid := by
    intro p hp
    rw [isMembership, Place.afterWord?_of_not_isSolid (by decide) (by decide) hp]

/-- Whether there is a test for membership does not depend on the layout. -/
lemma hasMembership_relaid (h : RelaidText s t) : hasMembership s = hasMembership t := by
  cases h with
  | @intro u v s t hu hv h =>
    have out : (none : Option Char).any isWordChar = false := rfl
    obtain ⟨last, hl, e⟩ := exists_withoutLoopHeads_append hu (.inr out) s
    obtain ⟨last', hl', e'⟩ := exists_withoutLoopHeads_append hv (.inr out) t
    have rel := withoutLoopHeads_relaid h (hl.trans hl'.symm)
    have text := RelaidText.intro hu hv rel
    rw [hasMembership, hasMembership, e, e', text.any_places blindTest_isMembership]

end Pattern

namespace Snippet

variable [PatternBuilder] {t name : Text}

/-- The calls of the function that is defined are counted. -/
lemma selfCalls_of_some (named : (ofText t).functionName = some name) :
    (ofText t).selfCalls = Pattern.countCalls name t := by
  have found : Pattern.firstDefinedName? t = some name := named
  simp only [ofText, found]

/-- Where no function is defined no calls are counted. -/
lemma selfCalls_of_none (unnamed : (ofText t).functionName = none) : (ofText t).selfCalls = 0 := by
  have found : Pattern.firstDefinedName? t = none := unnamed
  simp only [ofText, found]

end Snippet

end SnippetCost
