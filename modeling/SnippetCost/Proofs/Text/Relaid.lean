import SnippetCost.Proofs.Text.Trim
import SnippetCost.Text.Place
import SnippetCost.Text.Lower

/-!
# Texts laid out anew

Two texts are laid out alike but for blanks if they differ in nothing but the blanks at the edges of
their lines. A search that begins at characters other than blanks, and passes over blanks only where
it passes over any number of them, finds the same in both.

The relations are `Relaid` and `RelaidText`, and a search that they leave alone is `Blind`. The main
result is `filterMap_placesFrom`, with `findSome?_places`, `countP_places` and `any_places` for what
is asked of a whole text.
-/

namespace SnippetCost

open Text

/-- Two texts from within a line on: the same characters, apart from blanks around line feeds and
blanks at the end. -/
inductive Relaid : Text → Text → Prop where
  | ends {u v} :
    IsBlanks u →
    IsBlanks v →
    Relaid u v
  | keep {s t} (c : Char) :
    Relaid s t →
    Relaid (c :: s) (c :: t)
  | gap {u v s t} :
    IsBlanks u →
    IsBlanks v →
    '\n' ∈ u →
    '\n' ∈ v →
    Relaid s t →
    Relaid (u ++ s) (v ++ t)

namespace Relaid

variable {s t w : Text} {c : Char}

/-- Which of two texts is laid out anew does not matter. -/
lemma symm (h : Relaid s t) : Relaid t s := by
  induction h with
  | ends hu hv => exact .ends hv hu
  | keep c _ ih => exact .keep c ih
  | gap hu hv nu nv _ ih => exact .gap hv hu nv nu ih

/-- The same text in front leaves texts laid out anew. -/
lemma append_left (w : Text) (h : Relaid s t) : Relaid (w ++ s) (w ++ t) := by
  induction w with
  | nil => exact h
  | cons c w ih => exact .keep c ih

/-- The one text begins with a character that is no blank only if the other does. -/
lemma cons_inv (h : Relaid (c :: s) w) (solid : isBlank c = false) :
    ∃ t, w = c :: t ∧ Relaid s t := by
  generalize e : c :: s = z at h
  cases h with
  | ends hu hv =>
    subst e
    rw [(isBlanks_cons.1 hu).1] at solid
    cases solid
  | keep d h =>
    cases e
    exact ⟨_, rfl, h⟩
  | @gap u v s t hu hv nu nv h =>
    cases u with
    | nil => cases nu
    | cons d u =>
      cases e
      rw [(isBlanks_cons.1 hu).1] at solid
      cases solid

/-- The one text begins with a word only if the other does, and what follows is laid out anew. -/
lemma append_inv {lead : Text} (h : Relaid (lead ++ s) w) (solid : lead.IsSolid) :
    ∃ t, w = lead ++ t ∧ Relaid s t := by
  induction lead generalizing w with
  | nil => exact ⟨w, rfl, h⟩
  | cons c lead ih =>
    obtain ⟨hc, solid⟩ := List.forall_mem_cons.1 solid
    obtain ⟨w', rfl, hw⟩ := h.cons_inv hc
    obtain ⟨t, rfl, ht⟩ := ih hw solid
    exact ⟨t, rfl, ht⟩

/-- Both texts begin with a word, or neither does. -/
lemma dropLead? {lead : Text} (h : Relaid s t) (solid : lead.IsSolid) :
    Option.Rel Relaid (Text.dropLead? lead s) (Text.dropLead? lead t) := by
  cases hs : Text.dropLead? lead s with
  | some s' =>
    rw [dropLead?_eq_some.1 hs] at h
    obtain ⟨t', e, h⟩ := h.append_inv solid
    rw [dropLead?_eq_some.2 e]
    exact .some h
  | none =>
    cases ht : Text.dropLead? lead t with
    | none => exact .none
    | some t' =>
      -- the relation is symmetric, so the first text begins with the word too
      rw [dropLead?_eq_some.1 ht] at h
      obtain ⟨s', e, _⟩ := h.symm.append_inv solid
      rw [dropLead?_eq_some.2 e] at hs
      cases hs

/-- Texts that are laid out anew begin with the same texts without blanks. -/
lemma isPrefixOf {lead : Text} (h : Relaid s t) (solid : lead.IsSolid) :
    lead.isPrefixOf s = lead.isPrefixOf t := by
  rw [Bool.eq_iff_iff, List.isPrefixOf_iff_prefix, List.isPrefixOf_iff_prefix]
  constructor
  · rintro ⟨s', rfl⟩
    obtain ⟨t', rfl, _⟩ := h.append_inv solid
    exact List.prefix_append lead t'
  · rintro ⟨t', rfl⟩
    obtain ⟨s', rfl, _⟩ := h.symm.append_inv solid
    exact List.prefix_append lead s'

/-- Two texts that are laid out anew begin with the same character, or neither begins with one that
is no blank. -/
lemma keep_or_blank (h : Relaid s t) :
    (∃ c s' t', s = c :: s' ∧ t = c :: t' ∧ Relaid s' t') ∨
      startsSolid s = false ∧ startsSolid t = false := by
  cases h with
  | ends hu hv => exact .inr ⟨startsSolid_of_isBlanks hu, startsSolid_of_isBlanks hv⟩
  | keep c h => exact .inl ⟨c, _, _, rfl, rfl, h⟩
  | gap hu hv nu nv _ =>
    exact .inr ⟨startsSolid_append hu (List.ne_nil_of_mem nu) _,
      startsSolid_append hv (List.ne_nil_of_mem nv) _⟩

/-- A class that holds no blanks holds the first characters of both texts, or of neither. -/
lemma head?_any {p : Char → Bool} (hp : ∀ c, isBlank c → p c = false) (h : Relaid s t) :
    s.head?.any p = t.head?.any p := by
  have blank : ∀ u : Text, startsSolid u = false → u.head?.any p = false := by
    intro u hu
    cases u with
    | nil => rfl
    | cons c u => exact hp c (isBlank_of_startsSolid hu)
  rcases h.keep_or_blank with ⟨c, s', t', rfl, rfl, _⟩ | ⟨hs, ht⟩
  · rfl
  · rw [blank s hs, blank t ht]

/-- Texts that are laid out anew are so without the blanks in front. -/
lemma trimStart (h : Relaid s t) : Relaid (Text.trimStart s) (Text.trimStart t) := by
  induction h with
  | ends hu hv =>
    rw [trimStart_of_isBlanks hu, trimStart_of_isBlanks hv]
    exact .ends .nil .nil
  | @keep s t c h ih =>
    cases blank : isBlank c with
    | true =>
      rw [trimStart_cons_of_isBlank blank, trimStart_cons_of_isBlank blank]
      exact ih
    | false =>
      rw [trimStart_cons_of_not_isBlank blank, trimStart_cons_of_not_isBlank blank]
      exact .keep c h
  | gap hu hv _ _ _ ih =>
    rw [trimStart_append hu, trimStart_append hv]
    exact ih

/-- Texts that are laid out anew begin with the same character behind blanks. -/
lemma head?_trimStart (h : Relaid s t) :
    (Text.trimStart s).head? = (Text.trimStart t).head? := by
  rcases h.trimStart.keep_or_blank with ⟨c, s', t', es, et, _⟩ | ⟨hs, ht⟩
  · rw [es, et]
    rfl
  · rw [trimStart_eq_nil hs, trimStart_eq_nil ht]

/-- A run of a class that holds no blanks is the same in both texts, and so is what follows it. -/
lemma run {p : Char → Bool} (hp : ∀ c, isBlank c → p c = false) (h : Relaid s t) :
    s.takeWhile p = t.takeWhile p ∧ Relaid (s.dropWhile p) (t.dropWhile p) := by
  -- where a blank begins both texts the run is empty, and both stay as they are
  have stops : ∀ {u v : Text}, Relaid u v → startsSolid u = false → startsSolid v = false →
      u.takeWhile p = v.takeWhile p ∧ Relaid (u.dropWhile p) (v.dropWhile p) := by
    intro u v h hu hv
    obtain ⟨tu, du⟩ := run_of_startsSolid hp hu
    obtain ⟨tv, dv⟩ := run_of_startsSolid hp hv
    rw [tu, du, tv, dv]
    exact ⟨rfl, h⟩
  induction h with
  | ends hu hv =>
    exact stops (.ends hu hv) (startsSolid_of_isBlanks hu) (startsSolid_of_isBlanks hv)
  | @keep s t c h ih =>
    by_cases hc : p c
    · rw [List.takeWhile_cons_of_pos hc, List.takeWhile_cons_of_pos hc,
        List.dropWhile_cons_of_pos hc, List.dropWhile_cons_of_pos hc, ih.1]
      exact ⟨rfl, ih.2⟩
    · rw [List.takeWhile_cons_of_neg hc, List.takeWhile_cons_of_neg hc,
        List.dropWhile_cons_of_neg hc, List.dropWhile_cons_of_neg hc]
      exact ⟨rfl, .keep c h⟩
  | gap hu hv nu nv h _ =>
    exact stops (.gap hu hv nu nv h) (startsSolid_append hu (List.ne_nil_of_mem nu) _)
      (startsSolid_append hv (List.ne_nil_of_mem nv) _)

end Relaid

/-- Two places that a search cannot tell apart: a word character stands before both or neither, and
what follows is laid out anew. -/
structure Place.Relaid (p q : Place) : Prop where
  touches : p.touchesWord = q.touchesWord
  after : SnippetCost.Relaid p.after q.after

/-- Whether a place is followed by a character that is no blank. -/
def Place.isSolid (p : Place) : Bool :=
  startsSolid p.after

/-- A place at a blank is not solid. -/
lemma Place.isSolid_of_isBlank {c : Char} (blank : isBlank c) (before : Option Char) (t : Text) :
    Place.isSolid ⟨before, c :: t⟩ = false :=
  startsSolid_cons_of_isBlank blank

/-- A question about places of a text, with what it finds there, that the layout does not matter to:
it finds something only at characters that are no blanks. -/
structure Blind {α : Type} (f : Place → Option α) : Prop where
  same : ∀ p q, Place.Relaid p q → f p = f q
  solid : ∀ p, p.isSolid = false → f p = none

namespace Blind

variable {α : Type} {f : Place → Option α} {before : Option Char} {s t u v : Text}

/-- A blind search finds nothing at a blank. -/
lemma at_isBlank (blind : Blind f) {c : Char} (blank : isBlank c) :
    f ⟨before, c :: t⟩ = none :=
  blind.solid _ (Place.isSolid_of_isBlank blank before t)

/-- Nothing is found among blanks. Behind them the search goes on as behind no word. -/
lemma exists_filterMap_append (blind : Blind f) (blanks : IsBlanks u)
    (out : before.any isWordChar = false) (t : Text) :
    ∃ last : Option Char, last.any isWordChar = false ∧
      (placesFrom before (u ++ t)).filterMap f = (placesFrom last t).filterMap f := by
  induction u generalizing before with
  | nil => exact ⟨before, out, rfl⟩
  | cons c u ih =>
    obtain ⟨blank, blanks⟩ := isBlanks_cons.1 blanks
    have out' : (some c).any isWordChar = false := isWordChar_of_isBlank blank
    obtain ⟨last, hl, e⟩ := ih blanks out'
    refine ⟨last, hl, ?_⟩
    rw [List.cons_append, placesFrom, List.filterMap_cons_none (blind.at_isBlank blank)]
    exact e

/-- A blind search finds nothing among blanks. -/
lemma filterMap_of_isBlanks (blind : Blind f) (blanks : IsBlanks u) :
    (placesFrom before u).filterMap f = [] := by
  induction u generalizing before with
  | nil => exact List.filterMap_cons_none (blind.solid _ rfl)
  | cons c u ih =>
    obtain ⟨blank, blanks⟩ := isBlanks_cons.1 blanks
    rw [placesFrom, List.filterMap_cons_none (blind.at_isBlank blank)]
    exact ih blanks

/-- A blind search finds behind blanks what it finds behind some character of no word. -/
lemma exists_filterMap_gap (blind : Blind f) (blanks : IsBlanks u) (ne : u ≠ []) (t : Text) :
    ∃ last : Option Char, last.any isWordChar = false ∧
      (placesFrom before (u ++ t)).filterMap f = (placesFrom last t).filterMap f := by
  cases u with
  | nil => exact absurd rfl ne
  | cons c u =>
    obtain ⟨blank, blanks⟩ := isBlanks_cons.1 blanks
    have out : (some c).any isWordChar = false := isWordChar_of_isBlank blank
    rw [List.cons_append, placesFrom, List.filterMap_cons_none (blind.at_isBlank blank)]
    exact blind.exists_filterMap_append blanks out t

/-- What a search finds from a place on does not depend on the layout. -/
theorem filterMap_placesFrom (blind : Blind f) (h : Relaid s t) {after : Option Char}
    (touch : before.any isWordChar = after.any isWordChar) :
    (placesFrom before s).filterMap f = (placesFrom after t).filterMap f := by
  induction h generalizing before after with
  | ends hu hv => rw [blind.filterMap_of_isBlanks hu, blind.filterMap_of_isBlanks hv]
  | @keep s t c h ih =>
    have same : f ⟨before, c :: s⟩ = f ⟨after, c :: t⟩ := by
      apply blind.same
      exact ⟨touch, .keep c h⟩
    simp only [placesFrom, List.filterMap_cons, same, ih rfl]
  | @gap u v s t hu hv nu nv h ih =>
    -- the gaps may end in other blanks, but none of them is a word character
    obtain ⟨last, hl, e⟩ := blind.exists_filterMap_gap hu (List.ne_nil_of_mem nu) s
    obtain ⟨last', hl', e'⟩ := blind.exists_filterMap_gap hv (List.ne_nil_of_mem nv) t
    rw [e, e']
    exact ih (hl.trans hl'.symm)

end Blind

/-- A question about places of a text that the layout does not matter to. -/
structure BlindTest (q : Place → Bool) : Prop where
  same : ∀ p p', Place.Relaid p p' → q p = q p'
  solid : ∀ p, p.isSolid = false → q p = false

/-- A blind test is a blind search for nothing but the place. -/
lemma BlindTest.blind {q : Place → Bool} (h : BlindTest q) :
    Blind fun p => if q p then some () else none where
  same := by
    intro p p' rel
    rw [h.same p p' rel]
  solid := by
    intro p solid
    rw [h.solid p solid]
    rfl

/-- Two whole texts that are laid out anew: the first line may be indented otherwise, too. -/
inductive RelaidText : Text → Text → Prop where
  | intro {u v s t} :
    IsBlanks u →
    IsBlanks v →
    Relaid s t →
    RelaidText (u ++ s) (v ++ t)

namespace RelaidText

variable {s t : Text}

/-- Texts that are laid out anew differ in the blanks in front, and behind them are laid out anew. -/
lemma exists_eq (h : RelaidText s t) :
    ∃ u v s' t', IsBlanks u ∧ IsBlanks v ∧ s = u ++ s' ∧ t = v ++ t' ∧ Relaid s' t' := by
  cases h with
  | intro hu hv h => exact ⟨_, _, _, _, hu, hv, rfl, rfl, h⟩

/-- A search finds the same in both texts, in the same order. -/
lemma filterMap_places {α : Type} {f : Place → Option α} (h : RelaidText s t) (blind : Blind f) :
    (places s).filterMap f = (places t).filterMap f := by
  cases h with
  | @intro u v s t hu hv h =>
    have out : (none : Option Char).any isWordChar = false := rfl
    obtain ⟨last, hl, e⟩ := blind.exists_filterMap_append hu out s
    obtain ⟨last', hl', e'⟩ := blind.exists_filterMap_append hv out t
    rw [places, places, e, e']
    exact blind.filterMap_placesFrom h (hl.trans hl'.symm)

/-- The first thing that a blind search finds does not depend on the layout. -/
lemma findSome?_places {α : Type} {f : Place → Option α} (h : RelaidText s t) (blind : Blind f) :
    (places s).findSome? f = (places t).findSome? f := by
  rw [← List.head?_filterMap, h.filterMap_places blind, List.head?_filterMap]

/-- How many places pass a blind test does not depend on the layout. -/
lemma countP_places {q : Place → Bool} (h : RelaidText s t) (blind : BlindTest q) :
    (places s).countP q = (places t).countP q := by
  have e := congrArg List.length (h.filterMap_places blind.blind)
  rw [List.length_filterMap_eq_countP, List.length_filterMap_eq_countP] at e
  have isSome : ∀ p, (if q p then some () else none).isSome = q p := by
    intro p
    cases q p <;> rfl
  simpa only [isSome] using e

/-- Whether a place passes a blind test does not depend on the layout. -/
lemma any_places {q : Place → Bool} (h : RelaidText s t) (blind : BlindTest q) :
    (places s).any q = (places t).any q := by
  have e := h.countP_places blind
  rw [Bool.eq_iff_iff, List.any_eq_true, List.any_eq_true, ← List.countP_pos_iff,
    ← List.countP_pos_iff, e]

end RelaidText

/-- No text without blanks begins at a blank or at the end. -/
lemma Place.dropLead?_of_not_isSolid {p : Place} {lead : Text} (ne : lead ≠ [])
    (solid : lead.IsSolid) (h : p.isSolid = false) :
    dropLead? lead p.after = none := by
  cases lead with
  | nil => exact absurd rfl ne
  | cons l lead =>
    have hl := solid l List.mem_cons_self
    cases e : p.after with
    | nil => rfl
    | cons c rest =>
      have ne : l ≠ c := by
        rintro rfl
        simp [Place.isSolid, startsSolid, e, hl] at h
      simp [dropLead?, ne]

section Word

variable {p q : Place} {word : Text}

/-- A word is found at both places or at neither, and what follows it is laid out anew. -/
lemma Place.Relaid.afterLead? (h : Place.Relaid p q) (solid : word.IsSolid) :
    Option.Rel SnippetCost.Relaid (p.afterLead? word) (q.afterLead? word) := by
  rw [Place.afterLead?, Place.afterLead?, h.touches]
  cases q.touchesWord with
  | true => exact .none
  | false => exact h.after.dropLead? solid

/-- Texts that are laid out anew go on with a word character or both do not. -/
lemma Relaid.beginsInWord {s t : Text} (h : Relaid s t) :
    Text.beginsInWord s = Text.beginsInWord t :=
  h.head?_any fun _ blank => isWordChar_of_isBlank blank

/-- Keeping what goes on with no word character keeps texts laid out anew. -/
lemma rel_filter_beginsInWord {a b : Option Text} (h : Option.Rel SnippetCost.Relaid a b) :
    Option.Rel SnippetCost.Relaid (a.filter fun rest => !Text.beginsInWord rest)
      (b.filter fun rest => !Text.beginsInWord rest) := by
  cases h with
  | none => exact .none
  | @some s t rel =>
    rw [Option.filter_some, Option.filter_some, rel.beginsInWord]
    split
    · exact .some rel
    · exact .none

/-- What follows a whole word is laid out anew with the text. -/
lemma Place.Relaid.afterWord? (h : Place.Relaid p q) (solid : word.IsSolid) :
    Option.Rel SnippetCost.Relaid (p.afterWord? word) (q.afterWord? word) :=
  rel_filter_beginsInWord (h.afterLead? solid)

/-- No word begins at a blank or at the end. -/
lemma Place.afterLead?_of_not_isSolid (ne : word ≠ []) (solid : word.IsSolid)
    (h : p.isSolid = false) : p.afterLead? word = none := by
  rw [Place.afterLead?, Place.dropLead?_of_not_isSolid ne solid h, ite_self]

/-- No whole word stands at a blank or at the end. -/
lemma Place.afterWord?_of_not_isSolid (ne : word ≠ []) (solid : word.IsSolid)
    (h : p.isSolid = false) : p.afterWord? word = none := by
  rw [Place.afterWord?, Place.afterLead?_of_not_isSolid ne solid h, Option.filter_none]

/-- Related options both hold something or both do not. -/
lemma isSome_eq_of_rel {α β : Type} {r : α → β → Prop} {a : Option α} {b : Option β}
    (h : Option.Rel r a b) : a.isSome = b.isSome := by
  cases h <;> rfl

end Word

/-- Whole words that are not empty and hold no blanks. -/
def AreSolid (words : List String) : Prop :=
  ∀ word ∈ words, word.toList ≠ [] ∧ Text.IsSolid word.toList

instance (words : List String) : Decidable (AreSolid words) :=
  inferInstanceAs (Decidable (∀ word ∈ words, word.toList ≠ [] ∧ Text.IsSolid word.toList))

/-- Whether a text mentions one of some words does not depend on its layout. -/
lemma RelaidText.mentions {s t : Text} (h : RelaidText s t) {words : List String}
    (solid : AreSolid words) : Text.mentions words s = Text.mentions words t := by
  apply h.any_places
  constructor
  · intro p q rel
    rw [Bool.eq_iff_iff, List.any_eq_true, List.any_eq_true]
    have same : ∀ word ∈ words, p.hasWord word.toList = q.hasWord word.toList := by
      intro word mem
      exact isSome_eq_of_rel (rel.afterWord? (solid word mem).2)
    constructor
    · rintro ⟨word, mem, found⟩
      exact ⟨word, mem, same word mem ▸ found⟩
    · rintro ⟨word, mem, found⟩
      exact ⟨word, mem, same word mem ▸ found⟩
  · intro p hp
    rw [List.any_eq_false]
    intro word mem
    rw [Place.hasWord, Place.afterWord?_of_not_isSolid (solid word mem).1 (solid word mem).2 hp]
    exact Bool.false_ne_true

end SnippetCost
