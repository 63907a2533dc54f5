import Mathlib.Tactic.Lemma
import SnippetCost.Text.Place
import SnippetCost.Proofs.Text.Trim
import SnippetCost.Proofs.Text.Lines

/-!
# Words at places of a text

A word that stands between characters of no word, or at an end of the text, is found as a whole word;
so is one at the edge of a line, since lines stand between line feeds.

The places of joined texts are `placesFrom_append`, and what a place is `mem_placesFrom`. The main
results are `mentions_append` and `exists_append_of_mem_cutLines`, for words at the edges of a line.
-/

namespace SnippetCost

/-- A word begins at a place if no word character stands before it and the text goes on with it. -/
lemma Place.afterLead?_eq_some {p : Place} {word rest : Text} :
    p.afterLead? word = some rest ↔ p.touchesWord = false ∧ p.after = word ++ rest := by
  rw [afterLead?]
  split
  · next touches => simp [touches]
  · next out => simp [out, Text.dropLead?_eq_some]

/-- A whole word stands at a place if a word begins there and no word character follows it. -/
lemma Place.afterWord?_eq_some {p : Place} {word rest : Text} :
    p.afterWord? word = some rest ↔
      p.touchesWord = false ∧ p.after = word ++ rest ∧ Text.beginsInWord rest = false := by
  rw [afterWord?, Option.filter_eq_some_iff, afterLead?_eq_some, and_assoc, Bool.not_eq_true']

namespace Text

variable {t : Text} {words more : List String}

/-- The places within a text that `v` follows. -/
def placesWithin (before : Option Char) : Text → Text → List Place
  | [], _ => []
  | c :: u, v => ⟨before, c :: (u ++ v)⟩ :: placesWithin (some c) u v

/-- There is one place at each character. -/
lemma length_placesWithin (before : Option Char) (u v : Text) :
    (placesWithin before u v).length = u.length := by
  induction u generalizing before with
  | nil => rfl
  | cons c u ih => rw [placesWithin, List.length_cons, List.length_cons, ih]

/-- The last character of a text, or the one before it, is told from the rest of the text. -/
lemma getLast?_cons_or (c : Char) (u : Text) (before : Option Char) :
    (c :: u).getLast?.or before = u.getLast?.or (some c) := by
  rw [List.getLast?_cons]
  cases u.getLast? <;> rfl

/-- A character that may be missing is no word character. -/
lemma any_isWordChar_eq_false {o : Option Char} :
    o.any isWordChar = false ↔ ∀ c ∈ o, isWordChar c = false := by
  cases o <;> simp

/-- No word begins with blanks. -/
lemma beginsInWord_append {u : Text} (blanks : IsBlanks u) (ne : u ≠ [] ∨ beginsInWord t = false) :
    beginsInWord (u ++ t) = false := by
  cases u with
  | nil => exact ne.resolve_left (· rfl)
  | cons c u => exact isWordChar_of_isBlank (isBlanks_cons.1 blanks).1

/-- No word touches what stands behind blanks. -/
lemma any_getLast?_or {u : Text} {before : Option Char} (blanks : IsBlanks u)
    (ne : u ≠ [] ∨ before.any isWordChar = false) :
    (u.getLast?.or before).any isWordChar = false := by
  cases last : u.getLast? with
  | none =>
    rcases ne with ne | out
    · exact absurd (List.getLast?_eq_none_iff.1 last) ne
    · exact out
  | some c => exact isWordChar_of_isBlank (blanks c (List.mem_of_getLast? last))

/-- The places of a text are those within its first part, and those of its second. -/
lemma placesFrom_append (before : Option Char) (u v : Text) :
    placesFrom before (u ++ v) =
      placesWithin before u v ++ placesFrom (u.getLast?.or before) v := by
  induction u generalizing before with
  | nil => rfl
  | cons c u ih =>
    rw [List.cons_append, placesFrom, ih, placesWithin, getLast?_cons_or, List.cons_append]

/-- The places within two texts are those within each. -/
lemma placesWithin_append (before : Option Char) (u v w : Text) :
    placesWithin before (u ++ v) w =
      placesWithin before u (v ++ w) ++ placesWithin (u.getLast?.or before) v w := by
  induction u generalizing before with
  | nil => rfl
  | cons c u ih =>
    rw [List.cons_append, placesWithin, ih, placesWithin, getLast?_cons_or, List.cons_append,
      List.append_assoc]

/-- The first place of a text is its start. -/
lemma exists_placesFrom_eq (before : Option Char) (t : Text) :
    ∃ ps, placesFrom before t = ⟨before, t⟩ :: ps := by
  cases t with
  | nil => exact ⟨[], rfl⟩
  | cons c t => exact ⟨_, rfl⟩

/-- A text has a place wherever it is cut in two. -/
lemma mem_placesFrom (before : Option Char) (u v : Text) :
    ⟨u.getLast?.or before, v⟩ ∈ placesFrom before (u ++ v) := by
  obtain ⟨ps, here⟩ := exists_placesFrom_eq (u.getLast?.or before) v
  rw [placesFrom_append, here]
  exact List.mem_append_right _ (.head _)

/-- A text is cut in two wherever it has a place. -/
lemma exists_append_of_placesFrom {before : Option Char} {t : Text} {front back : List Place}
    {p : Place} (h : placesFrom before t = front ++ p :: back) :
    ∃ u v, t = u ++ v ∧ p = ⟨u.getLast?.or before, v⟩ ∧ front = placesWithin before u v := by
  induction front generalizing before t with
  | nil =>
    obtain ⟨ps, here⟩ := exists_placesFrom_eq before t
    rw [here] at h
    cases h
    exact ⟨[], t, rfl, rfl, rfl⟩
  | cons q front ih =>
    cases t with
    | nil =>
      rw [placesFrom] at h
      cases front <;> cases h
    | cons c t =>
      rw [placesFrom] at h
      obtain ⟨rfl, rest⟩ := List.cons.inj h
      obtain ⟨u, v, rfl, rfl, rfl⟩ := ih rest
      exact ⟨c :: u, v, rfl, by rw [getLast?_cons_or], rfl⟩

/-- The character behind a cut within a piece of a text is one of the piece. -/
lemma exists_mem_head?_eq {u v front piece rest : Text} (e : u ++ v = front ++ (piece ++ rest))
    (le : front.length ≤ u.length) (lt : u.length < front.length + piece.length) :
    ∃ c ∈ piece, v.head? = some c := by
  have head : (u ++ v)[u.length]? = v.head? := by
    rw [List.getElem?_append_right (Nat.le_refl _), Nat.sub_self, List.head?_eq_getElem?]
  have within : u.length - front.length < piece.length := by omega
  rw [e, List.getElem?_append_right le, List.getElem?_append_left within,
    List.getElem?_eq_getElem within] at head
  exact ⟨_, List.getElem_mem within, head.symm⟩

/-- Where a text is cut further left, it has a place within its first part. -/
lemma mem_placesWithin {u v s t : Text} (cut : u ++ v = s ++ t) (lt : s.length < u.length) :
    ⟨s.getLast?, t⟩ ∈ placesWithin none u v := by
  rcases List.append_eq_append_iff.1 cut with ⟨w, rfl, rfl⟩ | ⟨w, rfl, rfl⟩
  · rw [List.length_append] at lt
    omega
  · cases w with
    | nil => simp at lt
    | cons c w =>
      rw [placesWithin_append, Option.or_none]
      exact List.mem_append_right _ (.head _)

/-- Wherever a text is cut is a place of it. -/
lemma mem_places (u v : Text) : ⟨u.getLast?, v⟩ ∈ places (u ++ v) := by
  have mem := mem_placesFrom none u v
  rwa [Option.or_none] at mem

/-- A word that no word character touches on either side is mentioned. -/
lemma mentions_append {u v : Text} {word : String} (mem : word ∈ words)
    (left : ∀ c ∈ u.getLast?, isWordChar c = false) (right : ∀ c ∈ v.head?, isWordChar c = false) :
    mentions words (u ++ (word.toList ++ v)) := by
  have before := any_isWordChar_eq_false.2 left
  have after := any_isWordChar_eq_false.2 right
  have stands : Place.hasWord ⟨u.getLast?, word.toList ++ v⟩ word.toList :=
    Option.isSome_iff_exists.2 ⟨v, Place.afterWord?_eq_some.2 ⟨before, rfl, after⟩⟩
  exact List.any_eq_true.2 ⟨_, mem_places u _, List.any_eq_true.2 ⟨word, mem, stands⟩⟩

/-- A text that mentions one of some words mentions one of more words. -/
lemma mentions_mono (sub : words ⊆ more) (h : mentions words t) : mentions more t := by
  obtain ⟨p, place, found⟩ := List.any_eq_true.1 h
  obtain ⟨word, mem, stands⟩ := List.any_eq_true.1 found
  exact List.any_eq_true.2 ⟨p, place, List.any_eq_true.2 ⟨word, sub mem, stands⟩⟩

/-- Joined lines stand between line feeds or at the ends of the text. -/
lemma exists_joinLines_eq {l : Text} {ls : List Text} (mem : l ∈ ls) :
    ∃ u v, joinLines ls = u ++ (l ++ v) ∧ (∀ c ∈ u.getLast?, c = '\n') ∧ ∀ c ∈ v.head?, c = '\n' := by
  induction ls with
  | nil => cases mem
  | cons m ls ih =>
    by_cases e : ls = []
    · subst e
      obtain rfl := List.mem_singleton.1 mem
      exact ⟨[], [], by simp, by simp, by simp⟩
    · rw [joinLines_cons m e]
      rcases List.mem_cons.1 mem with rfl | mem
      · exact ⟨[], '\n' :: joinLines ls, rfl, by simp, by simp⟩
      · obtain ⟨u, v, joined, left, right⟩ := ih mem
        refine ⟨m ++ '\n' :: u, v, by rw [joined]; simp, ?_, right⟩
        intro c last
        cases u with
        | nil => simpa using last.symm
        | cons d u =>
          apply left
          rwa [List.getLast?_append, List.getLast?_cons_cons] at last

/-- A piece stands between line feeds, or at an end of the text. -/
lemma exists_append_of_mem_cutLines {line : Text} (mem : line ∈ cutLines t) :
    ∃ u v, t = u ++ (line ++ v) ∧ (∀ c ∈ u.getLast?, c = '\n') ∧ ∀ c ∈ v.head?, c = '\n' := by
  obtain ⟨u, v, joined, edges⟩ := exists_joinLines_eq mem
  rw [joinLines_cutLines] at joined
  exact ⟨u, v, joined, edges⟩

end Text

end SnippetCost
