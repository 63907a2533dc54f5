import SnippetCost.Proofs.Snippet.Relaid
import SnippetCost.Proofs.Text.Place
import SnippetCost.Snippet.LoopHead

/-!
# The heads of loops that a search takes out

The search for a head finds it exactly where one stands, and the heads that are taken out one after
the other are the leftmost ones. Taking them out neither joins nor cuts a word, since a head begins
and ends with one.

A whole word is found by `afterWord?_eq_some`, a target by `afterLoopTarget?_eq_some`, and the main
results say that a head is found exactly where one stands, `afterLoopHead?_eq_some`, and that every
text has the heads that are taken out, `exists_areLeftmost`.
-/

namespace SnippetCost

open Text

/-- The characters of `in` are word characters. -/
lemma isWordChar_of_mem_in : ∀ c ∈ "in".toList, isWordChar c :=
  List.all_eq_true.1 (by decide)

/-- The characters of `for` are word characters. -/
lemma isWordChar_of_mem_for : ∀ c ∈ "for".toList, isWordChar c :=
  List.all_eq_true.1 (by decide)

namespace WholeWord

variable {word more t front s rest : Text}

/-- A whole word is known by where it begins. -/
lemma eq_of_start {w v : WholeWord word t} (start : w.start = v.start) : w = v := by
  obtain ⟨front, behind⟩ := List.append_inj (w.text_eq.symm.trans v.text_eq) start
  have back := List.append_cancel_left behind
  cases w
  cases v
  cases front
  cases back
  rfl

/-- A word ends within the text. -/
lemma stop_le (w : WholeWord word t) : w.stop ≤ t.length := by
  have length := congrArg List.length w.text_eq
  rw [List.length_append, List.length_append] at length
  rw [stop]
  omega

/-- A word begins within the text. -/
lemma start_le (w : WholeWord word t) : w.start ≤ t.length :=
  Nat.le_trans (Nat.le_add_right _ _) w.stop_le

/-- A text is what stands up to the end of a word and what stands behind. -/
lemma text_eq_behind (w : WholeWord word t) : t = w.front ++ word ++ w.back := by
  rw [List.append_assoc]
  exact w.text_eq

/-- What stands up to the end of a word is as long as where the word ends. -/
lemma length_behind (w : WholeWord word t) : (w.front ++ word).length = w.stop :=
  List.length_append

/-- From its start on stands a word and what is behind it. -/
lemma drop_start (w : WholeWord word t) : t.drop w.start = word ++ w.back :=
  (congrArg (List.drop w.start) w.text_eq).trans (List.drop_left' rfl)

/-- From its end on stands what is behind a word. -/
lemma drop_stop (w : WholeWord word t) : t.drop w.stop = w.back := by
  rw [stop, ← List.drop_drop]
  exact (congrArg (List.drop word.length) w.drop_start).trans (List.drop_left' rfl)

/-- No whole word begins within a word. -/
lemma stop_le_start (w : WholeWord word t) (v : WholeWord more t) (inner : ∀ c ∈ word, isWordChar c)
    (lt : w.start < v.start) : w.stop ≤ v.start := by
  refine Nat.le_of_not_lt fun inside => ?_
  have cut := w.text_eq.symm.trans v.text_eq
  rw [start, start] at lt
  rw [start, stop] at inside
  rcases List.append_eq_append_iff.1 cut with ⟨a, front_eq, behind⟩ | ⟨a, front_eq, -⟩
  · have ne : a ≠ [] := by
      rintro rfl
      simp [front_eq] at lt
    -- the last character before `v` is one of `word`
    have mem : a.getLast ne ∈ word := by
      rcases List.append_eq_append_iff.1 behind with ⟨b, rfl, -⟩ | ⟨b, rfl, -⟩
      · rw [front_eq, List.length_append, List.length_append] at inside
        omega
      · exact List.mem_append_left _ (List.getLast_mem ne)
    have ends := v.begins_word
    rw [front_eq, endsInWord, List.getLast?_append, List.getLast?_eq_some_getLast ne] at ends
    have touches := inner _ mem
    rw [show isWordChar (a.getLast ne) = false from ends] at touches
    cases touches
  · rw [front_eq, List.length_append] at lt
    omega

/-- Where a word starts tells what stands in front of it. -/
lemma front_eq_of_start (w : WholeWord word t) (cut : t = front ++ s) (start : w.start = front.length) :
    w.front = front :=
  (List.append_inj (w.text_eq.symm.trans cut) start).1

/-- What stands between a place and a word is the gap in front of the word. -/
lemma eq_of_front_eq {gap : Text} (w : WholeWord word t) (cut : t = front ++ s)
    (front_eq : w.front = front ++ gap) : s = gap ++ (word ++ w.back) := by
  have text_eq := w.text_eq
  rw [front_eq, List.append_assoc] at text_eq
  exact List.append_cancel_left (cut.symm.trans text_eq)

/-- A search at a place finds the whole word that begins there. -/
lemma afterWord?_eq_some (cut : t = front ++ s) :
    Place.afterWord? ⟨front.getLast?, s⟩ word = some rest ↔
      ∃ w : WholeWord word t, w.front = front ∧ w.back = rest := by
  rw [Place.afterWord?_eq_some]
  constructor
  · rintro ⟨begins, rfl, ends⟩
    exact ⟨⟨front, rest, cut, begins, ends⟩, rfl, rfl⟩
  · rintro ⟨w, rfl, rfl⟩
    exact ⟨w.begins_word, List.append_cancel_left (cut.symm.trans w.text_eq), w.ends_word⟩

/-- Where no word is found none starts. -/
lemma start_ne_of_afterWord? (cut : t = front ++ s)
    (none : Place.afterWord? ⟨front.getLast?, s⟩ word = none) (w : WholeWord word t) :
    w.start ≠ front.length := by
  intro start
  rw [(afterWord?_eq_some cut).2 ⟨w, w.front_eq_of_start cut start, rfl⟩] at none
  cases none

/-- Where no word begins, the character there comes before the word that is next. -/
lemma exists_cons_of_front_eq {gap : Text} (w : WholeWord word t) (cut : t = front ++ c :: s)
    (ne : w.start ≠ front.length) (front_eq : w.front = front ++ gap) :
    ∃ behind, gap = c :: behind := by
  cases gap with
  | nil =>
    rw [List.append_nil] at front_eq
    exact absurd (congrArg List.length front_eq) ne
  | cons d behind =>
    obtain ⟨rfl, -⟩ := List.cons.inj (w.eq_of_front_eq cut front_eq)
    exact ⟨behind, rfl⟩

end WholeWord

namespace Pattern

section Search

variable {t front s rest : Text}

/-- The search for the end of a head finds the first whole word `in`, if nothing that ends the line
or the head comes before it. -/
lemma afterLoopTarget?_eq_some (cut : t = front ++ s) :
    afterLoopTarget? front.getLast? s = some rest ↔
      ∃ (w : WholeWord "in".toList t) (target : Text), w.front = front ++ target ∧ w.back = rest ∧
        (∀ c ∈ target, c ≠ '\n' ∧ c ≠ ':') ∧
        ∀ v : WholeWord "in".toList t, front.length ≤ v.start → w.start ≤ v.start := by
  induction s generalizing front with
  | nil =>
    constructor
    · intro found
      cases found
    · rintro ⟨w, target, front_eq, -⟩
      have empty := w.eq_of_front_eq cut front_eq
      simp at empty
  | cons c s ih =>
    rw [afterLoopTarget?]
    -- the word stands here, or the character is the first of the target
    cases found : Place.afterWord? ⟨front.getLast?, c :: s⟩ "in".toList with
    | some after =>
      obtain ⟨w, rfl, rfl⟩ := (WholeWord.afterWord?_eq_some cut).1 found
      constructor
      · rintro ⟨⟩
        exact ⟨w, [], (List.append_nil _).symm, rfl, List.forall_mem_nil _, fun _ le => le⟩
      · rintro ⟨v, target, front_eq, rfl, -, first⟩
        have le : w.start ≤ v.start := by
          rw [WholeWord.start, WholeWord.start, front_eq, List.length_append]
          exact Nat.le_add_right _ _
        rw [WholeWord.eq_of_start (Nat.le_antisymm le (first w (Nat.le_refl _)))]
    | none =>
      have noWord := WholeWord.start_ne_of_afterWord? cut found
      dsimp only
      split
      · next stops =>
        constructor
        · intro found
          cases found
        · rintro ⟨w, target, front_eq, -, line, -⟩
          obtain ⟨behind, rfl⟩ := w.exists_cons_of_front_eq cut (noWord w) front_eq
          obtain ⟨feed, colon⟩ := line c (.head _)
          simp [feed, colon] at stops
      · next goes =>
        have cut' : t = front ++ [c] ++ s := by rw [cut, List.append_assoc, List.singleton_append]
        have further := ih cut'
        rw [List.getLast?_concat] at further
        rw [further]
        constructor
        · rintro ⟨w, target, front_eq, back, line, first⟩
          refine ⟨w, c :: target, ?_, back, ?_, fun v le => first v ?_⟩
          · rw [front_eq, List.append_assoc, List.singleton_append]
          · simp only [Bool.or_eq_true, decide_eq_true_eq, not_or] at goes
            exact List.forall_mem_cons.2 ⟨goes, line⟩
          · have ne := noWord v
            rw [List.length_append, List.length_singleton]
            omega
        · rintro ⟨w, target, front_eq, back, line, first⟩
          obtain ⟨behind, rfl⟩ := w.exists_cons_of_front_eq cut (noWord w) front_eq
          refine ⟨w, behind, ?_, back, (List.forall_mem_cons.1 line).2, fun v le => first v ?_⟩
          · rw [front_eq, List.append_assoc, List.singleton_append]
          · rw [List.length_append] at le
            omega

/-- A head is a whole word `for` and a target behind it. -/
lemma afterLoopHead?_eq (p : Place) :
    afterLoopHead? p = (p.afterWord? "for".toList).bind (afterLoopTarget? (some 'r')) := by
  rw [afterLoopHead?, Place.afterWord?]
  cases p.afterLead? "for".toList with
  | none => rfl
  | some rest => cases word : beginsInWord rest <;> simp [Option.filter, word]

/-- Behind the word `for`, the search for the end of a head finds that of the head that the word
begins. -/
lemma afterLoopTarget?_behind (keyword : WholeWord "for".toList t) :
    afterLoopTarget? (some 'r') keyword.back = some rest ↔
      ∃ h : LoopHead t, h.keyword = keyword ∧ h.closing.back = rest := by
  have last : (keyword.front ++ "for".toList).getLast? = some 'r' := by
    rw [List.getLast?_append]
    rfl
  have found : _ = some rest ↔ _ := afterLoopTarget?_eq_some keyword.text_eq_behind
  rw [last, keyword.length_behind] at found
  rw [found]
  constructor
  · rintro ⟨closing, target, front_eq, rfl, line, first⟩
    rw [List.append_assoc] at front_eq
    exact ⟨⟨keyword, target, closing, front_eq, line,
      fun v lt => first v (keyword.stop_le_start v isWordChar_of_mem_for lt)⟩, rfl, rfl⟩
  · rintro ⟨h, rfl, rfl⟩
    refine ⟨h.closing, h.target, ?_, rfl, h.same_line, fun v le => h.first v ?_⟩
    · rw [h.front_eq, List.append_assoc]
    · exact Nat.lt_of_lt_of_le (Nat.lt_add_of_pos_right (by decide)) le

/-- The search for a head at a place finds the head that stands there. -/
lemma afterLoopHead?_eq_some (cut : t = front ++ s) :
    afterLoopHead? ⟨front.getLast?, s⟩ = some rest ↔
      ∃ h : LoopHead t, h.keyword.front = front ∧ h.closing.back = rest := by
  rw [afterLoopHead?_eq, Option.bind_eq_some_iff]
  constructor
  · rintro ⟨mid, word, target⟩
    obtain ⟨keyword, rfl, rfl⟩ := (WholeWord.afterWord?_eq_some cut).1 word
    obtain ⟨h, rfl, back⟩ := (afterLoopTarget?_behind keyword).1 target
    exact ⟨h, rfl, back⟩
  · rintro ⟨h, front_eq, back⟩
    exact ⟨h.keyword.back, (WholeWord.afterWord?_eq_some cut).2 ⟨h.keyword, front_eq, rfl⟩,
      (afterLoopTarget?_behind h.keyword).2 ⟨h, rfl, back⟩⟩

/-- Where no head is found none starts. -/
lemma start_ne_of_afterLoopHead? (cut : t = front ++ s)
    (none : afterLoopHead? ⟨front.getLast?, s⟩ = none) (h : LoopHead t) :
    h.start ≠ front.length := by
  intro start
  rw [(afterLoopHead?_eq_some cut).2 ⟨h, h.keyword.front_eq_of_start cut start, rfl⟩] at none
  cases none

end Search

end Pattern

namespace LoopHead

variable {t : Text} {n : Nat} {heads : List (LoopHead t)}

/-- A head starts before the word that closes it. -/
lemma start_lt_closing (h : LoopHead t) : h.start < h.closing.start := by
  rw [WholeWord.start, h.front_eq, List.length_append, List.length_append]
  exact Nat.lt_add_of_pos_right (Nat.add_pos_left (by decide) _)

/-- A head starts before it ends. -/
lemma start_lt_stop (h : LoopHead t) : h.start < h.stop :=
  Nat.lt_of_lt_of_le h.start_lt_closing (Nat.le_add_right _ _)

/-- Heads that start at one place are the same. -/
lemma eq_of_start {h e : LoopHead t} (start : h.start = e.start) : h = e := by
  have closing : h.closing = e.closing := by
    refine WholeWord.eq_of_start (Nat.le_antisymm (h.first e.closing ?_) (e.first h.closing ?_))
    · exact Nat.lt_of_le_of_lt (Nat.le_of_eq start) e.start_lt_closing
    · exact Nat.lt_of_le_of_lt (Nat.le_of_eq start.symm) h.start_lt_closing
  have keyword : h.keyword = e.keyword := WholeWord.eq_of_start start
  have front_eq := h.front_eq
  rw [closing, e.front_eq, keyword] at front_eq
  have target := List.append_cancel_left (List.append_cancel_left front_eq)
  cases h
  cases e
  cases keyword
  cases closing
  cases target
  rfl

/-- A word that a head follows has the keyword behind it, with blanks between. -/
lemma Follows.isPrefix_trimStart {word : Text} {h : LoopHead t} {w : WholeWord word t}
    (follows : h.Follows w) : "for".toList <+: trimStart w.back := by
  obtain ⟨gap, blanks, front_eq⟩ := follows
  rw [← List.append_assoc] at front_eq
  rw [h.keyword.eq_of_front_eq w.text_eq_behind front_eq, trimStart_append blanks]
  have solid : isBlank 'f' = false := by decide
  exact ⟨h.keyword.back, (trimStart_cons_of_not_isBlank solid).symm⟩

/-- The only whole word `in` of a head is its last. -/
lemma eq_closing (h : LoopHead t) {w : WholeWord "in".toList t} (lt : h.start < w.start)
    (within : w.start < h.stop) : w = h.closing := by
  have le := h.first w lt
  refine WholeWord.eq_of_start (Nat.le_antisymm (Nat.le_of_not_lt fun behind => ?_) le)
  have stop := h.closing.stop_le_start w isWordChar_of_mem_in behind
  exact Nat.lt_irrefl _ (Nat.lt_of_lt_of_le within stop)

/-- No head starts where a word `in` does. -/
lemma start_ne (h : LoopHead t) (w : WholeWord "in".toList t) : h.start ≠ w.start := by
  intro start
  obtain ⟨-, behind⟩ := List.append_inj (h.keyword.text_eq.symm.trans w.text_eq) start
  have head : 'f' = 'i' := Option.some.inj (congrArg List.head? behind)
  cases head

/-- A word `in` behind the start of a head stands behind the head, unless it closes it. -/
lemma stop_le_of_ne (h : LoopHead t) {w : WholeWord "in".toList t} (le : h.start ≤ w.start)
    (ne : w ≠ h.closing) : h.stop ≤ w.start := by
  have lt := Nat.lt_of_le_of_ne le (h.start_ne w)
  exact Nat.le_of_not_lt fun within => ne (h.eq_closing lt within)

/-- Where no head begins, the search for the leftmost heads goes on one place further. -/
lemma areLeftmost_succ (none : ∀ e : LoopHead t, e.start ≠ n) :
    AreLeftmost (n + 1) heads ↔ AreLeftmost n heads := by
  have next : ∀ e : LoopHead t, n + 1 ≤ e.start ↔ n ≤ e.start := by
    intro e
    have ne := none e
    omega
  cases heads with
  | nil =>
    simp only [AreLeftmost, ← Nat.not_le, next]
  | cons h hs => simp only [AreLeftmost, next]

/-- A head at the place where the search goes on is the first of the leftmost. -/
lemma AreLeftmost.head (leftmost : AreLeftmost n heads) (h : LoopHead t) (start : h.start = n) :
    ∃ hs, heads = h :: hs ∧ AreLeftmost h.stop hs := by
  cases heads with
  | nil => exact absurd start (Nat.ne_of_lt (leftmost h))
  | cons e hs =>
    obtain ⟨le, first, behind⟩ := leftmost
    have upper : e.start ≤ h.start := first h (Nat.le_of_eq start.symm)
    obtain rfl := eq_of_start (Nat.le_antisymm upper (Nat.le_trans (Nat.le_of_eq start) le))
    exact ⟨hs, rfl, behind⟩

/-- The leftmost heads from a place on stand behind the place. -/
lemma AreLeftmost.le_start (leftmost : AreLeftmost n heads) : ∀ h ∈ heads, n ≤ h.start := by
  induction heads generalizing n with
  | nil => exact List.forall_mem_nil _
  | cons h hs ih =>
    obtain ⟨le, -, behind⟩ := leftmost
    refine List.forall_mem_cons.2 ⟨le, fun e mem => ?_⟩
    exact Nat.le_trans le (Nat.le_trans (Nat.le_of_lt h.start_lt_stop) (ih behind e mem))

/-- Every text has leftmost heads from any place on. -/
lemma exists_areLeftmost (t : Text) (n : Nat) : ∃ heads : List (LoopHead t), AreLeftmost n heads := by
  induction left : t.length + 1 - n using Nat.strongRecOn generalizing n with
  | ind left' ih =>
    by_cases here : ∃ e : LoopHead t, e.start = n
    · obtain ⟨e, rfl⟩ := here
      have lt := e.start_lt_stop
      have le : e.stop ≤ t.length := e.closing.stop_le
      obtain ⟨hs, leftmost⟩ := ih _ (by omega) e.stop rfl
      exact ⟨e :: hs, Nat.le_refl _, fun _ le => le, leftmost⟩
    · have none : ∀ e : LoopHead t, e.start ≠ n := fun e start => here ⟨e, start⟩
      by_cases behind : t.length < n
      · refine ⟨[], fun e => ?_⟩
        have lt := e.start_lt_stop
        have le : e.stop ≤ t.length := e.closing.stop_le
        omega
      · obtain ⟨heads, leftmost⟩ := ih _ (by omega) (n + 1) rfl
        exact ⟨heads, (areLeftmost_succ none).1 leftmost⟩

end LoopHead

end SnippetCost
