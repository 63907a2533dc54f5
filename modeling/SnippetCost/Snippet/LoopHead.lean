import SnippetCost.Snippet.Pattern

/-!
# Heads of loops

The head of a `for` loop goes from the whole word `for` to the first whole word `in` behind it, which
has to come on the same line and before a colon. Heads are told from left to right, each behind the one
before it. The heads are `LoopHead`, and those that are taken out of a text are told by
`LoopHead.AreLeftmost`.
-/

namespace SnippetCost

/-- A word in a text as a whole word, with what stands in front of it and behind it. -/
structure WholeWord (word t : Text) where
  front : Text
  back : Text
  text_eq : t = front ++ (word ++ back)
  begins_word : Text.endsInWord front = false
  ends_word : Text.beginsInWord back = false

namespace WholeWord

variable {word t : Text}

/-- Where the word begins. -/
def start (w : WholeWord word t) : Nat :=
  w.front.length

/-- Where the word ends. -/
def stop (w : WholeWord word t) : Nat :=
  w.front.length + word.length

end WholeWord

/-- The head of a `for` loop in a text. -/
structure LoopHead (t : Text) where
  keyword : WholeWord "for".toList t
  /-- What stands between `for` and `in`. -/
  target : Text
  closing : WholeWord "in".toList t
  front_eq : closing.front = keyword.front ++ ("for".toList ++ target)
  same_line : ∀ c ∈ target, c ≠ '\n' ∧ c ≠ ':'
  first : ∀ w : WholeWord "in".toList t, keyword.start < w.start → closing.start ≤ w.start

namespace LoopHead

variable {t word : Text}

/-- Where the head begins. -/
def start (h : LoopHead t) : Nat :=
  h.keyword.start

/-- Where the head ends. -/
def stop (h : LoopHead t) : Nat :=
  h.closing.stop

/-- Whether a head comes directly behind a word, with blanks between them or none. -/
def Follows (h : LoopHead t) (w : WholeWord word t) : Prop :=
  ∃ gap : Text, (∀ c ∈ gap, isBlank c) ∧ h.keyword.front = w.front ++ (word ++ gap)

/-- Whether these are the heads from the place `n` on, from left to right and without an overlap. -/
def AreLeftmost (n : Nat) : List (LoopHead t) → Prop
  | [] => ∀ e : LoopHead t, e.start < n
  | h :: hs =>
    n ≤ h.start ∧ (∀ e : LoopHead t, n ≤ e.start → h.start ≤ e.start) ∧ AreLeftmost h.stop hs

end LoopHead

end SnippetCost
