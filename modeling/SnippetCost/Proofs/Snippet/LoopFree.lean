import SnippetCost.Proofs.Nesting.Line
import SnippetCost.Proofs.Text.Place
import SnippetCost.Snippet.Consistent

/-!
# Snippets without loops

Two tests say where the keyword of a loop ends. The scan of lines asks for a character that can stand
in no name, the search for keywords for one that is no word character. They differ on characters such
as combining marks, joiners and connectors: behind a keyword these open a loop for the scan, and the
search sees no keyword. Up to such lines a snippet without the keywords of loops is constant.

Where the search sees no keyword the scan sees a loop exactly on the lines that open unseen,
`opensLoop_eq_opensUnseenLoop`; the estimate follows by `deciding_eq`. The main result is
`loopDepth_eq_zero_iff_of_noKeyword`.
-/

namespace SnippetCost

namespace Text

variable {line t : Text} {keyword : String}

/-- A line is a loop header if it opens with one of the keywords. -/
lemma isLoopHeader_eq (t : Text) :
    isLoopHeader t = loopKeywords.any fun keyword => opensWith keyword.toList t := by
  rw [loopKeywords, List.any_cons, List.any_cons, List.any_nil, Bool.or_false, isLoopHeader]

/-- A line that opens unseen with a keyword opens with it. -/
lemma opensWith_of_opensUnseen {keyword : Text} (h : opensUnseen keyword t) :
    opensWith keyword t := by
  rw [opensUnseen] at h
  rw [opensWith]
  split at h
  · next c rest found =>
    rw [Bool.and_eq_true] at h
    rw [found]
    exact h.2
  · cases h

/-- Where a keyword ends for the scan and not for the search, the scan alone sees it. -/
lemma opensUnseen_of_opensWith {keyword rest : Text} (found : dropLead? keyword t = some rest)
    (h : opensWith keyword t) {c : Char} (head : c ∈ rest.head?) (word : isWordChar c) :
    opensUnseen keyword t := by
  obtain ⟨behind, rfl⟩ := List.head?_eq_some_iff.1 head
  rw [opensWith, found] at h
  rw [opensUnseen, found]
  exact Bool.and_eq_true_iff.2 ⟨word, h⟩

/-- A loop whose keyword the search does not see is one for the scan. -/
lemma opensLoop_of_opensUnseenLoop (h : opensUnseenLoop line) : opensLoop line := by
  obtain ⟨keyword, mem, unseen⟩ := List.any_eq_true.1 h
  rw [opensLoop, isLoopHeader_eq]
  exact List.any_eq_true.2 ⟨keyword, mem, opensWith_of_opensUnseen unseen⟩

/-- A line of a text without the keywords of loops opens no loop that the search could see. -/
lemma opensUnseenLoop_of_opensLoop (none : mentions loopKeywords t = false)
    (mem : line ∈ cutLines t) (h : opensLoop line) : opensUnseenLoop line := by
  rw [opensLoop, isLoopHeader_eq] at h
  obtain ⟨keyword, listed, opens⟩ := List.any_eq_true.1 h
  refine List.any_eq_true.2 ⟨keyword, listed, ?_⟩
  obtain ⟨rest, found⟩ : ∃ rest, dropLead? keyword.toList (trimStart line) = some rest := by
    rw [opensWith] at opens
    split at opens
    · next rest found => exact ⟨rest, found⟩
    · cases opens
  by_cases seen : ∃ c ∈ rest.head?, isWordChar c
  · obtain ⟨c, head, word⟩ := seen
    exact opensUnseen_of_opensWith found opens head word
  -- otherwise the keyword is a whole word of the text, between the line's indentation and its end
  · obtain ⟨u, v, et, left, right⟩ := exists_append_of_mem_cutLines mem
    obtain ⟨w, blanks, ew⟩ := exists_append_trimStart line
    rw [dropLead?_eq_some.1 found] at ew
    have place : t = u ++ w ++ (keyword.toList ++ (rest ++ v)) := by
      rw [et, ew]
      simp
    have feed : isWordChar '\n' = false := isWordChar_of_isBlank (by decide)
    have before : ∀ c ∈ (u ++ w).getLast?, isWordChar c = false := by
      intro c last
      rw [List.getLast?_append] at last
      rcases Option.or_eq_some_iff.1 last with hw | ⟨-, hu⟩
      · exact isWordChar_of_isBlank (blanks c (List.mem_of_getLast? hw))
      · rw [left c hu, feed]
    have behind : ∀ c ∈ (rest ++ v).head?, isWordChar c = false := by
      intro c head
      rw [List.head?_append] at head
      rcases Option.or_eq_some_iff.1 head with hr | ⟨-, hv⟩
      · simpa using fun word => seen ⟨c, hr, word⟩
      · rw [right c hv, feed]
    rw [place, mentions_append listed before behind] at none
    cases none

/-- In a text without the keywords of loops, the lines that open one are those where the search does
not see it. -/
lemma opensLoop_eq_opensUnseenLoop (none : mentions loopKeywords t = false)
    (mem : line ∈ cutLines t) : opensLoop line = opensUnseenLoop line := by
  rw [Bool.eq_iff_iff]
  exact ⟨opensUnseenLoop_of_opensLoop none mem, opensLoop_of_opensUnseenLoop⟩

end Text

namespace NestingScan

/-- A line leaves the deepest depth at zero exactly if it opens no loop. -/
lemma feed_deepest_eq_zero {s : NestingScan} {line : Text} :
    (s.feed line).deepest = 0 ↔ s.deepest = 0 ∧ Text.opensLoop line = false := by
  cases opens : Text.opensLoop line with
  | true =>
    rw [feed_header (Text.isSignificant_of_opensLoop opens) opens, openAt_deepest]
    simp
  | false =>
    cases sig : Text.isSignificant line with
    | true =>
      rw [feed_plain sig opens, closeWhile_deepest]
      simp
    | false =>
      rw [feed_insignificant sig]
      simp

/-- Lines leave the deepest depth at zero exactly if none of them opens a loop. -/
lemma feedAll_deepest_eq_zero {s : NestingScan} {lines : List Text} :
    (s.feedAll lines).deepest = 0 ↔
      s.deepest = 0 ∧ ∀ line ∈ lines, Text.opensLoop line = false := by
  induction lines generalizing s with
  | nil => simp
  | cons line lines ih =>
    rw [feedAll_cons, ih, feed_deepest_eq_zero, List.forall_mem_cons, and_assoc]

end NestingScan

/-- Nothing is nested where no line opens a loop. -/
lemma loopDepth_eq_zero {t : Text} :
    loopDepth t = 0 ↔ ∀ line ∈ Text.cutLines t, Text.opensLoop line = false := by
  rw [loopDepth_eq_cutLines, loopDepthOfLines, NestingScan.feedAll_deepest_eq_zero]
  simp [NestingScan.start]

/-- A snippet in which only its depth can speak of loops: it has no keyword of a loop, sorts nothing,
and calls its own function at most once, the definition included. -/
structure Snippet.IsLoopFree (s : Snippet) : Prop where
  noKeyword : s.hasLoopKeyword = false
  noSort : Pattern.hasSortCall s.text = false
  calls : s.selfCalls < 2

namespace Snippet.IsLoopFree

variable {s : Snippet}

/-- None of the rules that come before those on depth recognises the snippet. -/
lemma recognises_early (h : s.IsLoopFree) {r : Rule}
    (early : r ∈ [Rule.iterativeBinarySearch, .exponentialRecursion, .divideAndConquer,
      .recursiveBinarySearch, .builtinSort]) : r.recognises s = false := by
  have calls := h.calls
  cases r with
  | iterativeBinarySearch =>
    have noWhile : Text.mentions ["while"] s.text = false := by
      cases found : Text.mentions ["while"] s.text with
      | false => rfl
      | true =>
        have more : s.hasLoopKeyword := Text.mentions_mono (by simp) found
        rw [h.noKeyword] at more
        cases more
    simp [Rule.recognises, noWhile]
  | exponentialRecursion | divideAndConquer | recursiveBinarySearch =>
    simp only [Rule.recognises, Bool.and_eq_false_iff, decide_eq_false_iff_not]
    omega
  | builtinSort => exact h.noSort
  | membershipInLoop | nestingDepth | noLoops | fallback => simp at early

/-- The depth decides which of the rules that are left recognises the snippet first. -/
lemma deciding_eq (h : s.IsLoopFree) :
    Rule.deciding s =
      if s.depth = 0 then .noLoops
      else if s.hasMembership then .membershipInLoop else .nestingDepth := by
  have ordered : Rule.ordered =
      [.iterativeBinarySearch, .exponentialRecursion, .divideAndConquer, .recursiveBinarySearch,
        .builtinSort] ++ [.membershipInLoop, .nestingDepth, .noLoops] := rfl
  have early : [Rule.iterativeBinarySearch, .exponentialRecursion, .divideAndConquer,
      .recursiveBinarySearch, .builtinSort].find? (Rule.recognises s) = none := by
    rw [List.find?_eq_none]
    intro r mem
    simp [h.recognises_early mem]
  rw [Rule.deciding, ordered, List.find?_append, early, Option.none_or]
  split
  · next depth => simp [Rule.recognises, depth, h.noKeyword]
  · next depth =>
    have nested : 1 ≤ s.depth := Nat.one_le_iff_ne_zero.2 depth
    split
    · next membership => simp [Rule.recognises, nested, membership]
    · next membership => simp [Rule.recognises, nested, membership]

/-- The estimate of a snippet without loops is constant exactly if nothing is nested. -/
lemma ofSnippet_eq (h : s.IsLoopFree) :
    Estimate.ofSnippet s = ⟨.constant, .noLoops, 0⟩ ↔ s.depth = 0 := by
  constructor
  · intro e
    exact congrArg Estimate.depth e
  · intro depth
    simp only [Estimate.ofSnippet, h.deciding_eq, depth, if_pos, Rule.verdict]

end Snippet.IsLoopFree

/-- A text without the keywords of loops is nested to no depth, and estimated as constant if it sorts
nothing and does not call itself, exactly when none of its lines opens a loop that the search for
keywords does not see. -/
theorem loopDepth_eq_zero_iff_of_noKeyword [PatternBuilder] (t : Text)
    (noKeyword : (Snippet.ofText t).hasLoopKeyword = false) :
    (loopDepth t = 0 ↔ ∀ line ∈ Text.cutLines t, Text.opensUnseenLoop line = false) ∧
      (Pattern.hasSortCall t = false → (Snippet.ofText t).selfCalls < 2 →
        (Estimate.ofText t = ⟨.constant, .noLoops, 0⟩ ↔
          ∀ line ∈ Text.cutLines t, Text.opensUnseenLoop line = false)) := by
  have depth : loopDepth t = 0 ↔ ∀ line ∈ Text.cutLines t, Text.opensUnseenLoop line = false := by
    rw [loopDepth_eq_zero]
    refine forall₂_congr fun line mem => ?_
    rw [Text.opensLoop_eq_opensUnseenLoop noKeyword mem]
  refine ⟨depth, fun noSort calls => ?_⟩
  have free : (Snippet.ofText t).IsLoopFree := ⟨noKeyword, noSort, calls⟩
  rw [← depth]
  exact free.ofSnippet_eq

/-- A name that only begins like the keyword of a loop. -/
theorem loopDepth_eq_zero_iff_of_noKeyword_longerName :
    (Snippet.ofText "while_count = 3
format(x)".toList).hasLoopKeyword = false ∧
      loopDepth "while_count = 3
format(x)".toList = 0 ∧
      Estimate.ofText "while_count = 3
format(x)".toList = ⟨.constant, .noLoops, 0⟩ := by
  have noKeyword : (Snippet.ofText "while_count = 3
format(x)".toList).hasLoopKeyword = false := by
    decide +kernel
  obtain ⟨depth, estimate⟩ := loopDepth_eq_zero_iff_of_noKeyword _ noKeyword
  have seen : ∀ line ∈ Text.cutLines "while_count = 3
format(x)".toList,
      Text.opensUnseenLoop line = false := by decide +kernel
  exact ⟨noKeyword, depth.2 seen, (estimate (by decide +kernel) (by decide +kernel)).2 seen⟩

/-- A name with a connector behind the letters of a keyword holds no keyword of a loop, and the
snippet still counts as a loop. -/
theorem ofText_connectorBehindKeyword :
    (Snippet.ofText "while‿count = 3".toList).hasLoopKeyword = false ∧
      Pattern.hasSortCall "while‿count = 3".toList = false ∧
      (Snippet.ofText "while‿count = 3".toList).selfCalls < 2 ∧
      loopDepth "while‿count = 3".toList ≠ 0 ∧
      Estimate.ofText "while‿count = 3".toList ≠ ⟨.constant, .noLoops, 0⟩ := by
  decide +kernel

end SnippetCost
