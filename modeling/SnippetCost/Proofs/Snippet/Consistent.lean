import SnippetCost.Proofs.Snippet.LoopHead
import SnippetCost.Snippet.Consistent

/-!
# Estimates are consistent

The class, the rule and the depth of an estimate say the same of a snippet. Part of this is what the
deciding rule itself asks for; the rest is what the rules before it did not find: that nothing is
nested where there are no loops, and that a snippet left to the fallback has a loop all the same.

`recognises_of_deciding` says what the deciding rule found, `depth_eq_zero_of_deciding` and its
siblings what the rules before it did not. The main result is `isConsistent_ofText`, one field for
each rule.
-/

namespace SnippetCost

open Text (IsBlanks mentions)

variable {t : Text} {s : Snippet}

/-- A text mentions a word exactly if the word stands in it as a whole word. -/
lemma Text.mentions_iff {words : List String} :
    mentions words t ↔ ∃ word ∈ words, Nonempty (WholeWord word.toList t) := by
  constructor
  · intro found
    obtain ⟨p, place, found⟩ := List.any_eq_true.1 found
    obtain ⟨word, mem, stands⟩ := List.any_eq_true.1 found
    obtain ⟨before, behind, split⟩ := List.append_of_mem place
    obtain ⟨front, rest, cut, rfl, -⟩ := exists_append_of_placesFrom split
    rw [Option.or_none] at stands
    obtain ⟨back, after⟩ := Option.isSome_iff_exists.1 stands
    obtain ⟨w, -, -⟩ := (WholeWord.afterWord?_eq_some cut).1 after
    exact ⟨word, mem, ⟨w⟩⟩
  · rintro ⟨word, mem, ⟨w⟩⟩
    rw [w.text_eq]
    exact mentions_append mem (any_isWordChar_eq_false.1 w.begins_word)
      (any_isWordChar_eq_false.1 w.ends_word)

/-- The search for keywords finds one exactly if one stands in the text as a whole word. -/
lemma Snippet.hasLoopKeyword_iff [PatternBuilder] : (ofText t).hasLoopKeyword ↔ HasLoopKeyword t := by
  have text : (ofText t).text = t := rfl
  rw [hasLoopKeyword, text, Text.mentions_iff]
  simp only [List.mem_cons, List.not_mem_nil, or_false, exists_eq_or_imp, exists_eq_left,
    HasLoopKeyword]

namespace Pattern

/-- A division by two is a slash and the digit, with blanks between them. -/
lemma exists_of_isHalving {p : Place} (h : isHalving p) :
    ∃ gap back : Text, IsBlanks gap ∧ p.after = '/' :: (gap ++ '2' :: back) := by
  rw [isHalving] at h
  split at h
  · next rest slash =>
    obtain ⟨back, digit⟩ := List.head?_eq_some_iff.1 (of_decide_eq_true h)
    obtain ⟨gap, blanks, e⟩ := Text.exists_append_trimStart rest
    exact ⟨gap, back, blanks, by rw [slash, ← digit, ← e]⟩
  · cases h

/-- Where a division by two is found the text has one. -/
lemma dividesByTwo_of_hasHalving (h : hasHalving t) : DividesByTwo t := by
  obtain ⟨p, place, halving⟩ := List.any_eq_true.1 h
  obtain ⟨before, behind, split⟩ := List.append_of_mem place
  obtain ⟨front, rest, cut, rfl, -⟩ := Text.exists_append_of_placesFrom split
  obtain ⟨gap, back, blanks, slash⟩ := exists_of_isHalving halving
  exact ⟨front, gap, back, blanks, by rw [cut, ← slash]⟩

end Pattern

namespace Growth

/-- No depth of loops stands for exponential growth. -/
lemma ofLoopDepth_ne_exponential (n : Nat) : ofLoopDepth n ≠ exponential := by
  intro h
  rcases n with _ | _ | _ | n <;> cases h

/-- Only a depth of three and more stands for cubic growth. -/
lemma le_of_ofLoopDepth {n : Nat} (h : ofLoopDepth n = cubic) : 3 ≤ n := by
  rcases n with _ | _ | _ | n
  case succ.succ.succ => exact Nat.le_add_left 3 n
  all_goals cases h

end Growth

namespace Rule

/-- The rules that are asked before a rule. -/
def earlier (r : Rule) : List Rule :=
  all.takeWhile (· ≠ r)

/-- The deciding rule is the first that recognises a snippet. -/
lemma find?_all (s : Snippet) : all.find? (recognises s) = some (deciding s) := by
  rw [all, List.find?_append, deciding]
  cases ordered.find? (recognises s) <;> rfl

/-- The deciding rule recognises the snippet, and none that is asked before it does. -/
lemma recognises_of_deciding {r : Rule} (h : deciding s = r) :
    r.recognises s ∧ ∀ q ∈ r.earlier, q.recognises s = false := by
  have found := find?_all s
  rw [h] at found
  obtain ⟨recognised, before, behind, split, none⟩ := List.find?_eq_some_iff_append.1 found
  refine ⟨recognised, fun q mem => ?_⟩
  have apart : ∀ q ∈ before, decide (q ≠ r) = true := by
    intro q first
    rw [decide_eq_true_iff]
    rintro rfl
    have missed := none _ first
    rw [recognised] at missed
    cases missed
  rw [earlier, split, List.takeWhile_append_of_pos apart, List.takeWhile_cons_of_neg (by simp),
    List.append_nil] at mem
  simpa using none q mem

/-- Nothing is nested in a snippet that the rule on depth has not recognised. -/
lemma depth_eq_zero_of_deciding {r : Rule} (h : deciding s = r) (later : nestingDepth ∈ r.earlier) :
    s.depth = 0 := by
  have missed := (recognises_of_deciding h).2 nestingDepth later
  simpa [recognises] using missed

/-- Only the rule for recursion calls a snippet exponential. -/
lemma eq_exponentialRecursion_of_verdict {r : Rule} (h : r.verdict s = .exponential) :
    r = exponentialRecursion := by
  cases r with
  | exponentialRecursion => rfl
  | nestingDepth => exact absurd h (Growth.ofLoopDepth_ne_exponential s.depth)
  | iterativeBinarySearch | divideAndConquer | recursiveBinarySearch | builtinSort
    | membershipInLoop | noLoops | fallback => cases h

/-- Only the rule for nesting calls a snippet cubic, at a depth of three and more. -/
lemma eq_nestingDepth_of_verdict {r : Rule} (h : r.verdict s = .cubic) :
    r = nestingDepth ∧ 3 ≤ s.depth := by
  cases r with
  | nestingDepth => exact ⟨rfl, Growth.le_of_ofLoopDepth h⟩
  | iterativeBinarySearch | exponentialRecursion | divideAndConquer | recursiveBinarySearch
    | builtinSort | membershipInLoop | noLoops | fallback => cases h

end Rule

namespace Estimate

/-- The class of an estimate is the verdict of its rule. -/
lemma growth_eq_of_deciding [PatternBuilder] {r : Rule} (rule : (ofText t).rule = r) :
    (ofText t).growth = r.verdict (Snippet.ofText t) :=
  congrArg (Rule.verdict (Snippet.ofText t)) rule

/-- Every estimate is consistent, whichever rule decides it. -/
theorem isConsistent_ofText [PatternBuilder] (t : Text) : (ofText t).IsConsistent t where
  depth := rfl
  nestingDepth := by
    intro rule
    have nested := (Rule.recognises_of_deciding rule).1
    exact ⟨of_decide_eq_true nested, growth_eq_of_deciding rule⟩
  membershipInLoop := by
    intro rule
    have tests := (Rule.recognises_of_deciding rule).1
    rw [Rule.recognises, Bool.and_eq_true] at tests
    exact ⟨of_decide_eq_true tests.1, growth_eq_of_deciding rule⟩
  noLoops := by
    intro rule
    have noKeyword := (Rule.recognises_of_deciding rule).1
    refine ⟨Rule.depth_eq_zero_of_deciding rule (by decide), growth_eq_of_deciding rule, ?_⟩
    rw [Rule.recognises, Bool.not_eq_true', ← Bool.not_eq_true] at noKeyword
    rwa [← Snippet.hasLoopKeyword_iff]
  fallback := by
    intro rule
    -- the last rule before the fallback looks for snippets without loops
    have keyword := (Rule.recognises_of_deciding rule).2 .noLoops (by decide)
    refine ⟨Rule.depth_eq_zero_of_deciding rule (by decide), growth_eq_of_deciding rule, ?_⟩
    rw [Rule.recognises, Bool.not_eq_false'] at keyword
    exact Snippet.hasLoopKeyword_iff.1 keyword
  binarySearch := by
    rintro (rule | rule)
    all_goals
      have halves := (Rule.recognises_of_deciding rule).1
      rw [Rule.recognises, Bool.and_eq_true] at halves
      exact ⟨growth_eq_of_deciding rule, Pattern.dividesByTwo_of_hasHalving halves.2⟩
  exponentialRecursion := by
    intro rule
    have calls := (Rule.recognises_of_deciding rule).1
    rw [Rule.recognises, Bool.and_eq_true] at calls
    exact ⟨growth_eq_of_deciding rule, of_decide_eq_true calls.1⟩
  divideAndConquer := by
    intro rule
    have calls := (Rule.recognises_of_deciding rule).1
    rw [Rule.recognises, Bool.and_eq_true] at calls
    exact ⟨growth_eq_of_deciding rule, of_decide_eq_true calls.1⟩
  builtinSort := by
    intro rule
    exact ⟨growth_eq_of_deciding rule, (Rule.recognises_of_deciding rule).1⟩
  exponential := Rule.eq_exponentialRecursion_of_verdict
  cubic := Rule.eq_nestingDepth_of_verdict

end Estimate

end SnippetCost
