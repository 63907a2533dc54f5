import SnippetCost.Nesting.Layout
import SnippetCost.Proofs.Nesting.Lockstep
import SnippetCost.Proofs.Snippet.Relaid
import SnippetCost.Snippet.Estimate

/-!
# Estimates under another layout

An estimate depends on the layout of a text only through the order of the columns of its lines. Blanks
at the edges of lines may come and go, whatever blanks they are.

`SameLayout.relaidText` and `SameLayout.ordered` say what the same layout leaves alike; from the one
the patterns agree, from the other `SameLayout.loopDepth`. The main result is
`Estimate.ofText_of_sameLayout`.
-/

namespace SnippetCost

open Text

/-- A blank is its own lower case. -/
lemma lowerChar_of_isBlank {c : Char} (h : isBlank c) : lowerChar c = [c] := by
  have same := not_of_isBlank (p := fun c => decide (lowerChar c ≠ [c])) (by decide) h
  simpa using same

/-- Blanks are their own lower case. -/
lemma lower_of_isBlanks {u : Text} (blanks : IsBlanks u) : lower u = u := by
  induction u with
  | nil => rfl
  | cons c u ih =>
    obtain ⟨blank, blanks⟩ := isBlanks_cons.1 blanks
    rw [lower, List.flatMap_cons, lowerChar_of_isBlank blank, ← lower, ih blanks]
    rfl

/-- Lower case goes character by character. -/
lemma lower_append (s t : Text) : lower (s ++ t) = lower s ++ lower t :=
  List.flatMap_append

/-- Texts that are laid out anew are so in lower case. -/
lemma Relaid.lower {s t : Text} (h : Relaid s t) : Relaid (Text.lower s) (Text.lower t) := by
  induction h with
  | ends hu hv =>
    rw [lower_of_isBlanks hu, lower_of_isBlanks hv]
    exact .ends hu hv
  | keep c _ ih => exact .append_left (lowerChar c) ih
  | gap hu hv nu nv _ ih =>
    rw [lower_append, lower_append, lower_of_isBlanks hu, lower_of_isBlanks hv]
    exact .gap hu hv nu nv ih

/-- A text is included if one of the places begins with it. -/
lemma includes_eq_any_placesFrom (before : Option Char) (needle t : Text) :
    includes needle t = (placesFrom before t).any fun p => needle.isPrefixOf p.after := by
  induction t generalizing before with
  | nil => cases needle <;> rfl
  | cons c t ih => rw [includes, placesFrom, List.any_cons, ih]

/-- Whether the small letters of a word stand in a text does not depend on its layout. -/
lemma RelaidText.includes_lower {s t needle : Text} (h : RelaidText s t) (ne : needle ≠ [])
    (solid : needle.IsSolid) :
    includes needle (lower s) = includes needle (lower t) := by
  have blind : BlindTest fun p => needle.isPrefixOf p.after := by
    constructor
    · intro p q rel
      exact rel.after.isPrefixOf solid
    · intro p hp
      have noLead := Place.dropLead?_of_not_isSolid ne solid hp
      rw [Bool.eq_false_iff, ne_eq, List.isPrefixOf_iff_prefix]
      rintro ⟨rest, e⟩
      rw [dropLead?_eq_some.2 e.symm] at noLead
      cases noLead
  cases h with
  | @intro u v s t hu hv h =>
    have text : RelaidText (lower (u ++ s)) (lower (v ++ t)) := by
      rw [lower_append, lower_append, lower_of_isBlanks hu, lower_of_isBlanks hv]
      exact .intro hu hv h.lower
    rw [includes_eq_any_placesFrom none, includes_eq_any_placesFrom none]
    exact text.any_places blind

/-- Lines that say the same join to texts that are laid out anew. -/
lemma relaidText_joinLines {ls ms : List Text} (same : ls.map trim = ms.map trim) :
    RelaidText (joinLines ls) (joinLines ms) := by
  induction ls generalizing ms with
  | nil =>
    cases ms with
    | nil => exact .intro .nil .nil (.ends .nil .nil)
    | cons m ms => cases same
  | cons l ls ih =>
    cases ms with
    | nil => cases same
    | cons m ms =>
      obtain ⟨first, rest⟩ := List.cons.inj same
      obtain ⟨u, v, hu, hv, el⟩ := exists_append_trim l
      obtain ⟨u', v', hu', hv', em⟩ := exists_append_trim m
      rw [← first] at em
      by_cases e : ls = []
      · subst e
        have e' : ms = [] := List.map_eq_nil_iff.1 rest.symm
        subst e'
        rw [joinLines_singleton, joinLines_singleton, el, em]
        exact .intro hu hu' (.append_left (trim l) (.ends hv hv'))
      · have e' : ms ≠ [] := by
          rintro rfl
          exact e (List.map_eq_nil_iff.1 rest)
        have feed : isBlank '\n' := by decide
        rw [joinLines_cons l e, joinLines_cons m e', el, em]
        -- the blanks at the end of the line, its line feed and the indentation of the next line
        -- are one gap
        obtain ⟨w, w', s, t, hw, hw', es, et, h⟩ := (ih rest).exists_eq
        rw [es, et]
        have gap : Relaid ((v ++ '\n' :: w) ++ s) ((v' ++ '\n' :: w') ++ t) :=
          .gap (isBlanks_append.2 ⟨hv, isBlanks_cons.2 ⟨feed, hw⟩⟩)
            (isBlanks_append.2 ⟨hv', isBlanks_cons.2 ⟨feed, hw'⟩⟩) (by simp) (by simp) h
        have text := RelaidText.intro hu hu' (gap.append_left (trim l))
        simpa only [List.append_assoc, List.cons_append] using text

namespace SameLayout

variable {s t : Text}

/-- Texts of the same layout are laid out anew. -/
lemma relaidText (h : SameLayout s t) : RelaidText s t := by
  have rel := relaidText_joinLines h.trim_eq
  rwa [joinLines_cutLines, joinLines_cutLines] at rel

/-- The columns of lines of the same layout are ordered alike. -/
lemma ordered (h : SameLayout s t) : LinePairs.Ordered ((cutLines s).zip (cutLines t)) where
  trim_eq := by
    have same := h.trim_eq
    generalize cutLines s = ls at same
    generalize cutLines t = ms at same
    induction ls generalizing ms with
    | nil =>
      intro a ha
      cases ha
    | cons l ls ih =>
      cases ms with
      | nil => cases same
      | cons m ms =>
        obtain ⟨first, rest⟩ := List.cons.inj same
        exact List.forall_mem_cons.2 ⟨first, ih ms rest⟩
  column_lt_iff := h.column_lt_iff

/-- The depth of loops depends on the layout only. -/
lemma loopDepth (h : SameLayout s t) : SnippetCost.loopDepth s = SnippetCost.loopDepth t := by
  have len : (cutLines s).length = (cutLines t).length := by
    have e := congrArg List.length h.trim_eq
    rwa [List.length_map, List.length_map] at e
  have depth := h.ordered.loopDepthOfLines
  rw [List.map_fst_zip (Nat.le_of_eq len), List.map_snd_zip (Nat.le_of_eq len.symm)] at depth
  rw [loopDepth_eq_cutLines, loopDepth_eq_cutLines, depth]

section Rules

variable [PatternBuilder]

/-- The first name that is defined does not depend on the blanks at the edges of lines. -/
lemma functionName (h : SameLayout s t) :
    (Snippet.ofText s).functionName = (Snippet.ofText t).functionName :=
  Pattern.firstDefinedName?_relaid h.relaidText

/-- The count of calls does not depend on the blanks at the edges of lines. -/
lemma selfCalls (h : SameLayout s t) :
    (Snippet.ofText s).selfCalls = (Snippet.ofText t).selfCalls := by
  have same := h.functionName
  cases name : (Snippet.ofText s).functionName with
  | none =>
    rw [Snippet.selfCalls_of_none name, Snippet.selfCalls_of_none (same.symm.trans name)]
  | some name' =>
    have calls := h.relaidText.countP_places
      (Pattern.blindTest_isCallOf (Pattern.solid_of_firstDefinedName? name))
    rw [Snippet.selfCalls_of_some name, Snippet.selfCalls_of_some (same.symm.trans name),
      Pattern.countCalls, Pattern.countCalls, Pattern.callsIn, Pattern.callsIn, calls]

/-- Whether a rule recognises a snippet depends on the layout only. -/
lemma recognises (h : SameLayout s t) (r : Rule) :
    r.recognises (Snippet.ofText s) = r.recognises (Snippet.ofText t) := by
  have text := h.relaidText
  have calls := h.selfCalls
  have depth : (Snippet.ofText s).depth = (Snippet.ofText t).depth := h.loopDepth
  have halving : Pattern.hasHalving s = Pattern.hasHalving t :=
    text.any_places Pattern.blindTest_isHalving
  have mentions : ∀ {words : List String}, AreSolid words →
      Text.mentions words s = Text.mentions words t := text.mentions
  have talks : ∀ word : String, word.toList ≠ [] → Text.IsSolid word.toList →
      (Snippet.ofText s).talksOf word = (Snippet.ofText t).talksOf word := by
    intro word ne solid
    exact text.includes_lower ne solid
  cases r with
  | iterativeBinarySearch =>
    simp only [Rule.recognises, Snippet.ofText]
    rw [halving, mentions (by decide), mentions (by decide), mentions (by decide),
      mentions (by decide)]
  | exponentialRecursion =>
    simp only [Rule.recognises]
    rw [calls, talks "fib" (by decide) (by decide)]
  | divideAndConquer =>
    simp only [Rule.recognises]
    rw [calls, talks "merge" (by decide) (by decide), talks "partition" (by decide) (by decide)]
  | recursiveBinarySearch =>
    simp only [Rule.recognises]
    rw [calls]
    simp only [Snippet.ofText]
    rw [halving, mentions (by decide)]
  | builtinSort => exact text.any_places Pattern.blindTest_isSortCall
  | membershipInLoop =>
    have membership : (Snippet.ofText s).hasMembership = (Snippet.ofText t).hasMembership :=
      Pattern.hasMembership_relaid text
    simp only [Rule.recognises, depth, membership]
  | nestingDepth =>
    simp only [Rule.recognises]
    rw [depth]
  | noLoops =>
    have loops : (Snippet.ofText s).hasLoopKeyword = (Snippet.ofText t).hasLoopKeyword :=
      mentions (by decide)
    simp only [Rule.recognises, loops]
  | fallback => rfl

end Rules

end SameLayout

/-- The verdict of a rule depends on the depth only. -/
lemma Rule.verdict_congr {s t : Snippet} (depth : s.depth = t.depth) (r : Rule) :
    r.verdict s = r.verdict t := by
  cases r with
  | nestingDepth => exact congrArg Growth.ofLoopDepth depth
  | _ => rfl

/-- Snippets that the same rules recognise, of the same depth, have the same estimate. -/
lemma Estimate.ofSnippet_congr {s t : Snippet} (depth : s.depth = t.depth)
    (same : ∀ r : Rule, r.recognises s = r.recognises t) :
    Estimate.ofSnippet s = Estimate.ofSnippet t := by
  have deciding : Rule.deciding s = Rule.deciding t := by
    have e : Rule.recognises s = Rule.recognises t := funext same
    rw [Rule.deciding, Rule.deciding, e]
  simp only [Estimate.ofSnippet, deciding, depth, Rule.verdict_congr depth]

/-- The estimate of a text depends on its layout only through the order of its columns. -/
theorem Estimate.ofText_of_sameLayout [PatternBuilder] {s t : Text} (h : SameLayout s t) :
    Estimate.ofText s = Estimate.ofText t :=
  Estimate.ofSnippet_congr h.loopDepth h.recognises

/-- A tab and carriage returns, or spaces: the loop is the same. -/
theorem Estimate.ofText_tab_eq_spaces :
    SameLayout "for a in x:\r\n\ty = a\r\n".toList "  for a in x:\n      y = a \n".toList ∧
      Estimate.ofText "for a in x:\r\n\ty = a\r\n".toList =
        Estimate.ofText "  for a in x:\n      y = a \n".toList := by
  have same : SameLayout "for a in x:\r\n\ty = a\r\n".toList
      "  for a in x:\n      y = a \n".toList := ⟨by decide, by decide⟩
  exact ⟨same, Estimate.ofText_of_sameLayout same⟩

end SnippetCost
