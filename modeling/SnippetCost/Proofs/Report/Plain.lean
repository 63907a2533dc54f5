import SnippetCost.Proofs.Report.FieldLine
import SnippetCost.Proofs.Report.Region
import SnippetCost.Proofs.Text.Lines

/-!
# Plain notation is read back

A report that can be put down in plain notation is the report that is read from the notation. Each
field is read at its line and ended by the blank line behind it, and each block between its fences.

The fields are read by `feedAll_plainFields` and the blocks by `finish_feedAll_plainBlocks`; both
together are `finish_feedAll_plain`. The main result is `read_plain`.
-/

namespace SnippetCost

open Text (lines cutLines)

namespace Rating

/-- A score out of ten is read as the score, and stands behind its label as it is. -/
lemma read?_outOfTen {n : Nat} (h : n ≤ best) :
    IsPlainValue (Text.ofNat n ++ '/' :: Text.ofNat best) ∧
      read? (Text.ofNat n ++ '/' :: Text.ofNat best) = some (UInt8.ofNat n) := by
  have all : ∀ n ≤ best, IsPlainValue (Text.ofNat n ++ '/' :: Text.ofNat best) ∧
      read? (Text.ofNat n ++ '/' :: Text.ofNat best) = some (UInt8.ofNat n) := by
    decide
  exact all n h

end Rating

/-- A line that ends in a trimmed text is the first line of the text that it begins. -/
lemma IsTrimmedLine.lines_append {u v : Text} (h : IsTrimmedLine v) (lead : '\n' ∉ u) (t : Text) :
    lines (u ++ v ++ '\n' :: t) = (u ++ v) :: lines t := by
  apply Text.lines_append (List.not_mem_append lead h.oneLine)
  rw [List.getLast?_append, List.getLast?_eq_some_getLast h.ne_nil, Option.some_or,
    ← List.getLast?_eq_some_getLast h.ne_nil]
  exact h.noReturn

namespace Reading

variable {q r : Report}

/-- The report with a field as another report has it. -/
def withField (q r : Report) : Field → Report
  | .rating => { q with rating := r.rating }
  | f => q.setText f (r.text? f)

/-- The line of a field and the blank line behind it are read as the field. -/
lemma feedAll_label {v : Text} (f : Field) (h : IsPlainValue v) (t : Text) :
    feedAll { report := q } (lines (f.label.toList ++ ": ".toList ++ v ++ "\n\n".toList ++ t)) =
      feedAll { report := (takeField { report := q } f v).report } (lines t) := by
  have label : '\n' ∉ f.label.toList ++ ": ".toList := by
    cases f <;> decide
  have shape : f.label.toList ++ ": ".toList ++ v ++ "\n\n".toList ++ t =
      f.label.toList ++ ": ".toList ++ v ++ '\n' :: ([] ++ '\n' :: t) := by
    simp
  have line : f.label.toList ++ ": ".toList ++ v = f.label.toList ++ ':' :: ' ' :: v := by
    simp
  have closed : (takeField { report := q } f v).block = none := takeField_block _ f v
  rw [shape, h.lines_append label, Text.lines_append List.not_mem_nil (by simp), feedAll,
    List.foldl_cons, List.foldl_cons, line, feed_label rfl f h, feed_blank closed, closed, feedAll]

/-- A field in plain notation is read into a report that does not have it. -/
lemma feedAll_plainField (plain : r.IsPlain) (f : Field) (noText : q.text? f = none)
    (noRating : q.rating = none) (t : Text) :
    feedAll { report := q } (lines (r.plainField f ++ t)) =
      feedAll { report := withField q r f } (lines t) := by
  rw [Report.plainField]
  by_cases text : f = .rating
  · subst text
    cases score : r.rating with
    | none =>
      have same : withField q r .rating = q := by
        rw [withField, score, ← noRating]
      simp [Report.shownText?, score, same]
    | some n =>
      obtain ⟨value, read⟩ := Rating.read?_outOfTen (plain.rating n score)
      have taken : (takeField { report := q } .rating
          (Text.ofNat n.toNat ++ '/' :: Text.ofNat Rating.best)).report = withField q r .rating := by
        rw [takeField, withField, noRating, read, score]
        simp
      have shown : r.shownText? .rating =
          some (Text.ofNat n.toNat ++ '/' :: Text.ofNat Rating.best) := by
        rw [Report.shownText?, score, Option.map_some]
      rw [shown]
      dsimp only
      rw [feedAll_label .rating value, taken]
  · have shown : r.shownText? f = r.text? f := by
      cases f with
      | rating => exact absurd rfl text
      | timeComplexity | spaceComplexity | bottleneck | optimization => rfl
    have field : withField q r f = q.setText f (r.text? f) := by
      cases f with
      | rating => exact absurd rfl text
      | timeComplexity | spaceComplexity | bottleneck | optimization => rfl
    rw [shown, field]
    cases value : r.text? f with
    | none =>
      have same : q.setText f none = q := by
        rw [← noText, Report.setText_text?]
      rw [same]
      rfl
    | some v =>
      dsimp only
      rw [feedAll_label f (plain.text f v value), takeField_of_ne text, noText]

/-- The fields in plain notation are read as the report without its blocks. -/
lemma feedAll_plainFields (plain : r.IsPlain) (t : Text) :
    feedAll {} (lines (Field.all.flatMap r.plainField ++ t)) =
      feedAll { report := { r with blocks := [] } } (lines t) := by
  simp only [Field.all, List.flatMap_cons, List.flatMap_nil, List.append_nil, List.append_assoc]
  rw [feedAll_plainField plain .timeComplexity rfl rfl,
    feedAll_plainField plain .spaceComplexity rfl rfl,
    feedAll_plainField plain .bottleneck rfl rfl, feedAll_plainField plain .optimization rfl rfl,
    feedAll_plainField plain .rating rfl rfl]
  rfl

/-- A line that begins no fence stands inside a block. -/
lemma isInside_of_noFence {line : Text} (h : ¬ fenceMark.toList <+: Text.trimStart line) :
    Region.isInside line := by
  rw [Region.isInside, fenceInfo?_eq_none.2 h, Option.isNone_none]

/-- A block with its language is what its opening fence begins. -/
lemma language_ofInfo {b : CodeBlock} (plain : b.IsPlain) :
    nonEmpty? (some (Text.trim (b.language.getD []))) = b.language := by
  cases language : b.language with
  | none => rfl
  | some l =>
    have line := plain.language l language
    rw [Option.getD_some, line.trimmed]
    exact nonEmpty?_eq_some.2 ⟨rfl, line.ne_nil⟩

/-- The lines of a block in plain notation. -/
lemma lines_plain {b : CodeBlock} (plain : b.IsPlain) (t : Text) :
    lines (b.plain ++ t) =
      (fenceMark.toList ++ b.language.getD []) :: cutLines b.code ++
        fenceMark.toList :: lines t := by
  have shape : b.plain ++ t = (fenceMark.toList ++ b.language.getD []) ++ '\n' ::
      (b.code ++ '\n' :: (fenceMark.toList ++ '\n' :: t)) := by
    simp [CodeBlock.plain]
  have opens : ∀ rest, lines (fenceMark.toList ++ b.language.getD [] ++ '\n' :: rest) =
      (fenceMark.toList ++ b.language.getD []) :: lines rest := by
    intro rest
    cases language : b.language with
    | none => exact Text.lines_append (by decide) (by decide) rest
    | some l => exact (plain.language l language).lines_append (by decide) rest
  have closes : lines (fenceMark.toList ++ '\n' :: t) = fenceMark.toList :: lines t :=
    Text.lines_append (by decide) (by decide) t
  rw [shape, opens, Text.lines_append_of_pieces plain.noReturn, closes, List.cons_append]

/-- A block in plain notation is read as the block. -/
lemma finish_feedAll_plain {b : CodeBlock} (plain : b.IsPlain) (t : Text) :
    (feedAll { report := q } (lines (b.plain ++ t))).finish =
      (feedAll { report := { q with blocks := q.blocks ++ [b] } } (lines t)).finish := by
  have opened : feedAll { report := q } (lines (b.plain ++ t)) =
      feedAll { report := q, block := some (.ofInfo (b.language.getD [])) }
        (cutLines b.code ++ fenceMark.toList :: lines t) := by
    rw [lines_plain plain]
    rfl
  have inside : ∀ line ∈ cutLines b.code, Region.isInside line := by
    intro line mem
    exact isInside_of_noFence (plain.noFence line mem)
  have outside : ¬ Region.isInside fenceMark.toList := by decide
  rw [opened, finish_feedAll_block { report := q }, List.takeWhile_append_of_pos inside,
    List.dropWhile_append_of_pos inside, List.takeWhile_cons_of_neg outside,
    List.dropWhile_cons_of_neg outside, List.append_nil, OpenBlock.close_foldl_push,
    language_ofInfo plain, Text.joinLines_cutLines]
  rfl

/-- Blocks in plain notation are read in order. -/
lemma finish_feedAll_plainBlocks {bs : List CodeBlock} (plain : ∀ b ∈ bs, b.IsPlain) :
    (feedAll { report := q } (lines (bs.flatMap CodeBlock.plain))).finish =
      dropEmpty { q with blocks := q.blocks ++ bs } := by
  induction bs generalizing q with
  | nil =>
    rw [List.append_nil]
    rfl
  | cons b bs ih =>
    obtain ⟨first, rest⟩ := List.forall_mem_cons.1 plain
    rw [List.flatMap_cons, finish_feedAll_plain first, ih rest, List.append_assoc,
      List.singleton_append]

end Reading

namespace Report

variable {r : Report}

/-- A plain report has no empty text to drop. -/
lemma dropEmpty_of_isPlain (plain : r.IsPlain) : Reading.dropEmpty r = r := by
  apply ext_text
  · intro f _
    rw [Reading.text?_dropEmpty]
    cases value : r.text? f with
    | none => rfl
    | some t => exact nonEmpty?_eq_some.2 ⟨rfl, (plain.text f t value).ne_nil⟩
  · rfl
  · rfl

/-- A report in plain notation is read as the report. -/
theorem read_plain (r : Report) (plain : r.IsPlain) : Report.read r.plain = r := by
  rw [Report.read, Report.plain, Reading.feedAll_plainFields plain,
    Reading.finish_feedAll_plainBlocks plain.block]
  exact dropEmpty_of_isPlain plain

/-- A report whose values and code look like other parts of a report. -/
def misleading : Report where
  timeComplexity := some "Space Complexity: O(1)".toList
  bottleneck := some "_- 1. # **Rating** : 3/10".toList
  rating := some 10
  blocks :=
    [⟨some "`py".toList, "Rating: 1/10\n\n## Optimization: ```none".toList⟩, ⟨none, []⟩]

/-- The report of the example is plain. -/
lemma isPlain_misleading : misleading.IsPlain where
  text := by
    intro f t h
    cases f with
    | timeComplexity | bottleneck =>
      cases h
      decide
    | spaceComplexity | optimization | rating => cases h
  rating := by
    rintro n ⟨⟩
    decide
  block := by
    intro b mem
    rw [misleading, List.mem_cons, List.mem_singleton] at mem
    rcases mem with rfl | rfl
    · refine ⟨?_, by decide, by decide⟩
      rintro l ⟨⟩
      exact ⟨by decide, by decide, by decide⟩
    · refine ⟨?_, by decide, by decide⟩
      rintro l ⟨⟩

/-- What looks like another part of a report in a value or in code is read as it stands there. -/
theorem read_plain_misleading :
    misleading.IsPlain ∧ Report.read misleading.plain = misleading :=
  ⟨isPlain_misleading, read_plain misleading isPlain_misleading⟩

end Report

end SnippetCost
