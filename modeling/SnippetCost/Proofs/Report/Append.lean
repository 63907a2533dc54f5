import SnippetCost.Proofs.Report.LineEnd
import SnippetCost.Proofs.Report.Region

/-!
# Reports one after another

A report that ends outside fences and a report behind it, a blank line between them, are read as each
is read alone: the blocks of both, the first rating, and of each field the text of the report that
holds the field first.

`fieldText?_append` and its siblings put regions together, `ofLines_append_blankLine` lines, and
`feedAll_append_blankLine` the reading of them. The main result is `read_append_blankLine`.
-/

namespace SnippetCost

variable {f : Field} {a : Text}

namespace Region

variable {region : Region} {regions others : List Region}

/-- Behind a region that ends a field nothing continues it. -/
lemma continuations_append (ends : region.continuation? = none) (regions others : List Region) :
    continuations (regions ++ region :: others) = continuations regions := by
  induction regions with
  | nil => exact continuations_of_none ends others
  | cons first regions ih => rw [List.cons_append, continuations, continuations, ih]

/-- A field has a text exactly if a region holds it. -/
lemma isSome_fieldText? (f : Field) (regions : List Region) :
    (fieldText? f regions).isSome = holds f regions := by
  induction regions with
  | nil => rfl
  | cons region regions ih =>
    rw [fieldText?, holds, List.any_cons, ← holds]
    cases region.value? f with
    | none => exact ih
    | some value => rfl

/-- Behind a region that ends the text of a field and holds none, a field gets its text only if no
region before holds it. -/
lemma fieldText?_append (ends : region.continuation? = none) (free : region.value? f = none)
    (regions others : List Region) : fieldText? f (regions ++ region :: others) =
      (fieldText? f regions).or (fieldText? f others) := by
  induction regions with
  | nil => exact fieldText?_of_none free others
  | cons first regions ih =>
    rw [List.cons_append, fieldText?, fieldText?]
    cases first.value? f with
    | none => exact ih
    | some value =>
      rw [continuations_append ends]
      rfl

/-- The first rating is that of the regions in front, if they have one. -/
lemma rating?_append (regions others : List Region) :
    rating? (regions ++ others) = (rating? regions).or (rating? others) := by
  rw [rating?, List.filterMap_append, List.findSome?_append]
  rfl

/-- The blocks of regions one behind another are those of both. -/
lemma blocks_append (regions others : List Region) :
    blocks (regions ++ others) = blocks regions ++ blocks others := by
  rw [blocks, List.filterMap_append]
  rfl

end Region

namespace Reading

open Region

variable {s : Reading} {front : List Text}

/-- Lines that end outside fences have the same regions whatever stands behind them. -/
lemma ofLines_append (outside : s.block = none) (closed : (feedAll s front).block = none)
    (behind : List Text) : ofLines (front ++ behind) = ofLines front ++ ofLines behind := by
  fun_induction ofLines front generalizing s with
  | case1 => rfl
  | case2 line lines info fence ih =>
    rw [feedAll_cons_fence outside fence, feedAll_block { s with current := none }] at closed
    rw [List.cons_append, ofLines, fence]
    dsimp only
    cases found : lines.dropWhile isInside with
    | nil =>
      rw [found] at closed
      cases closed
    | cons last rest =>
      rw [found] at closed ih
      have stops : lines.dropWhile isInside ≠ [] := by
        rw [found]
        exact List.cons_ne_nil last rest
      have left : ((lines ++ behind).dropWhile isInside).drop 1 = rest ++ behind := by
        rw [List.dropWhile_append, found]
        rfl
      rw [takeWhile_append_of_stops stops, left, List.cons_append]
      exact congrArg _ (ih rfl closed)
  | case3 line lines inside ih =>
    rw [feedAll_cons_prose outside] at closed
    have outside' : (s.feedProse line).block = none := by
      rw [feedProse_block s inside, outside]
    rw [List.cons_append, ofLines, inside]
    dsimp only
    rw [ih outside' closed, List.cons_append]

/-- A blank line behind such lines is a region that holds nothing. -/
lemma ofLines_append_blankLine (closed : (feedAll {} front).block = none) (behind : List Text) :
    ofLines (front ++ [] :: behind) = ofLines front ++ .prose [] :: ofLines behind := by
  have blank : ofLines ([] :: behind) = .prose [] :: ofLines behind := by
    rw [ofLines]
    rfl
  rw [ofLines_append rfl closed, blank]

/-- In the beginning no text is pending but what the regions tell. -/
lemma pendingText?_start (f : Field) (regions : List Region) :
    pendingText? {} f regions = fieldText? f regions := by
  cases f <;> rfl

/-- Lines behind others are read after them. -/
lemma feedAll_append (s : Reading) (front behind : List Text) :
    feedAll s (front ++ behind) = feedAll (feedAll s front) behind :=
  List.foldl_append

/-- Before a blank line outside fences the pieces between line feeds are read as the lines are: only the
last piece can keep a carriage return as a line, and that is read over. -/
lemma feedAll_pieces {pieces : List Text}
    (closed : (feedAll s (Text.linesOfPieces pieces)).block = none) :
    feedAll s (pieces.map Text.dropReturn ++ [[]]) =
      feedAll s (Text.linesOfPieces pieces ++ [[]]) := by
  rcases List.eq_nil_or_concat pieces with rfl | ⟨front, last, rfl⟩
  · rfl
  rw [List.concat_eq_append, Text.linesOfPieces_append _ (List.cons_ne_nil last []),
    feedAll_append] at closed
  rw [List.concat_eq_append, Text.linesOfPieces_append _ (List.cons_ne_nil last []),
    List.map_append, List.append_assoc, List.append_assoc, feedAll_append, feedAll_append s]
  generalize feedAll s (front.map Text.dropReturn) = s' at closed
  by_cases blank : last = []
  · -- the text ends in a line feed, and the piece behind it is a blank line, too
    subst blank
    have outside : s'.block = none := closed
    show (s'.feed []).feed [] = s'.feed []
    rw [feed_blank outside, feed_blank (s := { s' with current := none }) outside]
  · have kept : Text.linesOfPieces [last] = [last] := by
      rw [Text.linesOfPieces, if_neg (by simpa using blank)]
    rw [kept] at closed ⊢
    show (s'.feed (Text.dropReturn last)).feed [] = (s'.feed last).feed []
    rw [feed_padded closed (padded_dropReturn last)]

end Reading

namespace Report

open Text (lines cutLines)

/-- The lines of two texts with a blank line between them are read as those of the one, a blank line,
and those of the other. -/
lemma feedAll_append_blankLine (closed : endsOutside a) (b : Text) :
    Reading.feedAll {} (lines (a ++ "\n\n".toList ++ b)) =
      Reading.feedAll {} (lines a ++ [] :: lines b) := by
  have shape : a ++ "\n\n".toList ++ b = a ++ '\n' :: ([] ++ '\n' :: b) := by
    simp
  have cut : lines (a ++ "\n\n".toList ++ b) =
      (cutLines a).map Text.dropReturn ++ [[]] ++ lines b := by
    rw [shape, Text.lines_append_feed, Text.lines_append List.not_mem_nil (by simp)]
    simp
  have closed : (Reading.feedAll {} (lines a)).block = none := Option.isNone_iff_eq_none.1 closed
  rw [cut, Reading.feedAll_append, Reading.feedAll_pieces closed, ← Reading.feedAll_append,
    List.append_assoc, List.singleton_append]
  rfl

/-- Two reports one after another, the first of which ends outside fences, and a blank line between
them: the blocks are those of both in order, the rating is the first one, and each field has the text
that the first report gives it if a line of it holds the field, even with an empty value. -/
theorem read_append_blankLine (a b : Text) (closed : endsOutside a) :
    (read (a ++ "\n\n".toList ++ b)).blocks = (read a).blocks ++ (read b).blocks ∧
      (read (a ++ "\n\n".toList ++ b)).rating = (read a).rating.or (read b).rating ∧
      ∀ f, (read (a ++ "\n\n".toList ++ b)).text? f =
        if holdsField f a then (read a).text? f else (read b).text? f := by
  have outside : (Reading.feedAll {} (lines a)).block = none := Option.isNone_iff_eq_none.1 closed
  have whole := Reading.endsIn_finish (s := {}) rfl (lines a ++ [] :: lines b)
  have first := Reading.endsIn_finish (s := {}) rfl (lines a)
  have second := Reading.endsIn_finish (s := {}) rfl (lines b)
  rw [Reading.ofLines_append_blankLine outside] at whole
  rw [read, feedAll_append_blankLine closed, read, read]
  refine ⟨?_, ?_, ?_⟩
  · rw [whole.blocks, first.blocks, second.blocks, Region.blocks_append, List.append_assoc]
    rfl
  · rw [whole.rating, first.rating, second.rating, Region.rating?_append, Option.or_assoc]
    rfl
  · intro f
    by_cases text : f = .rating
    · subst text
      exact (ite_self none).symm
    · rw [whole.text f text, first.text f text, second.text f text, Reading.pendingText?_start,
        Reading.pendingText?_start, Reading.pendingText?_start, holdsField,
        Region.fieldText?_append rfl rfl, ← Region.isSome_fieldText?]
      cases Region.fieldText? f (Region.ofLines (lines a)) <;> rfl

/-- A report that holds a field with an empty value and ends in a fence and a carriage return. -/
def withoutValue : Text :=
  "Bottleneck:\n```py\nx\n```\r".toList

/-- A report that holds the same field with a value. -/
def withValue : Text :=
  "Bottleneck: io\nwaits\nRating: 8/10\n```\ny".toList

/-- A field that the first report leaves empty stays empty, and what the first report does not hold
comes from the second. -/
theorem read_append_blankLine_withoutValue :
    endsOutside withoutValue ∧
      (read (withoutValue ++ "\n\n".toList ++ withValue)).blocks =
        [⟨some "py".toList, "x".toList⟩, ⟨none, "y".toList⟩] ∧
      (read (withoutValue ++ "\n\n".toList ++ withValue)).rating = some 8 ∧
      (read (withoutValue ++ "\n\n".toList ++ withValue)).text? .bottleneck = none ∧
      (read withValue).text? .bottleneck = some "io waits".toList := by
  have closed : endsOutside withoutValue := by decide +kernel
  obtain ⟨blocks, rating, text⟩ := read_append_blankLine withoutValue withValue closed
  rw [blocks, rating, text]
  exact ⟨closed, by decide +kernel⟩

end Report

end SnippetCost
