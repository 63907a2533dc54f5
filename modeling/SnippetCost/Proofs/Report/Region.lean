import SnippetCost.Report.Region
import SnippetCost.Proofs.Text.Trim

/-!
# Reading a report region by region

Reading a report line by line, with a block that may be open and a field that the next line may
continue, finds what the regions of the text tell. The proof says of every state of the reading which
report it ends in, given the regions that are still to come.

The invariant is `Reading.EndsIn`, the report that a state ends in; one region keeps it by
`EndsIn.prose` and `feedAll_block`, and all lines by `endsIn_finish`. The main result is
`read_eq_ofRegions`.
-/

namespace SnippetCost

variable {r q : Report} {f g : Field} {t : Text}

namespace Report

/-- Setting a text leaves the rating as it is. -/
@[simp]
lemma rating_setText (u : Option Text) : (r.setText f u).rating = r.rating := by
  cases f <;> rfl

/-- Setting a text leaves the blocks as they are. -/
@[simp]
lemma blocks_setText (u : Option Text) : (r.setText f u).blocks = r.blocks := by
  cases f <;> rfl

/-- Setting a text to what it is changes nothing. -/
lemma setText_text? (r : Report) (f : Field) : r.setText f (r.text? f) = r := by
  cases f <;> rfl

/-- A text that was set is what it was set to. -/
lemma text?_setText (text : f ≠ .rating) (u : Option Text) : (r.setText f u).text? f = u := by
  cases f with
  | rating => exact absurd rfl text
  | timeComplexity | spaceComplexity | bottleneck | optimization => rfl

/-- Setting a text leaves the others as they are. -/
lemma text?_setText_of_ne (ne : f ≠ g) (u : Option Text) :
    (r.setText f u).text? g = r.text? g := by
  cases f <;> cases g <;> first | rfl | exact absurd rfl ne

/-- Reports are equal that agree on their texts, the rating and the blocks. -/
lemma ext_text (text : ∀ f, f ≠ .rating → r.text? f = q.text? f) (rating : r.rating = q.rating)
    (blocks : r.blocks = q.blocks) : r = q := by
  have time := text .timeComplexity (by simp)
  have space := text .spaceComplexity (by simp)
  have bottleneck := text .bottleneck (by simp)
  have optimization := text .optimization (by simp)
  cases r
  cases q
  simp only [text?] at *
  simp only [*]

end Report

/-- A text is kept if it is not empty. -/
lemma nonEmpty?_eq_some {u : Option Text} : nonEmpty? u = some t ↔ u = some t ∧ t ≠ [] := by
  simp [nonEmpty?, Option.filter_eq_some_iff]

/-- One piece is joined to itself. -/
lemma joinPieces_singleton (t : Text) : joinPieces [t] = t := by
  by_cases h : t = []
  · rw [h]
    rfl
  · simp [joinPieces, h, Text.joinSpaced, List.intercalate]

/-- A text and the line that continues it count as one piece. -/
lemma joinPieces_continueText {line : Text} (ne : line ≠ []) (pieces : List Text) :
    joinPieces (Reading.continueText t line :: pieces) = joinPieces (t :: line :: pieces) := by
  rw [Reading.continueText]
  split
  · next h => simp [joinPieces, h]
  · next h =>
    rw [joinPieces, joinPieces, List.filter_cons_of_pos (by simp),
      List.filter_cons_of_pos (by simpa using h), List.filter_cons_of_pos (by simpa using ne)]
    cases pieces.filter (· ≠ []) with
    | nil => simp [Text.joinSpaced, List.intercalate]
    | cons p ps => simp [Text.joinSpaced, List.intercalate]

namespace OpenBlock

/-- Lines are pushed onto an open block, the newest first. -/
lemma foldl_push (b : OpenBlock) (lines : List Text) :
    lines.foldl push b = { b with newest := lines.reverse ++ b.newest } := by
  induction lines generalizing b with
  | nil => rfl
  | cons line lines ih =>
    rw [List.foldl_cons, ih, push, List.reverse_cons, List.append_assoc, List.singleton_append]

/-- The block of a region is the one that reading its lines leaves. -/
lemma close_foldl_push (info : Text) (lines : List Text) :
    (lines.foldl push (.ofInfo info)).close =
      { language := nonEmpty? (some (Text.trim info)), code := Text.joinLines lines } := by
  rw [foldl_push, close, ofInfo, List.append_nil, List.reverse_reverse, nonEmpty?,
    Option.filter_some]
  by_cases h : Text.trim info = [] <;> simp [h]

end OpenBlock

namespace Region

/-- The rating is that of the first region, if it has one. -/
lemma rating?_cons (region : Region) (regions : List Region) :
    rating? (region :: regions) =
      ((region.value? .rating).bind Rating.read?).or (rating? regions) := by
  rw [rating?, rating?]
  cases h : region.value? .rating with
  | none => rw [List.filterMap_cons_none h, Option.bind_none, Option.none_or]
  | some value =>
    rw [List.filterMap_cons_some h, List.findSome?_cons, Option.bind_some]
    cases Rating.read? value <;> rfl

/-- The blocks are that of the first region and those of the others. -/
lemma blocks_cons (region : Region) (regions : List Region) :
    blocks (region :: regions) = region.block?.toList ++ blocks regions := by
  rw [blocks, blocks]
  cases h : region.block? with
  | none => rw [List.filterMap_cons_none h, Option.toList_none, List.nil_append]
  | some b => rw [List.filterMap_cons_some h, Option.toList_some, List.singleton_append]

/-- A region that does not hold a field is passed over for it. -/
lemma fieldText?_of_none {region : Region} (h : region.value? f = none) (regions : List Region) :
    fieldText? f (region :: regions) = fieldText? f regions := by
  rw [fieldText?, h]

/-- A region that does not continue a field ends it. -/
lemma continuations_of_none {region : Region} (h : region.continuation? = none)
    (regions : List Region) : continuations (region :: regions) = [] := by
  rw [continuations, h]

end Region

namespace Reading

open Region

variable {s : Reading} {region : Region} {regions : List Region} {line : Text}

/-- The text that a field ends with, given the regions that are still to come. -/
def pendingText? (s : Reading) (f : Field) (regions : List Region) : Option Text :=
  match s.report.text? f with
  | none => fieldText? f regions
  | some t => if s.current = some f then some (joinPieces (t :: continuations regions)) else some t

/-- The report that a state ends in, given the regions that are still to come. -/
structure EndsIn (s : Reading) (regions : List Region) (r : Report) : Prop where
  text : ∀ f, f ≠ .rating → r.text? f = nonEmpty? (s.pendingText? f regions)
  rating : r.rating = s.report.rating.or (rating? regions)
  blocks : r.blocks = s.report.blocks ++ Region.blocks regions

/-- A region that neither holds a field nor continues one only ends the current field. -/
lemma pendingText?_pause (breaks : region.continuation? = none) (free : region.value? f = none) :
    s.pendingText? f (region :: regions) =
      { s with current := none : Reading }.pendingText? f regions := by
  rw [pendingText?, pendingText?]
  cases s.report.text? f with
  | none => exact fieldText?_of_none free regions
  | some t => simp [continuations_of_none breaks, joinPieces_singleton]

/-- Taking a field of text: the first value counts. -/
lemma takeField_of_ne (text : g ≠ .rating) (s : Reading) (t : Text) :
    s.takeField g t =
      match s.report.text? g with
      | none => { s with report := s.report.setText g (some t), current := some g }
      | some _ => { s with current := none } := by
  cases g with
  | rating => exact absurd rfl text
  | timeComplexity | spaceComplexity | bottleneck | optimization => rfl

/-- Taking a field leaves the rating and the blocks as they are. -/
lemma takeField_rest (text : g ≠ .rating) (s : Reading) (t : Text) :
    (s.takeField g t).report.rating = s.report.rating ∧
      (s.takeField g t).report.blocks = s.report.blocks := by
  rw [takeField_of_ne text]
  split <;> simp

/-- The first region that holds a field decides on its text. -/
lemma pendingText?_takeField (text : g ≠ .rating) (breaks : region.continuation? = none)
    (value : region.value? g = some t) (free : ∀ f, g ≠ f → region.value? f = none) (f : Field) :
    s.pendingText? f (region :: regions) = (s.takeField g t).pendingText? f regions := by
  rw [takeField_of_ne text]
  by_cases same : g = f
  · subst same
    cases old : s.report.text? g with
    | none =>
      simp only [pendingText?, old, fieldText?, value, Report.text?_setText text, if_true]
    | some u =>
      simp [pendingText?, old, continuations_of_none breaks, joinPieces_singleton]
  · rw [pendingText?_pause breaks (free f same)]
    cases s.report.text? g with
    | none => simp [pendingText?, Report.text?_setText_of_ne same, same]
    | some u => rfl

/-- A line that continues a field leaves the rating and the blocks as they are. -/
lemma feedContinuation_rest (s : Reading) (line : Text) :
    (s.feedContinuation line).report.rating = s.report.rating ∧
      (s.feedContinuation line).report.blocks = s.report.blocks := by
  rw [feedContinuation]
  split
  · exact ⟨rfl, rfl⟩
  · split <;> simp

/-- A line that continues the current field counts as a piece of its text. -/
lemma pendingText?_continue (free : region.value? f = none)
    (piece : region.continuation? = some (Text.trim line)) (ne : Text.trim line ≠ []) :
    s.pendingText? f (region :: regions) = (s.feedContinuation line).pendingText? f regions := by
  have pieces : continuations (region :: regions) = Text.trim line :: continuations regions := by
    rw [continuations, piece]
  rw [feedContinuation]
  cases current : s.current with
  | none =>
    simp only [pendingText?, current, fieldText?_of_none free]
    rfl
  | some g =>
    by_cases same : g = f
    · subst same
      cases old : s.report.text? g with
      | none => simp only [pendingText?, old, fieldText?_of_none free]
      | some t =>
        have text : g ≠ .rating := by
          rintro rfl
          cases old
        simp only [pendingText?, old, current, if_true, pieces, Report.text?_setText text,
          joinPieces_continueText ne]
    · cases old : s.report.text? g with
      | none => simp [pendingText?, old, current, same, fieldText?_of_none free]
      | some t =>
        simp [pendingText?, old, current, same, fieldText?_of_none free,
          Report.text?_setText_of_ne same]

/-- One region is read by a step to another state that leaves the texts pending as they were, and
takes the rating and the block that the region gives. -/
lemma EndsIn.cons {s' : Reading}
    (text : ∀ f, f ≠ .rating →
      s.pendingText? f (region :: regions) = s'.pendingText? f regions)
    (rating : s'.report.rating =
      s.report.rating.or ((region.value? .rating).bind Rating.read?))
    (blocks : s'.report.blocks = s.report.blocks ++ region.block?.toList)
    (h : s'.EndsIn regions r) : s.EndsIn (region :: regions) r where
  text := by
    intro f ne
    rw [text f ne, h.text f ne]
  rating := by
    rw [h.rating, rating, rating?_cons, Option.or_assoc]
  blocks := by
    rw [h.blocks, blocks, blocks_cons, List.append_assoc]

/-- The same for a region that gives no rating and no block. -/
lemma EndsIn.cons_of_none {s' : Reading}
    (text : ∀ f, f ≠ .rating →
      s.pendingText? f (region :: regions) = s'.pendingText? f regions)
    (free : region.value? .rating = none) (prose : region.block? = none)
    (rest : s'.report.rating = s.report.rating ∧ s'.report.blocks = s.report.blocks)
    (h : s'.EndsIn regions r) : s.EndsIn (region :: regions) r := by
  refine h.cons text ?_ ?_
  · rw [rest.1, free, Option.bind_none, Option.or_none]
  · rw [rest.2, prose, Option.toList_none, List.append_nil]

/-- A line is no fence exactly if it does not begin with the mark of one. -/
lemma fenceInfo?_eq_none :
    fenceInfo? line = none ↔ ¬ fenceMark.toList <+: Text.trimStart line := by
  rw [fenceInfo?]
  cases info : Text.dropLead? fenceMark.toList (Text.trimStart line) with
  | none =>
    refine iff_of_true rfl ?_
    rintro ⟨rest, e⟩
    rw [Text.dropLead?_eq_some.2 e.symm] at info
    cases info
  | some rest =>
    refine iff_of_false (by simp) ?_
    exact not_not_intro ⟨rest, (Text.dropLead?_eq_some.1 info).symm⟩

/-- A line that does not end a field is not blank. -/
lemma trim_ne_nil_of_endsField (goesOn : ¬ endsField line) : Text.trim line ≠ [] := by
  apply Text.trim_ne_nil
  intro blank
  exact goesOn (by rw [endsField, blank])

/-- Reading a line outside fences takes from it what its region tells. -/
lemma EndsIn.prose (h : (s.feedProse line).EndsIn regions r) (inside : fenceInfo? line = none) :
    s.EndsIn (.prose line :: regions) r := by
  rw [feedProse, inside] at h
  dsimp only at h
  cases read : FieldLine.read? line with
  | some found =>
    obtain ⟨label, value⟩ := found
    rw [read] at h
    dsimp only at h
    have breaks : (Region.prose line).continuation? = none := by
      simp [continuation?, read]
    have held : ∀ f, (Region.prose line).value? f =
        if Field.ofLabel? label = some f then some (cleanValue value) else none := by
      intro f
      simp only [value?, read]
    cases field : Field.ofLabel? label with
    | none =>
      rw [field] at h
      have free : ∀ f, (Region.prose line).value? f = none := by
        intro f
        simp [held, field]
      exact h.cons_of_none (fun f _ => pendingText?_pause breaks (free f)) (free _) rfl ⟨rfl, rfl⟩
    | some g =>
      rw [field] at h
      have value : (Region.prose line).value? g = some (cleanValue value) := by
        simp [held, field]
      have free : ∀ f, g ≠ f → (Region.prose line).value? f = none := by
        intro f ne
        simp [held, field, ne]
      by_cases text : g = .rating
      · subst text
        refine h.cons ?_ ?_ ?_
        · intro f ne
          rw [pendingText?_pause breaks (free f (Ne.symm ne))]
          cases f <;> rfl
        · rw [value]
          rfl
        · exact (List.append_nil _).symm
      · exact h.cons_of_none (fun f _ => pendingText?_takeField text breaks value free f)
          (free _ text) rfl (takeField_rest text _ _)
  | none =>
    rw [read] at h
    have free : ∀ f, (Region.prose line).value? f = none := by
      intro f
      simp [value?, read]
    by_cases ends : endsField line
    · have breaks : (Region.prose line).continuation? = none := by
        simp [continuation?, ends]
      rw [if_pos ends] at h
      exact h.cons_of_none (fun f _ => pendingText?_pause breaks (free f)) (free _) rfl ⟨rfl, rfl⟩
    · have piece : (Region.prose line).continuation? = some (Text.trim line) := by
        simp [continuation?, read, ends]
      have ne := trim_ne_nil_of_endsField ends
      rw [if_neg ends] at h
      exact h.cons_of_none (fun f _ => pendingText?_continue (free f) piece ne) (free _) rfl
        (feedContinuation_rest _ _)

/-- Taking a field opens and closes no block. -/
lemma takeField_block (s : Reading) (g : Field) (t : Text) : (s.takeField g t).block = s.block := by
  by_cases text : g = .rating
  · subst text
    rfl
  · rw [takeField_of_ne text]
    split <;> rfl

/-- A line that continues a field opens and closes no block. -/
lemma feedContinuation_block (s : Reading) (line : Text) :
    (s.feedContinuation line).block = s.block := by
  rw [feedContinuation]
  split
  · rfl
  · split <;> rfl

/-- Only a fence opens a block. -/
lemma feedProse_block (s : Reading) (inside : fenceInfo? line = none) :
    (s.feedProse line).block = s.block := by
  rw [feedProse, inside]
  dsimp only
  split
  · split
    · exact takeField_block s _ _
    · rfl
  · split
    · rfl
    · exact feedContinuation_block s line

/-- Reading the lines behind a fence takes the block that they are and goes on behind the fence that
closes it, or leaves the block open if no fence does. -/
lemma feedAll_block (s : Reading) (b : OpenBlock) (lines : List Text) :
    feedAll { s with block := some b } lines =
      match lines.dropWhile isInside with
      | [] => { s with block := some ((lines.takeWhile isInside).foldl .push b) }
      | _ :: behind =>
        feedAll
          { s with
            report := { s.report with
              blocks := s.report.blocks ++ [((lines.takeWhile isInside).foldl .push b).close] }
            block := none }
          behind := by
  induction lines generalizing b with
  | nil => rfl
  | cons line lines ih =>
    have fed : feedAll { s with block := some b } (line :: lines) =
        feedAll (feedBlock { s with block := some b } b line) lines := rfl
    rw [fed, feedBlock]
    cases info : fenceInfo? line with
    | none =>
      have inside : isInside line := by rw [isInside, info, Option.isNone_none]
      rw [List.takeWhile_cons_of_pos inside, List.dropWhile_cons_of_pos inside, List.foldl_cons]
      exact ih (b.push line)
    | some _ =>
      have outside : ¬ isInside line := by simp [isInside, info]
      rw [List.takeWhile_cons_of_neg outside, List.dropWhile_cons_of_neg outside]
      rfl

/-- A block that is left open is in the report as if a fence had closed it. -/
lemma finish_feedAll_block (s : Reading) (b : OpenBlock) (lines : List Text) :
    (feedAll { s with block := some b } lines).finish =
      (feedAll
        { s with
          report := { s.report with
            blocks := s.report.blocks ++ [((lines.takeWhile isInside).foldl .push b).close] }
          block := none }
        ((lines.dropWhile isInside).drop 1)).finish := by
  rw [feedAll_block]
  cases lines.dropWhile isInside <;> rfl

/-- A fence outside a block opens one. -/
lemma feedAll_cons_fence {info : Text} (closed : s.block = none)
    (fence : fenceInfo? line = some info) (lines : List Text) :
    feedAll s (line :: lines) =
      feedAll { s with block := some (.ofInfo info), current := none } lines := by
  rw [feedAll, List.foldl_cons, feed, closed]
  dsimp only
  rw [feedProse, fence, ← feedAll]

/-- Outside blocks a line is read as prose. -/
lemma feedAll_cons_prose (closed : s.block = none) (line : Text) (lines : List Text) :
    feedAll s (line :: lines) = feedAll (s.feedProse line) lines := by
  rw [feedAll, List.foldl_cons, feed, closed, ← feedAll]

/-- A text is dropped at the end if it is empty. -/
lemma text?_dropEmpty (r : Report) (f : Field) : (dropEmpty r).text? f = nonEmpty? (r.text? f) := by
  cases f <;> rfl

/-- Every state outside fences ends in the report that it and the regions to come tell. -/
lemma endsIn_finish (closed : s.block = none) (lines : List Text) :
    s.EndsIn (Region.ofLines lines) (feedAll s lines).finish := by
  fun_induction Region.ofLines lines generalizing s with
  | case1 =>
    have finished : (feedAll s []).finish = dropEmpty s.report := by
      rw [feedAll, List.foldl_nil, finish, closed]
    rw [finished]
    constructor
    · intro f _
      rw [text?_dropEmpty, pendingText?]
      cases s.report.text? f with
      | none => rfl
      | some t => simp [continuations, joinPieces_singleton]
    · exact Option.or_none.symm
    · exact (List.append_nil _).symm
  | case2 line lines info fence ih =>
    rw [feedAll_cons_fence closed fence, finish_feedAll_block { s with current := none },
      OpenBlock.close_foldl_push]
    refine EndsIn.cons ?_ ?_ rfl (ih rfl)
    · intro f _
      exact pendingText?_pause rfl rfl
    · exact Option.or_none.symm
  | case3 line lines inside ih =>
    rw [feedAll_cons_prose closed]
    apply EndsIn.prose _ inside
    apply ih
    rw [feedProse_block s inside, closed]

end Reading

namespace Report

/-- A text of a report is the field's text in the regions, unless that is empty. -/
lemma text?_ofRegions (regions : List Region) (text : f ≠ .rating) :
    (ofRegions regions).text? f = nonEmpty? (Region.fieldText? f regions) := by
  cases f with
  | rating => exact absurd rfl text
  | timeComplexity | spaceComplexity | bottleneck | optimization => rfl

/-- Reading a text line by line finds what the regions of the text tell: its blocks of code in order,
the first rating that a value gives, and for each field of text the first value outside fences with
the lines that continue it. -/
theorem read_eq_ofRegions (t : Text) :
    Report.read t = ofRegions (Region.ofLines (Text.lines t)) := by
  have ends := Reading.endsIn_finish (s := {}) rfl (Text.lines t)
  apply ext_text
  · intro f text
    rw [text?_ofRegions _ text, Report.read, ends.text f text]
    cases f <;> rfl
  · exact ends.rating
  · exact ends.blocks

end Report

end SnippetCost
