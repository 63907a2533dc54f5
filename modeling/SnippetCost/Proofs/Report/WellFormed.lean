import SnippetCost.Report.WellFormed
import SnippetCost.Proofs.Report.FieldCut
import SnippetCost.Proofs.Report.Rating
import SnippetCost.Proofs.Report.Region
import SnippetCost.Proofs.Report.Shown
import SnippetCost.Proofs.Text.Lines

/-!
# Every report that is read is well formed

While a report is read a text of it can be empty: its label has nothing behind it, and the lines that
continue it are still to come. Apart from that a reading is tidy after every line, and the texts that
stay empty are dropped at the end.

The invariant is `Reading.IsTidy`: every line keeps it, `IsTidy.feed`, and the end makes a well-formed
report of it, `IsTidy.finish`. What an empty report is written as is `isEmpty_iff`. The main result is
`read_wellFormed`.
-/

namespace SnippetCost

variable {t line : Text} {r : Report}

/-- A trimmed text without line feeds, which can be empty. -/
structure IsTidy (t : Text) : Prop where
  trimmed : Text.trim t = t
  oneLine : '\n' ∉ t

namespace IsTidy

/-- A tidy text that is not empty is a trimmed line. -/
lemma isTrimmedLine (h : IsTidy t) (ne : t ≠ []) : IsTrimmedLine t :=
  ⟨ne, h.trimmed, h.oneLine⟩

/-- Trimming a line leaves a tidy text. -/
lemma trim (noFeed : '\n' ∉ t) : IsTidy (Text.trim t) where
  trimmed := Text.trim_trim t
  oneLine := fun mem => noFeed ((Text.strip_sublist isBlank t).mem mem)

/-- Cleaning the value on a line leaves a tidy text. -/
lemma cleanValue (noFeed : '\n' ∉ t) : IsTidy (Reading.cleanValue t) where
  trimmed := Text.trim_trim _
  oneLine := fun mem => noFeed ((Reading.cleanValue_sublist t).mem mem)

/-- A tidy text stays so when a line that is not blank continues it. -/
lemma continueText (h : IsTidy t) (hl : IsTrimmedLine line) : IsTidy (Reading.continueText t line) := by
  rw [Reading.continueText]
  split
  · exact ⟨hl.trimmed, hl.oneLine⟩
  · next ne =>
    constructor
    · apply Text.strip_eq_self
      · intro c first
        rw [List.head?_append_of_ne_nil _ ne] at first
        exact Text.isBlank_head?_of_trim h.trimmed first
      · intro c last
        have behind : (t ++ ' ' :: line).getLast? = line.getLast? := by
          rw [List.getLast?_append_of_ne_nil _ (by simp), List.getLast?_cons_of_ne_nil hl.ne_nil]
        rw [behind] at last
        exact Text.isBlank_getLast?_of_trim hl.trimmed last
    · simp [h.oneLine, hl.oneLine]

end IsTidy

namespace OpenBlock

/-- A block that is open and can be closed at any line: none of its lines is a fence. -/
structure IsTidy (b : OpenBlock) : Prop where
  language : ∀ l, b.language = some l → IsTrimmedLine l
  oneLine : ∀ line ∈ b.newest, '\n' ∉ line
  inside : ∀ line ∈ b.newest, Reading.fenceInfo? line = none

variable {b : OpenBlock}

/-- A block that a fence opens is tidy. -/
lemma IsTidy.ofInfo {info : Text} (noFeed : '\n' ∉ info) : (ofInfo info).IsTidy where
  language := by
    intro l h
    rw [OpenBlock.ofInfo, Option.ite_none_left_eq_some] at h
    obtain ⟨ne, e⟩ := h
    cases e
    exact (SnippetCost.IsTidy.trim noFeed).isTrimmedLine ne
  oneLine := by
    intro line mem
    cases mem
  inside := by
    intro line mem
    cases mem

/-- A line that is no fence leaves a block tidy. -/
lemma IsTidy.push (h : b.IsTidy) (noFeed : '\n' ∉ line) (inside : Reading.fenceInfo? line = none) :
    (b.push line).IsTidy where
  language := h.language
  oneLine := List.forall_mem_cons.2 ⟨noFeed, h.oneLine⟩
  inside := List.forall_mem_cons.2 ⟨inside, h.inside⟩

/-- A block that is closed has the lines that it had while it was open. -/
lemma IsTidy.close (h : b.IsTidy) : b.close.IsWellFormed where
  language := h.language
  noFence := by
    have inside : ∀ line ∈ Text.cutLines (Text.joinLines b.newest.reverse),
        Reading.fenceInfo? line = none := by
      intro line mem
      by_cases empty : b.newest = []
      · -- the code of a block without lines is one line, which is empty
        rw [empty] at mem
        cases List.mem_singleton.1 mem
        rfl
      · have oneLine : ∀ line ∈ b.newest.reverse, '\n' ∉ line := by
          intro line mem
          exact h.oneLine line (List.mem_reverse.1 mem)
        rw [Text.cutLines_joinLines (by simpa using empty) oneLine] at mem
        exact h.inside line (List.mem_reverse.1 mem)
    intro line mem
    exact Reading.fenceInfo?_eq_none.1 (inside line mem)

end OpenBlock

namespace Report

/-- A report of which lines are still to come: its texts can be empty. -/
structure IsTidy (r : Report) : Prop where
  text : ∀ f t, r.text? f = some t → SnippetCost.IsTidy t
  rating : ∀ n, r.rating = some n → n.toNat ≤ Rating.best
  block : ∀ b ∈ r.blocks, b.IsWellFormed

namespace IsTidy

/-- Setting a text to a tidy one leaves a report tidy. -/
lemma setText (h : r.IsTidy) (f : Field) (ht : SnippetCost.IsTidy t) :
    (r.setText f (some t)).IsTidy where
  text := by
    intro g u present
    by_cases text : f = .rating
    · subst text
      exact h.text g u present
    · by_cases same : f = g
      · subst same
        rw [text?_setText text] at present
        cases present
        exact ht
      · rw [text?_setText_of_ne same] at present
        exact h.text g u present
  rating := by
    rw [rating_setText]
    exact h.rating
  block := by
    rw [blocks_setText]
    exact h.block

/-- A rating leaves a report tidy. -/
lemma addRating (h : r.IsTidy) (value : Text) :
    IsTidy { r with rating := r.rating.or (Rating.read? value) } where
  text := by
    intro f t present
    apply h.text f t
    rw [← present]
    cases f <;> rfl
  rating := by
    intro n given
    rcases Option.or_eq_some_iff.1 given with old | ⟨-, new⟩
    · exact h.rating n old
    · exact Rating.read?_le_best new
  block := h.block

/-- A well-formed block leaves a report tidy. -/
lemma addBlock (h : r.IsTidy) {b : CodeBlock} (hb : b.IsWellFormed) :
    IsTidy { r with blocks := r.blocks ++ [b] } where
  text := by
    intro f t present
    apply h.text f t
    rw [← present]
    cases f <;> rfl
  rating := h.rating
  block := List.forall_mem_append.2 ⟨h.block, List.forall_mem_singleton.2 hb⟩

/-- A tidy report is well formed when the texts that were left empty are dropped. -/
lemma dropEmpty (h : r.IsTidy) : (Reading.dropEmpty r).IsWellFormed where
  text := by
    intro f t present
    rw [Reading.text?_dropEmpty] at present
    obtain ⟨old, ne⟩ := nonEmpty?_eq_some.1 present
    exact (h.text f t old).isTrimmedLine ne
  rating := h.rating
  block := h.block

end IsTidy

end Report

namespace Reading

/-- A reading whose report and open block are tidy. -/
structure IsTidy (s : Reading) : Prop where
  report : s.report.IsTidy
  block : ∀ b, s.block = some b → b.IsTidy

variable {s : Reading}

/-- A reading starts tidy. -/
lemma IsTidy.start : IsTidy {} where
  report := by
    refine ⟨?_, ?_, ?_⟩
    · intro f t present
      cases f <;> cases present
    · intro n given
      cases given
    · intro b mem
      cases mem
  block := by
    intro b opened
    cases opened

/-- A line in a block leaves a reading tidy. -/
lemma IsTidy.feedBlock (h : s.IsTidy) {b : OpenBlock} (opened : s.block = some b)
    (noFeed : '\n' ∉ line) : (s.feedBlock b line).IsTidy := by
  have tidy := h.block b opened
  rw [Reading.feedBlock]
  cases fence : fenceInfo? line with
  | some info => exact ⟨h.report.addBlock tidy.close, by simp⟩
  | none =>
    refine ⟨h.report, ?_⟩
    rintro _ ⟨⟩
    exact tidy.push noFeed fence

/-- Taking a tidy value leaves a reading tidy. -/
lemma IsTidy.takeField (h : s.IsTidy) (f : Field) (ht : SnippetCost.IsTidy t) :
    (s.takeField f t).IsTidy := by
  by_cases text : f = .rating
  · subst text
    exact ⟨h.report.addRating t, h.block⟩
  · rw [takeField_of_ne text]
    split
    · exact ⟨h.report.setText f ht, h.block⟩
    · exact ⟨h.report, h.block⟩

/-- A line that continues a field leaves a reading tidy. -/
lemma IsTidy.feedContinuation (h : s.IsTidy) (hl : IsTrimmedLine (Text.trim line)) :
    (s.feedContinuation line).IsTidy := by
  rw [Reading.feedContinuation]
  split
  · exact h
  · next f _ =>
    split
    · exact h
    · next t present =>
      exact ⟨h.report.setText f ((h.report.text f t present).continueText hl), h.block⟩

/-- A line outside blocks leaves a reading tidy. -/
lemma IsTidy.feedProse (h : s.IsTidy) (noFeed : '\n' ∉ line) : (s.feedProse line).IsTidy := by
  rw [Reading.feedProse]
  cases fence : fenceInfo? line with
  | some info =>
    have behind : info <:+ line :=
      (Text.dropLead?_suffix fence).trans (Text.trimStart_suffix line)
    refine ⟨h.report, ?_⟩
    rintro _ ⟨⟩
    exact .ofInfo fun mem => noFeed (behind.mem mem)
  | none =>
    dsimp only
    cases read : FieldLine.read? line with
    | some found =>
      obtain ⟨label, value⟩ := found
      have tidy : SnippetCost.IsTidy (cleanValue value) :=
        .cleanValue fun mem => noFeed ((FieldLine.read?_suffix read).mem mem)
      dsimp only
      cases Field.ofLabel? label with
      | none => exact ⟨h.report, h.block⟩
      | some f => exact h.takeField f tidy
    | none =>
      dsimp only
      split
      · exact ⟨h.report, h.block⟩
      · next goesOn =>
        exact h.feedContinuation
          ((SnippetCost.IsTidy.trim noFeed).isTrimmedLine (trim_ne_nil_of_endsField goesOn))

/-- Reading one line keeps a reading tidy. -/
lemma IsTidy.feed (h : s.IsTidy) (noFeed : '\n' ∉ line) : (s.feed line).IsTidy := by
  rw [Reading.feed]
  cases opened : s.block with
  | none => exact h.feedProse noFeed
  | some b => exact h.feedBlock opened noFeed

/-- Reading lines keeps a reading tidy. -/
lemma IsTidy.feedAll {lines : List Text} (h : s.IsTidy) (noFeed : ∀ line ∈ lines, '\n' ∉ line) :
    (s.feedAll lines).IsTidy := by
  induction lines generalizing s with
  | nil => exact h
  | cons line lines ih =>
    obtain ⟨first, rest⟩ := List.forall_mem_cons.1 noFeed
    exact ih (h.feed first) rest

/-- A tidy reading ends in a well-formed report, with a block that is still open or without. -/
lemma IsTidy.finish (h : s.IsTidy) : s.finish.IsWellFormed := by
  rw [Reading.finish]
  cases opened : s.block with
  | none => exact h.report.dropEmpty
  | some b => exact (h.report.addBlock (h.block b opened).close).dropEmpty

end Reading

namespace Report

open Markup (openTag writeAll)
open Text (includes)

/-- An element is written from its opening tag on. -/
lemma openTag_prefix_writeAll (tag : Tag) (inner ms : List Markup) :
    openTag tag none <+: writeAll (.element tag none inner :: ms) := by
  simp only [writeAll, Markup.write, List.append_assoc]
  exact List.prefix_append _ _

/-- A report with fields is written with a list of them. -/
lemma includes_fields (h : r.hasFields) (classLead : Text) :
    includes "<dl>".toList (r.write classLead) := by
  have opens : "<dl>".toList <+: writeAll r.fieldsMarkup := by
    rw [fieldsMarkup, if_pos h]
    exact openTag_prefix_writeAll .fields _ _
  apply Text.includes_of_infix
  rw [write_eq]
  exact opens.isInfix.trans (List.infix_append' _ _ _)

/-- A report with blocks is written with an element for code. -/
lemma includes_block (h : r.blocks ≠ []) (classLead : Text) :
    includes "<pre>".toList (r.write classLead) := by
  obtain ⟨b, bs, e⟩ := List.exists_cons_of_ne_nil h
  have opens : "<pre>".toList <+: writeAll (r.blocks.flatMap (blockMarkup classLead)) := by
    rw [e]
    exact openTag_prefix_writeAll .block _ _
  apply Text.includes_of_infix
  rw [write_eq, ← List.append_assoc]
  exact opens.isInfix.trans (List.infix_append' _ _ _)

/-- An empty report is written as an empty section. -/
lemma write_of_isEmpty (h : r.isEmpty) (classLead : Text) :
    r.write classLead = "<section class=\"analysis-report\">\n</section>\n".toList := by
  rw [isEmpty, Bool.and_eq_true, Bool.not_eq_true', List.isEmpty_iff] at h
  rw [write_eq, fieldsMarkup, h.1, h.2]
  rfl

/-- A report is empty exactly if neither a list of fields nor a block is written of it. -/
lemma isEmpty_iff (r : Report) (classLead : Text) : r.isEmpty ↔
    ¬ includes "<dl>".toList (r.write classLead) ∧ ¬ includes "<pre>".toList (r.write classLead) := by
  constructor
  · intro empty
    rw [write_of_isEmpty empty]
    decide
  · rintro ⟨noFields, noBlocks⟩
    rw [isEmpty, Bool.and_eq_true, Bool.not_eq_true', List.isEmpty_iff]
    constructor
    · exact Bool.eq_false_iff.2 fun h => noFields (includes_fields h classLead)
    · exact Decidable.not_not.1 fun h => noBlocks (includes_block h classLead)

/-- The report that any text holds is well formed: its texts are not empty, trimmed and one line each,
its rating is at most ten, and its blocks have a trimmed language or none and no line that is a fence.
It is empty exactly if nothing is shown of it. -/
theorem read_wellFormed (t : Text) : (Report.read t).IsWellFormed ∧
    ∀ classLead, (Report.read t).isEmpty ↔
      ¬ includes "<dl>".toList ((Report.read t).write classLead) ∧
        ¬ includes "<pre>".toList ((Report.read t).write classLead) := by
  constructor
  · exact (Reading.IsTidy.start.feedAll (Text.notMem_of_mem_lines t)).finish
  · exact isEmpty_iff (Report.read t)

end Report

end SnippetCost
