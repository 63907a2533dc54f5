import SnippetCost.Report.Stored
import SnippetCost.Proofs.Json.Reading
import SnippetCost.Proofs.Json.Record
import SnippetCost.Proofs.Command.Run

/-!
# Stored reports are read back

Whatever a report says, it is read back from the document that stores it, and so is the report that a
run of the program shows in JSON.

Reports and blocks are read back from their values by `ofValue?_toValue`, and these from the document
because they are plain, `isPlain_toValue`. The main result is `restore?_store`.
-/

namespace SnippetCost

open Json (Value)
open Json.Value (fieldOrNull field)

/-- A byte is read back from its number. -/
lemma word8?_toNat (n : UInt8) : (Value.natural n.toNat).word8? = some n := by
  have le : n.toNat ≤ wordMax 8 := Nat.le_of_lt_succ n.toNat_lt
  simp [Value.word8?, Value.natural?, le]

namespace CodeBlock

/-- A block of code is read back from its value. -/
lemma ofValue?_toValue (b : CodeBlock) : ofValue? b.toValue = some b := by
  let ms := [fieldOrNull "language" .text b.language, field "code" (.text b.code)]
  have record : b.toValue.record? false 2 fieldNames = some ms :=
    Value.record?_object rfl (by decide) false 2
  have language : Value.optional? Value.text? "language" ms = some b.language :=
    Value.optional?_of_lookup rfl (fun _ _ => rfl) fun _ _ => rfl
  have code : Value.required? Value.text? "code" ms = some b.code :=
    Value.required?_of_lookup rfl rfl
  simp [ofValue?, record, language, code]

/-- A block of code is stored as a plain value. -/
lemma isPlain_toValue (b : CodeBlock) : b.toValue.IsPlain := by
  obtain ⟨language, code⟩ := b
  cases language <;> exact ⟨trivial, trivial, trivial⟩

end CodeBlock

namespace Report

/-- Blocks of code are read back from their values. -/
lemma blocks?_toValue (bs : List CodeBlock) :
    blocks? (.array (bs.map CodeBlock.toValue)) = some bs :=
  Value.mapM_map CodeBlock.ofValue?_toValue bs

/-- A report is read back from the value that stores it. -/
lemma ofValue?_toValue (r : Report) : ofValue? r.toValue = some r := by
  let ms := [
    fieldOrNull "time_complexity" .text r.timeComplexity,
    fieldOrNull "space_complexity" .text r.spaceComplexity,
    fieldOrNull "bottleneck" .text r.bottleneck,
    fieldOrNull "optimization" .text r.optimization,
    fieldOrNull "rating" (fun score => .natural score.toNat) r.rating,
    field "code_blocks" (.array (r.blocks.map CodeBlock.toValue))]
  have record : r.toValue.record? false 6 fieldNames = some ms :=
    Value.record?_object rfl (by decide) false 6
  have time : Value.optional? Value.text? "time_complexity" ms = some r.timeComplexity :=
    Value.optional?_of_lookup rfl (fun _ _ => rfl) fun _ _ => rfl
  have space : Value.optional? Value.text? "space_complexity" ms = some r.spaceComplexity :=
    Value.optional?_of_lookup rfl (fun _ _ => rfl) fun _ _ => rfl
  have bottleneck : Value.optional? Value.text? "bottleneck" ms = some r.bottleneck :=
    Value.optional?_of_lookup rfl (fun _ _ => rfl) fun _ _ => rfl
  have optimization : Value.optional? Value.text? "optimization" ms = some r.optimization :=
    Value.optional?_of_lookup rfl (fun _ _ => rfl) fun _ _ => rfl
  have rating : Value.optional? Value.word8? "rating" ms = some r.rating :=
    Value.optional?_of_lookup rfl (fun _ _ => rfl) fun score _ => word8?_toNat score
  have blocks : Value.required? blocks? "code_blocks" ms = some r.blocks :=
    Value.required?_of_lookup rfl (blocks?_toValue r.blocks)
  simp [ofValue?, record, time, space, bottleneck, optimization, rating, blocks]

/-- Blocks of code are stored as plain values. -/
lemma arePlain_blocks (bs : List CodeBlock) : Value.ArePlain (bs.map CodeBlock.toValue) := by
  induction bs with
  | nil => trivial
  | cons b bs ih => exact ⟨b.isPlain_toValue, ih⟩

/-- A field that may be nothing is stored as a plain value if what it holds is. -/
lemma isPlain_fieldOrNull {α : Type} (name : String) {toValue : α → Value}
    (h : ∀ a, (toValue a).IsPlain) (value : Option α) :
    (fieldOrNull name toValue value).2.IsPlain := by
  cases value with
  | none => trivial
  | some a => exact h a

/-- A report is stored as a plain value. -/
lemma isPlain_toValue (r : Report) : r.toValue.IsPlain := by
  have text (t : Text) : (Value.text t).IsPlain := trivial
  have natural (n : UInt8) : (Value.natural n.toNat).IsPlain := trivial
  exact ⟨isPlain_fieldOrNull "time_complexity" text r.timeComplexity,
    isPlain_fieldOrNull "space_complexity" text r.spaceComplexity,
    isPlain_fieldOrNull "bottleneck" text r.bottleneck,
    isPlain_fieldOrNull "optimization" text r.optimization,
    isPlain_fieldOrNull "rating" natural r.rating, arePlain_blocks r.blocks, trivial⟩

/-- A report is read back from the document that stores it, also where a new line ends the document. -/
lemma restore?_store_append (r : Report) (gap : Text) (all : ∀ c ∈ gap, Json.isGapChar c)
    (ends : Json.EndsValue gap) : restore? (r.store ++ gap) = some r := by
  rw [restore?, store, Value.read?_write r.isPlain_toValue all ends, Option.bind_some,
    ofValue?_toValue]

/-- Storing a report and reading it back changes nothing, and what a run of the program shows of a
report in JSON is read as the report that its input holds. -/
theorem restore?_store [PatternBuilder] :
    (∀ r : Report, restore? r.store = some r) ∧
      ∀ (args : List Text) (sources : Sources) (i : Invocation) (s : Settings) (t : Text),
        Invocation.ofArguments? args = some i → i.command = .report .json →
        i.HasSettings sources s → i.HasInput sources t →
          (run args sources).exitCode = 0 ∧
            restore? (run args sources).output = some (Report.read t) := by
  constructor
  · intro r
    have whole := restore?_store_append r [] nofun Json.endsValue_nil
    rwa [List.append_nil] at whole
  · intro args sources i s t parsed command settings input
    have sound : i.command.HasSoundClass := by
      rw [command]
      trivial
    rw [run_eq_page parsed settings sound input, command, Command.page]
    refine ⟨rfl, restore?_store_append _ _ ?_ ?_⟩
    · rintro _ ⟨⟩
      · rfl
      · contradiction
    · rintro _ ⟨⟩
      exact .inr rfl

/-- A text that could end its string, a rating that is out of range and an empty block are read back. -/
theorem restore?_store_hostile :
    restore? (store ⟨some "\",\\\x00\n😀".toList, none, some [], none, some 255, [⟨none, []⟩]⟩) =
        some ⟨some "\",\\\x00\n😀".toList, none, some [], none, some 255, [⟨none, []⟩]⟩ ∧
      (run ["report".toList] ⟨"Rating: 7/10".toList.utf8Encode, fun _ => none⟩).exitCode = 0 ∧
      restore? (run ["report".toList] ⟨"Rating: 7/10".toList.utf8Encode, fun _ => none⟩).output =
        some { rating := some 7 } := by
  have parsed : Invocation.ofArguments? ["report".toList] = some ⟨none, none, .report .json⟩ := by
    decide +kernel
  have read : Report.read "Rating: 7/10".toList = { rating := some 7 } := by
    decide +kernel
  obtain ⟨ends, shown⟩ := restore?_store.2 ["report".toList]
    ⟨"Rating: 7/10".toList.utf8Encode, fun _ => none⟩ _ _ "Rating: 7/10".toList parsed rfl
    (.standard rfl) (.standard rfl rfl)
  rw [read] at shown
  exact ⟨restore?_store.1 _, ends, shown⟩

end Report

end SnippetCost
