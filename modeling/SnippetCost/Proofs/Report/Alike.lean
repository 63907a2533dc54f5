import SnippetCost.Proofs.Report.Shown
import SnippetCost.Proofs.Text.Number

/-!
# A written report tells what is in the report

Two reports are written the same exactly when they are shown alike. The fields are read back from what
is written; behind them each block of code ends at the first tag that closes code, as highlighted code
has no such tag in it, whatever the code imitates.

That one block is told from what follows it is `writeAll_blockMarkup_inj`, and from it all blocks are,
`writeAll_blocks_eq_iff`. The main result is `write_eq_write_iff`.
-/

namespace SnippetCost

open Markup Text

variable {classLead : Text}

namespace Text

/-- Different numbers have different numerals. -/
lemma ofNat_inj {m n : Nat} (h : ofNat m = ofNat n) : m = n := by
  have digits := congrArg (digits? 10) h
  rwa [digits?_ofNat, digits?_ofNat, Option.some_inj] at digits

end Text

namespace Markup

variable {tag : Tag} {a b : Option Text} {u v : Text}

/-- The class of an opening tag can be told from the tag. -/
lemma openTag_inj (h : openTag tag a = openTag tag b) : a = b := by
  cases a <;> cases b <;> simp_all [openTag]

/-- The class of an element can be told from what stands behind its tag. -/
lemma openTag_append_inj (ha : isSafeClass a) (hb : isSafeClass b)
    (e : openTag tag a ++ u = openTag tag b ++ v) : a = b ∧ u = v := by
  obtain ⟨s, hs, noS⟩ := exists_openTag_append tag ha
  obtain ⟨t, ht, noT⟩ := exists_openTag_append tag hb
  rw [hs, ht, List.append_assoc, List.append_assoc] at e
  obtain ⟨same, behind⟩ :=
    (passes_of_notMem noS).append_inj (List.cons_ne_nil _ _) (passes_of_notMem noT) e
  have opening : openTag tag a = openTag tag b := by
    rw [hs, ht, same]
  exact ⟨openTag_inj opening, behind⟩

end Markup

namespace Highlight

/-- Snippets that are highlighted alike are the same. -/
lemma write_inj (lead : classLead.all isClassValueChar) {s t : Text}
    (h : write classLead s = write classLead t) : s = t := by
  have quote : '"' ∉ classLead := by
    intro mem
    cases List.all_eq_true.1 lead '"' mem
  apply escape_inj
  rw [← stripMarks_write quote s, h, stripMarks_write quote]

/-- Highlighted code ends at the first tag that closes code. -/
lemma write_append_inj (lead : classLead.all isClassValueChar) {s t u v : Text}
    (e : write classLead s ++ (closeTag .code ++ u) = write classLead t ++ (closeTag .code ++ v)) :
    s = t ∧ u = v := by
  have passed (t : Text) : Passes (closeTag .code) (write classLead t) :=
    passes_write lead (fun _ safe => passes_openTag safe fun _ => rfl)
      (passes_closeTag fun _ => rfl) t
  have ne : closeTag .code ≠ [] := List.cons_ne_nil _ _
  obtain ⟨code, behind⟩ := (passed s).append_inj ne (passed t) e
  exact ⟨write_inj lead code, behind⟩

end Highlight

namespace Report

variable {r r' : Report} {b b' : CodeBlock} {bs bs' : List CodeBlock} {u v : Text}

/-- Languages have the same class exactly if the same characters of them can stand in one. -/
lemma languageClass?_eq_iff {l l' : Option Text} : languageClass? l = languageClass? l' ↔
    (l.getD []).filter isLanguageChar = (l'.getD []).filter isLanguageChar := by
  rw [languageClass?, languageClass?]
  generalize (l.getD []).filter isLanguageChar = kept
  generalize (l'.getD []).filter isLanguageChar = kept'
  cases kept <;> cases kept' <;> simp

/-- A block is written as its code between its tags. -/
lemma writeAll_blockMarkup (classLead : Text) (b : CodeBlock) :
    writeAll (blockMarkup classLead b) = openTag .block none ++
      (openTag .code (languageClass? b.language) ++ (Highlight.write classLead b.code ++
        (closeTag .code ++ (closeTag .block ++ lineEnd.write)))) := by
  simp [blockMarkup, writeAll, Markup.write, Highlight.write]

/-- Blocks that are shown alike are written alike. -/
lemma writeAll_blockMarkup_congr (h : b.ShownAlike b') :
    writeAll (blockMarkup classLead b) = writeAll (blockMarkup classLead b') := by
  rw [writeAll_blockMarkup, writeAll_blockMarkup, languageClass?_eq_iff.2 h.language, h.code]

/-- A block can be told from what stands behind it, as far as it is shown. -/
lemma writeAll_blockMarkup_inj (lead : classLead.all isClassValueChar)
    (e : writeAll (blockMarkup classLead b) ++ u = writeAll (blockMarkup classLead b') ++ v) :
    b.ShownAlike b' ∧ u = v := by
  simp only [writeAll_blockMarkup, List.append_assoc] at e
  obtain ⟨language, e⟩ := openTag_append_inj (isSafeClass_languageClass? _)
    (isSafeClass_languageClass? _) (List.append_cancel_left e)
  obtain ⟨code, e⟩ := Highlight.write_append_inj lead e
  have behind := List.append_cancel_left (List.append_cancel_left e)
  exact ⟨⟨code, languageClass?_eq_iff.1 language⟩, behind⟩

/-- Blocks are written alike exactly if each is shown like its counterpart. -/
lemma writeAll_blocks_eq_iff (lead : classLead.all isClassValueChar) :
    writeAll (bs.flatMap (blockMarkup classLead)) = writeAll (bs'.flatMap (blockMarkup classLead)) ↔
      List.Forall₂ CodeBlock.ShownAlike bs bs' := by
  induction bs generalizing bs' with
  | nil =>
    cases bs' with
    | nil => exact iff_of_true rfl .nil
    | cons b' bs' =>
      rw [List.flatMap_cons, writeAll_append, writeAll_blockMarkup]
      refine iff_of_false ?_ ?_ <;> rintro ⟨⟩
  | cons b bs ih =>
    cases bs' with
    | nil =>
      rw [List.flatMap_cons, writeAll_append, writeAll_blockMarkup]
      refine iff_of_false ?_ ?_ <;> rintro ⟨⟩
    | cons b' bs' =>
      rw [List.flatMap_cons, List.flatMap_cons, writeAll_append, writeAll_append,
        List.forall₂_cons, ← ih]
      constructor
      · exact writeAll_blockMarkup_inj lead
      · rintro ⟨first, rest⟩
        rw [writeAll_blockMarkup_congr first, rest]

/-- All fields are shown alike exactly if their texts and the rating are the same. -/
lemma shownText?_eq_iff : (∀ f, r.shownText? f = r'.shownText? f) ↔
    (∀ f, r.text? f = r'.text? f) ∧ r.rating = r'.rating := by
  constructor
  · intro same
    constructor
    · intro f
      by_cases rating : f = .rating
      · rw [rating]
        rfl
      · rw [← shownText?_of_ne rating, ← shownText?_of_ne rating, same]
    · refine Option.map_injective ?_ (same .rating)
      intro score score' h
      have digits := List.append_cancel_right h
      exact UInt8.toNat_inj.1 (ofNat_inj digits)
  · rintro ⟨text, rating⟩ f
    by_cases own : f = .rating
    · rw [own, shownText?, shownText?, rating]
    · rw [shownText?_of_ne own, shownText?_of_ne own, text]

/-- The markup of the fields depends on their texts and the rating only. -/
lemma fieldsMarkup_congr (text : ∀ f, r.text? f = r'.text? f) (rating : r.rating = r'.rating) :
    r.fieldsMarkup = r'.fieldsMarkup := by
  have shown := shownText?_eq_iff.2 ⟨text, rating⟩
  have same : r.fieldMarkup = r'.fieldMarkup := by
    funext f
    rw [fieldMarkup, fieldMarkup, shown]
  have fields : r.hasFields = r'.hasFields := by
    simp only [hasFields, text, rating]
  rw [fieldsMarkup, fieldsMarkup, fields, same]

/-- Two reports are written the same exactly when they are shown alike, whatever their texts imitate
of the markup around them. -/
theorem write_eq_write_iff (s : HighlightSettings) (sound : s.fault? = none) (r r' : Report) :
    r.write s.classLead = r'.write s.classLead ↔ r.ShownAlike r' := by
  have lead := HighlightSettings.all_isClassValueChar sound
  constructor
  · intro e
    have shown f : r.shownText? f = r'.shownText? f := by
      rw [← shownValue?_write lead, e, shownValue?_write lead]
    obtain ⟨text, rating⟩ := shownText?_eq_iff.1 shown
    rw [write_eq, write_eq, fieldsMarkup_congr text rating] at e
    have behind := List.append_cancel_left (List.append_cancel_left e)
    have blocks := (writeAll_blocks_eq_iff lead).1 (List.append_cancel_right behind)
    exact ⟨text, rating, blocks⟩
  · intro alike
    rw [write_eq, write_eq, fieldsMarkup_congr alike.text alike.rating,
      (writeAll_blocks_eq_iff lead).2 alike.blocks]

/-- A report with a block of code that imitates the end of its block. -/
def imitating (bottleneck : Option Text) (language : Text) : Report where
  bottleneck := bottleneck
  blocks := [⟨some language, "</code></pre>\n</section>".toList⟩]

/-- What the class of a language leaves out cannot be told, and whether a text is empty or missing
can. -/
theorem write_eq_write_iff_imitating :
    HighlightSettings.fault? ⟨"tok-".toList⟩ = none ∧
      (imitating none "c++ \"x".toList).write "tok-".toList =
        (imitating none "c++x".toList).write "tok-".toList ∧
      (imitating none "py".toList).write "tok-".toList ≠
        (imitating (some []) "py".toList).write "tok-".toList := by
  have sound : HighlightSettings.fault? ⟨"tok-".toList⟩ = none := by decide
  refine ⟨sound, ?_, ?_⟩
  · apply (write_eq_write_iff ⟨"tok-".toList⟩ sound _ _).2
    exact ⟨fun f => by cases f <;> rfl, rfl, .cons ⟨rfl, by decide⟩ .nil⟩
  · intro same
    have alike := (write_eq_write_iff ⟨"tok-".toList⟩ sound _ _).1 same
    cases alike.text .bottleneck

end Report

end SnippetCost
