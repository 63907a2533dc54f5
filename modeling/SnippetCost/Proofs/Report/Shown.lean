import SnippetCost.Report.Shown
import SnippetCost.Proofs.Report.Fragment
import SnippetCost.Proofs.Text.Search

/-!
# Fields are read back from a written report

A search for the name of a field passes everything else that is written of a report, whatever its
texts imitate. So the value of the field is read back, with the class that it is shown with.

The notion is `Text.Passes`. The search passes whatever stands in front of a field, and passes a whole
report without it, `passes_name_write`; so `exists_behindFirst?_write` finds the value. The main
results are `shownValue?_write` and `shownClass?_write`.
-/

namespace SnippetCost

open Markup Text

namespace Markup

variable {needle : Text} {tag : Tag} {cssClass : Option Text}

/-- A search for a tag passes escaped text. -/
lemma passes_escape (t : Text) : Passes ('<' :: needle) (escape t) :=
  passes_of_notMem (isEscaped_escape t).noLess

/-- A search for a tag passes an opening tag that is another one. -/
lemma passes_openTag (safe : isSafeClass cssClass)
    (apart : ∀ t, dropLead? ('<' :: needle) (openTag tag cssClass ++ t) = none) :
    Passes ('<' :: needle) (openTag tag cssClass) := by
  obtain ⟨behind, shape, less, -⟩ := exists_openTag_eq tag safe
  rw [shape] at apart ⊢
  exact .cons apart (passes_of_notMem less)

/-- A search for a tag passes a closing tag that is another one. -/
lemma passes_closeTag (apart : ∀ t, dropLead? ('<' :: needle) (closeTag tag ++ t) = none) :
    Passes ('<' :: needle) (closeTag tag) := by
  obtain ⟨behind, shape, less, -⟩ := exists_closeTag_eq tag
  rw [shape] at apart ⊢
  exact .cons apart (passes_of_notMem less)

/-- An opening tag has one angle at its end. -/
lemma exists_openTag_append (tag : Tag) (safe : isSafeClass cssClass) :
    ∃ body, openTag tag cssClass = body ++ ['>'] ∧ '>' ∉ body := by
  refine ⟨_, rfl, ?_⟩
  cases cssClass with
  | none => cases tag <;> simp [Tag.name]
  | some value =>
    have greater : '>' ∉ value := by
      intro mem
      cases List.all_eq_true.1 safe '>' mem
    cases tag <;> simp [Tag.name, greater]

/-- A search passes trees if it passes each of them. -/
lemma passes_writeAll {pieces : List Markup} (h : ∀ m ∈ pieces, Passes needle m.write) :
    Passes needle (writeAll pieces) := by
  induction pieces with
  | nil => exact .nil
  | cons m pieces ih =>
    obtain ⟨hm, hp⟩ := List.forall_mem_cons.1 h
    exact hm.append (ih hp)

/-- A search passes the trees of several things if it passes those of each. -/
lemma passes_writeAll_flatMap {α : Type} {pieces : α → List Markup} {as : List α}
    (h : ∀ a ∈ as, Passes needle (writeAll (pieces a))) :
    Passes needle (writeAll (as.flatMap pieces)) := by
  induction as with
  | nil => exact .nil
  | cons a as ih =>
    obtain ⟨ha, has⟩ := List.forall_mem_cons.1 h
    rw [List.flatMap_cons, writeAll_append]
    exact ha.append (ih has)

end Markup

namespace Highlight

variable {needle classLead : Text}

/-- A search passes highlighted code if it passes the tags of its marks. -/
lemma passes_write (lead : classLead.all isClassValueChar)
    (opening : ∀ cssClass, isSafeClass cssClass → Passes ('<' :: needle) (openTag .mark cssClass))
    (closing : Passes ('<' :: needle) (closeTag .mark)) (t : Text) :
    Passes ('<' :: needle) (write classLead t) := by
  apply passes_writeAll
  intro m mem
  obtain ⟨token, -, rfl⟩ := List.mem_map.1 mem
  have safe := hasSafeClasses_ofToken lead token
  rw [ofToken] at safe ⊢
  cases kind : token.kind.cssClass? with
  | none => exact passes_escape token.text
  | some name =>
    rw [kind] at safe
    have text : Passes ('<' :: needle) (escape token.text) := passes_escape _
    exact ((opening _ safe.1).append (text.append .nil)).append closing

end Highlight

/-- No class of a band has a quote in it. -/
lemma Band.quote_notMem_cssClass (b : Band) : '"' ∉ b.cssClass.toList := by
  cases b <;> decide

/-- Every field is in the list of them all. -/
lemma Field.mem_all (f : Field) : f ∈ Field.all := by
  cases f <;> decide

namespace Report

variable {classLead value : Text} {r : Report} {f g : Field}

/-- A search for the name of a field passes the opening tags of other elements. -/
lemma passes_name_openTag (f : Field) {tag : Tag} (ne : tag ≠ .fieldName) {cssClass : Option Text}
    (safe : isSafeClass cssClass) : Passes (shownName f) (openTag tag cssClass) := by
  apply passes_openTag safe
  intro t
  -- no other name of an element begins with the letters of this one
  cases tag with
  | fieldName => exact absurd rfl ne
  | _ => rfl

/-- A search for the name of a field passes closing tags. -/
lemma passes_name_closeTag (f : Field) (tag : Tag) : Passes (shownName f) (closeTag tag) :=
  passes_closeTag fun _ => rfl

/-- A search for the name of a field passes the end of a line. -/
lemma passes_name_lineEnd (f : Field) : Passes (shownName f) lineEnd.write :=
  passes_escape ['\n']

/-- No label has to be escaped. -/
lemma escape_label (f : Field) : escape f.label.toList = f.label.toList := by
  cases f <;> rfl

/-- A search for the name of a field passes the names of the others. -/
lemma passes_name_label (ne : g ≠ f) :
    Passes (shownName f) (openTag .fieldName none ++ escape g.label.toList) := by
  have shape : openTag .fieldName none ++ escape g.label.toList =
      '<' :: ("dt>".toList ++ g.label.toList) := by
    rw [escape_label]
    rfl
  have less : '<' ∉ "dt>".toList ++ g.label.toList := by
    cases g <;> decide
  rw [shape]
  refine .cons (fun t => ?_) (passes_of_notMem less)
  cases f <;> cases g <;> first | exact absurd rfl ne | rfl

/-- A search for the name of a field passes the other fields, and a field that is not there. -/
lemma passes_name_fieldMarkup (other : g ≠ f ∨ r.shownText? g = none) :
    Passes (shownName f) (writeAll (r.fieldMarkup g)) := by
  rw [fieldMarkup]
  cases shown : r.shownText? g with
  | none => exact .nil
  | some value =>
    have ne : g ≠ f := by
      rcases other with ne | missing
      · exact ne
      · rw [missing] at shown
        cases shown
    have noName : Tag.fieldValue ≠ .fieldName := by decide
    have name := (passes_name_label ne).append (passes_name_closeTag f .fieldName)
    have said := ((passes_name_openTag f noName (isSafeClass_bandClass? g value)).append
      (passes_escape value)).append (passes_name_closeTag f .fieldValue)
    have written := name.append (said.append (passes_name_lineEnd f))
    simpa [writeAll, Markup.write] using written

/-- A search for the name of a field passes blocks of code. -/
lemma passes_name_blockMarkup (lead : classLead.all isClassValueChar) (f : Field) (b : CodeBlock) :
    Passes (shownName f) (writeAll (blockMarkup classLead b)) := by
  have noBlock : Tag.block ≠ .fieldName := by decide
  have noCode : Tag.code ≠ .fieldName := by decide
  have noMark : Tag.mark ≠ .fieldName := by decide
  have plain : isSafeClass none := rfl
  have code := Highlight.passes_write lead (fun _ => passes_name_openTag f noMark)
    (passes_name_closeTag f .mark) b.code
  have shown := ((passes_name_openTag f noCode (isSafeClass_languageClass? b.language)).append
    code).append (passes_name_closeTag f .code)
  have written := (((passes_name_openTag f noBlock plain).append shown).append
    (passes_name_closeTag f .block)).append (passes_name_lineEnd f)
  simpa [blockMarkup, writeAll, Markup.write, Highlight.write] using written

/-- Every field but the rating is shown by its text. -/
lemma shownText?_of_ne (h : f ≠ .rating) (r : Report) : r.shownText? f = r.text? f := by
  cases f with
  | rating => exact absurd rfl h
  | _ => rfl

/-- A report with a field that is shown has fields. -/
lemma hasFields_of_shownText? (h : r.shownText? f = some value) : r.hasFields := by
  rw [hasFields, Bool.or_eq_true]
  by_cases rating : f = .rating
  · right
    rw [rating, shownText?, Option.map_eq_some_iff] at h
    obtain ⟨score, given, -⟩ := h
    rw [given, Option.isSome_some]
  · left
    rw [shownText?_of_ne rating] at h
    refine List.any_eq_true.2 ⟨f, f.mem_all, ?_⟩
    rw [h, Option.isSome_some]

/-- A written report has its fields in front of its blocks. -/
lemma write_eq (classLead : Text) (r : Report) :
    r.write classLead = (openTag .report (some "analysis-report".toList) ++ lineEnd.write) ++
      (writeAll r.fieldsMarkup ++ (writeAll (r.blocks.flatMap (blockMarkup classLead)) ++
        (closeTag .report ++ lineEnd.write))) := by
  simp [Report.write, markup, writeAll, writeAll_append, Markup.write]

/-- A search for the name of a field passes the beginning of a report. -/
lemma passes_name_start (f : Field) :
    Passes (shownName f) (openTag .report (some "analysis-report".toList) ++ lineEnd.write) := by
  have noReport : Tag.report ≠ .fieldName := by decide
  have safe : isSafeClass (some "analysis-report".toList) := by decide
  exact (passes_name_openTag f noReport safe).append (passes_name_lineEnd f)

/-- A search for the name of a field passes the beginning of the fields. -/
lemma passes_name_fields (f : Field) :
    Passes (shownName f) (openTag .fields none ++ lineEnd.write) := by
  have noFields : Tag.fields ≠ .fieldName := by decide
  exact (passes_name_openTag f noFields rfl).append (passes_name_lineEnd f)

/-- A search for a field that the report has not passes the whole report. -/
lemma passes_name_write (lead : classLead.all isClassValueChar) (missing : r.shownText? f = none) :
    Passes (shownName f) (r.write classLead) := by
  have fields : Passes (shownName f) (writeAll r.fieldsMarkup) := by
    rw [fieldsMarkup]
    split
    · have entries : Passes (shownName f) (writeAll (Field.all.flatMap r.fieldMarkup)) := by
        apply passes_writeAll_flatMap
        intro g _
        apply passes_name_fieldMarkup
        by_cases own : g = f
        · exact .inr (own ▸ missing)
        · exact .inl own
      have written := (((passes_name_fields f).append entries).append
        (passes_name_closeTag f .fields)).append (passes_name_lineEnd f)
      simpa [writeAll, Markup.write] using written
    · exact .nil
  have blocks := passes_writeAll_flatMap fun b (_ : b ∈ r.blocks) => passes_name_blockMarkup lead f b
  rw [write_eq]
  exact (passes_name_start f).append (fields.append (blocks.append
    ((passes_name_closeTag f .report).append (passes_name_lineEnd f))))

/-- A field is written as its name and its value between their tags. -/
lemma writeAll_fieldMarkup (shown : r.shownText? f = some value) :
    writeAll (r.fieldMarkup f) = shownName f ++ (openTag .fieldValue (bandClass? f value) ++
      (escape value ++ (closeTag .fieldValue ++ lineEnd.write))) := by
  have opening : openTag .fieldName none = "<dt>".toList := rfl
  have closing : closeTag .fieldName = "</dt>".toList := rfl
  rw [fieldMarkup, shown, shownName]
  simp only [writeAll, Markup.write, escape_label, opening, closing, List.append_assoc,
    List.append_nil]

/-- A search for a field that the report has passes what is written in front of the field. -/
lemma exists_write_eq (shown : r.shownText? f = some value) (classLead : Text) :
    ∃ u v, r.write classLead = u ++ (writeAll (r.fieldMarkup f) ++ v) ∧ Passes (shownName f) u := by
  obtain ⟨before, behind, all, first⟩ := List.eq_append_cons_of_mem f.mem_all
  have earlier : Passes (shownName f) (writeAll (before.flatMap r.fieldMarkup)) := by
    apply passes_writeAll_flatMap
    intro g mem
    refine passes_name_fieldMarkup (.inl ?_)
    rintro rfl
    exact first mem
  have passed := ((passes_name_start f).append (passes_name_fields f)).append earlier
  refine ⟨_, writeAll (behind.flatMap r.fieldMarkup) ++ (closeTag .fields ++ (lineEnd.write ++
    (writeAll (r.blocks.flatMap (blockMarkup classLead)) ++
      (closeTag .report ++ lineEnd.write)))), ?_, passed⟩
  rw [write_eq, fieldsMarkup, if_pos (hasFields_of_shownText? shown), all]
  simp [writeAll, writeAll_append, Markup.write]

/-- Behind the first name of a field that the report has stands its value. -/
lemma exists_behindFirst?_write (shown : r.shownText? f = some value) (classLead : Text) :
    ∃ v, behindFirst? (shownName f) (r.write classLead) =
      some (openTag .fieldValue (bandClass? f value) ++ (escape value ++ '<' :: v)) := by
  obtain ⟨u, v, written, passed⟩ := exists_write_eq shown classLead
  obtain ⟨close, shape, -⟩ := exists_closeTag_eq .fieldValue
  have ne : shownName f ≠ [] := List.cons_ne_nil _ _
  refine ⟨close ++ (lineEnd.write ++ v), ?_⟩
  rw [written, passed, writeAll_fieldMarkup shown, List.append_assoc, behindFirst?_append ne, shape]
  simp only [List.append_assoc, List.cons_append]

/-- A field is read back from what is written of a report: it has its value there if the report has it,
and is missing there if the report has it not. -/
lemma shownValue?_write (lead : classLead.all isClassValueChar) (r : Report) (f : Field) :
    shownValue? f (r.write classLead) = r.shownText? f := by
  rw [shownValue?]
  cases shown : r.shownText? f with
  | none =>
    have ne : shownName f ≠ [] := List.cons_ne_nil _ _
    rw [(passes_name_write lead shown).behindFirst?_eq_none ne]
    rfl
  | some value =>
    obtain ⟨v, behind⟩ := exists_behindFirst?_write shown classLead
    obtain ⟨body, shape, inner⟩ := exists_openTag_append .fieldValue (isSafeClass_bandClass? f value)
    rw [behind, shape, List.append_assoc, List.singleton_append, Option.bind_eq_bind,
      Option.bind_some, dropWhile_ne_append inner, dropLead?, if_pos rfl, dropLead?,
      Option.bind_some, takeWhile_ne_append (isEscaped_escape value).noLess, unescape_escape]
    rfl

/-- The class that a field on growth is shown with is that of the band of its text. -/
lemma shownClass?_write (growth : f = .timeComplexity ∨ f = .spaceComplexity)
    (present : r.text? f = some value) (classLead : Text) :
    shownClass? f (r.write classLead) = some (Band.ofText value).cssClass.toList := by
  have textual : f ≠ .rating := by
    rcases growth with rfl | rfl <;> decide
  have band : bandClass? f value = some (Band.ofText value).cssClass.toList := by
    rcases growth with rfl | rfl <;> rfl
  have shown := (shownText?_of_ne textual r).trans present
  obtain ⟨v, behind⟩ := exists_behindFirst?_write shown classLead
  have opening (u : Text) : openTag .fieldValue (bandClass? f value) ++ u =
      "<dd class=\"".toList ++ ((Band.ofText value).cssClass.toList ++ '"' :: '>' :: u) := by
    rw [band]
    simp [openTag, Tag.name]
  rw [shownClass?, behind, opening, Option.bind_eq_bind, Option.bind_some, dropLead?_append,
    Option.bind_some, takeWhile_ne_append (Band.quote_notMem_cssClass _)]
  rfl

end Report

end SnippetCost
