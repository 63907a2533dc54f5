import SnippetCost.Report.Display
import SnippetCost.Proofs.Markup.Fragment
import SnippetCost.Proofs.Markup.Stripping

/-!
# Written reports are fragments

Whatever a report says in its fields, its code and its languages, what is written of it is a fragment
of markup: nothing that it says is taken for a tag or an entity, and no element is left open.

The classes of the parts of a report are safe (`hasSafeClasses_ofToken`, `isSafeClass_languageClass?`,
`isSafeClass_bandClass?`), and so are those of the whole, `haveSafeClasses_markup`. The main result is
`fragment_write`.
-/

namespace SnippetCost

open Markup

namespace HighlightSettings

/-- A sound prefix can stand in a class. -/
lemma all_isClassValueChar {s : HighlightSettings} (sound : s.fault? = none) :
    s.classLead.all isClassValueChar := by
  rw [List.all_eq_true]
  intro c mem
  have name : isClassChar c := isClassChar_of_mem sound c mem
  rw [isClassValueChar, Bool.or_eq_true]
  exact .inl name

end HighlightSettings

namespace Highlight

variable {classLead : Text}

/-- The class of a kind can stand in a class. -/
lemma all_isClassValueChar_of_cssClass? {k : TokenKind} {name : String}
    (h : k.cssClass? = some name) : name.toList.all isClassValueChar := by
  cases k with
  | plain => cases h
  | keyword | builtin | string | number | comment =>
    cases h
    rw [TokenKind.name]
    decide

/-- The markup of a token has a safe class. -/
lemma hasSafeClasses_ofToken (lead : classLead.all isClassValueChar) (token : Token) :
    (ofToken classLead token).HasSafeClasses := by
  rw [ofToken]
  cases kind : token.kind.cssClass? with
  | none => trivial
  | some name =>
    refine ⟨?_, trivial, trivial⟩
    rw [isSafeClass, Option.all_some, List.all_append, lead, Bool.true_and]
    exact all_isClassValueChar_of_cssClass? kind

/-- The markup of a snippet has safe classes. -/
lemma haveSafeClasses_ofText (lead : classLead.all isClassValueChar) (t : Text) :
    HaveSafeClasses (ofText classLead t) := by
  rw [haveSafeClasses_iff]
  intro piece mem
  obtain ⟨token, -, rfl⟩ := List.mem_map.1 mem
  exact hasSafeClasses_ofToken lead token

end Highlight

namespace Report

variable {classLead : Text}

/-- A language leaves only safe characters in the class of its block. -/
lemma isSafeClass_languageClass? (language : Option Text) :
    isSafeClass (languageClass? language) := by
  rw [languageClass?]
  split
  · rfl
  · next kept h =>
    have lead : "language-".toList.all isClassValueChar := by decide
    rw [isSafeClass, Option.all_some, List.all_append, lead, Bool.true_and, List.all_eq_true]
    intro c mem
    exact (List.mem_filter.1 mem).2

/-- The class of a band is safe. -/
lemma isSafeClass_cssClass (b : Band) : isSafeClass (some b.cssClass.toList) := by
  cases b <;> decide

/-- The class of a field's value is safe. -/
lemma isSafeClass_bandClass? (f : Field) (value : Text) : isSafeClass (bandClass? f value) := by
  cases f with
  | timeComplexity | spaceComplexity => exact isSafeClass_cssClass _
  | bottleneck | optimization | rating => rfl

/-- The markup of a field has safe classes. -/
lemma haveSafeClasses_fieldMarkup (r : Report) (f : Field) :
    HaveSafeClasses (r.fieldMarkup f) := by
  rw [fieldMarkup]
  cases r.shownText? f with
  | none => trivial
  | some value =>
    have name : HasSafeClasses (.element .fieldName none [.text f.label.toList]) :=
      ⟨rfl, trivial, trivial⟩
    have shown : HasSafeClasses (.element .fieldValue (bandClass? f value) [.text value]) :=
      ⟨isSafeClass_bandClass? f value, trivial, trivial⟩
    exact ⟨name, shown, trivial, trivial⟩

/-- The markup of all fields has safe classes. -/
lemma haveSafeClasses_fieldsMarkup (r : Report) : HaveSafeClasses r.fieldsMarkup := by
  have fields : HaveSafeClasses (Field.all.flatMap r.fieldMarkup) := by
    rw [haveSafeClasses_iff, List.forall_mem_flatMap]
    intro f _
    exact haveSafeClasses_iff.1 (haveSafeClasses_fieldMarkup r f)
  rw [fieldsMarkup]
  split
  · exact ⟨⟨rfl, trivial, fields⟩, trivial, trivial⟩
  · trivial

/-- The markup of a block has safe classes. -/
lemma haveSafeClasses_blockMarkup (lead : classLead.all isClassValueChar) (b : CodeBlock) :
    HaveSafeClasses (blockMarkup classLead b) := by
  have code : HasSafeClasses (.element .code (languageClass? b.language)
      (Highlight.ofText classLead b.code)) :=
    ⟨isSafeClass_languageClass? b.language, Highlight.haveSafeClasses_ofText lead b.code⟩
  exact ⟨⟨rfl, code, trivial⟩, trivial, trivial⟩

/-- The markup of a report has safe classes. -/
lemma haveSafeClasses_markup (lead : classLead.all isClassValueChar) (r : Report) :
    HaveSafeClasses (markup classLead r) := by
  have content : HaveSafeClasses
      (lineEnd :: r.fieldsMarkup ++ r.blocks.flatMap (blockMarkup classLead)) := by
    rw [haveSafeClasses_iff, List.cons_append, List.forall_mem_cons, List.forall_mem_append,
      List.forall_mem_flatMap]
    refine ⟨trivial, haveSafeClasses_iff.1 r.haveSafeClasses_fieldsMarkup, ?_⟩
    intro b _
    exact haveSafeClasses_iff.1 (haveSafeClasses_blockMarkup lead b)
  exact ⟨⟨by decide, content⟩, trivial, trivial⟩

/-- A written report is a fragment, so that every angle that opens something in it opens a tag of the
report itself, and every ampersand begins an entity. -/
theorem fragment_write (s : HighlightSettings) (sound : s.fault? = none) (r : Report) :
    Fragment [] (r.write s.classLead) ∧
      (∀ u v, r.write s.classLead = u ++ '<' :: v → BeginsTag ('<' :: v)) ∧
      ∀ u v, r.write s.classLead = u ++ '&' :: v → BeginsEntity ('&' :: v) := by
  have fragment : Fragment [] (r.write s.classLead) :=
    fragment_writeAll (r.haveSafeClasses_markup (HighlightSettings.all_isClassValueChar sound))
  refine ⟨fragment, ?_, ?_⟩
  · intro u v e
    exact fragment.beginsTag e
  · intro u v e
    exact fragment.beginsEntity e

/-- A report that tries to break out of every place that it is shown in. -/
def hostile : Report where
  timeComplexity := some "</dd><script>".toList
  bottleneck := some "&nbsp;\"".toList
  rating := some 200
  blocks := [⟨some "py\" onload=\"x".toList, "in </code></pre> '<b>".toList⟩]

/-- A report that looks like markup is written as a fragment too. -/
theorem fragment_write_hostile :
    HighlightSettings.fault? ⟨"tok-".toList⟩ = none ∧ Fragment [] (hostile.write "tok-".toList) ∧
      (∃ u v, hostile.write "tok-".toList = u ++ '<' :: v ∧ BeginsTag ('<' :: v)) ∧
      ∃ u v, hostile.write "tok-".toList = u ++ '&' :: v ∧ BeginsEntity ('&' :: v) := by
  have sound : HighlightSettings.fault? ⟨"tok-".toList⟩ = none := by decide
  obtain ⟨fragment, tags, entities⟩ := fragment_write ⟨"tok-".toList⟩ sound hostile
  have ampersand : '&' ∈ hostile.write "tok-".toList := by decide +kernel
  obtain ⟨u, v, e⟩ := List.append_of_mem ampersand
  exact ⟨sound, fragment, ⟨[], _, rfl, tags [] _ rfl⟩, u, v, e, entities u v e⟩

end Report

end SnippetCost
