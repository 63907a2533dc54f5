import SnippetCost.Report.Basic
import SnippetCost.Report.Rating
import SnippetCost.Markup.Highlight

/-!
# Showing a report

A report is shown as a list of its fields and its blocks of code. The values of the two fields on
growth have the colour of their band, and code is highlighted. The tree of a report is `Report.markup`,
and `Report.write` writes it.
-/

namespace SnippetCost.Report

/-- The characters of a language that its class keeps. -/
def isLanguageChar (c : Char) : Bool :=
  isAsciiAlphanumeric c || c = '-' || c = '_' || c = '+'

/-- The class of a block in a language, if the language has a character to keep. -/
def languageClass? (language : Option Text) : Option Text :=
  match (language.getD []).filter isLanguageChar with
  | [] => none
  | kept => some ("language-".toList ++ kept)

/-- The line feed that ends a written line. -/
def lineEnd : Markup :=
  .text ['\n']

/-- The value of a field as text: the rating is out of the best score. -/
def shownText? (r : Report) : Field → Option Text
  | .rating => r.rating.map fun score =>
      Text.ofNat score.toNat ++ '/' :: Text.ofNat Rating.best
  | f => r.text? f

/-- The class of the value of a field: a field on growth has that of its band. -/
def bandClass? (f : Field) (value : Text) : Option Text :=
  match f with
  | .timeComplexity | .spaceComplexity => some (Band.ofText value).cssClass.toList
  | .bottleneck | .optimization | .rating => none

/-- A field as it is shown, if the report has it. -/
def fieldMarkup (r : Report) (f : Field) : List Markup :=
  match r.shownText? f with
  | some value =>
    [.element .fieldName none [.text f.label.toList],
      .element .fieldValue (bandClass? f value) [.text value], lineEnd]
  | none => []

/-- A block of code as it is shown. -/
def blockMarkup (classLead : Text) (b : CodeBlock) : List Markup :=
  [.element .block none
      [.element .code (languageClass? b.language) (Highlight.ofText classLead b.code)],
    lineEnd]

/-- The fields as they are shown, if the report has any. -/
def fieldsMarkup (r : Report) : List Markup :=
  if r.hasFields then
    [.element .fields none (lineEnd :: Field.all.flatMap r.fieldMarkup), lineEnd]
  else []

/-- A report as it is shown. -/
def markup (classLead : Text) (r : Report) : List Markup :=
  [.element .report (some "analysis-report".toList)
      (lineEnd :: r.fieldsMarkup ++ r.blocks.flatMap (blockMarkup classLead)),
    lineEnd]

/-- A report as it is written. -/
def write (classLead : Text) (r : Report) : Text :=
  Markup.writeAll (markup classLead r)

end SnippetCost.Report
