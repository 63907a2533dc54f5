import SnippetCost.Proofs.Report.FieldCut
import SnippetCost.Proofs.Report.Region
import SnippetCost.Proofs.Text.Lines

/-!
# Fields without decoration

A label in any ASCII case, a colon, a space and a value are a report of one field. The value stands as
it is unless it begins with two underscores: they are taken for the end of an emphasis around the
label, though none begins in front of it.

`read?_of_casing` reads such a line, `feed_of_casing` follows it through a reading, and
`read_of_casing` gives the report in both cases. The main result is `read_undecorated`.
-/

namespace SnippetCost

variable {l v t : Text} {c : Char} {f : Field}

namespace Field

/-- The field of a label does not depend on ASCII case. -/
lemma plainLabel_map_asciiLower (t : Text) : plainLabel (t.map asciiLower) = plainLabel t := by
  have filled : (fun piece : Text => decide (piece ≠ [])) ∘ List.map asciiLower =
      fun piece => decide (piece ≠ []) := by
    funext piece
    simp
  rw [plainLabel, plainLabel, Text.cutAt_map_asciiLower, List.filter_map, filled,
    Text.joinSpaced_map_asciiLower, Text.map_asciiLower_idem]

/-- A label in any ASCII case stands for its field. -/
lemma ofLabel?_of_casing (casing : l.map asciiLower = f.label.toList.map asciiLower) :
    ofLabel? l = some f := by
  rw [← ofLabel?_label f, ofLabel?, ofLabel?, ← plainLabel_map_asciiLower l, casing,
    plainLabel_map_asciiLower]

end Field

namespace FieldLine

/-- What stands for a letter does not depend on ASCII case. -/
lemma isLetterOf_asciiLower (letter c : Char) :
    isLetterOf letter (asciiLower c) = isLetterOf letter c := by
  have long : asciiLower c = 'ſ' ↔ c = 'ſ' :=
    asciiLower_induction (p := fun c d => d = 'ſ' ↔ c = 'ſ') (by decide +kernel) (fun _ => .rfl) c
  have kelvin : asciiLower c = '\u212a' ↔ c = '\u212a' :=
    asciiLower_induction (p := fun c d => d = '\u212a' ↔ c = '\u212a') (by decide +kernel)
      (fun _ => .rfl) c
  simp only [isLetterOf, asciiLower_asciiLower, long, kelvin]

/-- Two pieces of a text in small letters. -/
def lowerBoth (p : Text × Text) : Text × Text :=
  (p.1.map asciiLower, p.2.map asciiLower)

/-- Cutting off a word does not depend on ASCII case. -/
lemma cutWord?_map_asciiLower (word t : Text) :
    cutWord? word (t.map asciiLower) = (cutWord? word t).map lowerBoth := by
  induction word generalizing t with
  | nil => rfl
  | cons letter word ih =>
    cases t with
    | nil => rfl
    | cons c t =>
      rw [List.map_cons, cutWord?, cutWord?, isLetterOf_asciiLower, ih]
      split
      · cases cutWord? word t <;> rfl
      · rfl

/-- Labels are cut off a text in small letters where they are cut off the text. -/
lemma cutLabel?_map_asciiLower (words : List Text) (t : Text) :
    cutLabel? words (t.map asciiLower) = (cutLabel? words t).map lowerBoth := by
  induction words generalizing t with
  | nil => rfl
  | cons word words ih =>
    cases words with
    | nil => exact cutWord?_map_asciiLower word t
    | cons next words =>
      have behind (p : Text × Text) :
          cutBehind? (next :: words) (lowerBoth p) = (cutBehind? (next :: words) p).map lowerBoth := by
        rw [cutBehind?, cutBehind?, lowerBoth, Text.takeWhile_map_asciiLower,
          Text.trimStart_map_asciiLower, ih]
        simp only [List.map_eq_nil_iff]
        split
        · rfl
        · cases cutLabel? (next :: words) (Text.trimStart p.2) <;> simp [lowerBoth]
      rw [cutLabel?_cons_cons, cutLabel?_cons_cons, cutWord?_map_asciiLower]
      cases cutWord? word t with
      | none => rfl
      | some p => exact behind p

/-- Cutting off a label does not depend on ASCII case. -/
lemma cutAnyLabel?_map_asciiLower (t : Text) :
    cutAnyLabel? (t.map asciiLower) = (cutAnyLabel? t).map lowerBoth := by
  have each : (fun words => cutLabel? words (t.map asciiLower)) =
      Option.map lowerBoth ∘ fun words => cutLabel? words t :=
    funext fun words => cutLabel?_map_asciiLower words t
  rw [cutAnyLabel?, cutAnyLabel?, each, List.map_findSome?]

/-- A label in any ASCII case is cut off in front of a colon. -/
lemma cutAnyLabel?_of_casing (casing : l.map asciiLower = f.label.toList.map asciiLower) (t : Text) :
    cutAnyLabel? (l ++ ':' :: t) = some (l, ':' :: t) := by
  -- in small letters both labels are cut off alike, and what is cut off has the length of the label
  have small : (l ++ ':' :: t).map asciiLower = (f.label.toList ++ ':' :: t).map asciiLower := by
    rw [List.map_append, casing, List.map_append]
  have cut : (cutAnyLabel? (l ++ ':' :: t)).map lowerBoth =
      some (lowerBoth (f.label.toList, ':' :: t)) := by
    rw [← cutAnyLabel?_map_asciiLower, small, cutAnyLabel?_map_asciiLower, cutAnyLabel?_label,
      Option.map_some]
  obtain ⟨p, found, same⟩ := Option.map_eq_some_iff.1 cut
  have label : p.1.map asciiLower = l.map asciiLower := (congrArg Prod.fst same).trans casing.symm
  have length : l.length = p.1.length := by simpa using (congrArg List.length label).symm
  obtain ⟨first, rest⟩ := List.append_inj (cutAnyLabel?_eq_append found) length
  rw [found, first, rest]

/-- Whether a character begins neither a fence nor anything that can stand before a label. -/
def startsLabel (c : Char) : Bool :=
  isUndecorated c && c != '#' && c != '_' && c != '`'

/-- A label in any ASCII case begins with a letter that labels begin with. -/
lemma exists_cons_of_casing (casing : l.map asciiLower = f.label.toList.map asciiLower) :
    ∃ c rest, l = c :: rest ∧ startsLabel c := by
  have all : (f.label.toList.map asciiLower).head?.any fun d => (variants d).all startsLabel := by
    cases f <;> decide
  cases l with
  | nil =>
    rw [← casing] at all
    cases all
  | cons c rest =>
    rw [← casing] at all
    refine ⟨c, rest, rfl, ?_⟩
    exact List.all_eq_true.1 all c (mem_variants_asciiLower c)

/-- Where a label begins there is no decoration. -/
lemma skipDecoration_of_startsLabel (h : startsLabel c) (t : Text) :
    skipDecoration (c :: t) = c :: t := by
  simp only [startsLabel, Bool.and_eq_true, bne_iff_ne] at h
  obtain ⟨⟨⟨plain, sign⟩, underscore⟩, -⟩ := h
  have trimmed : Text.trimStart (c :: t) = c :: t :=
    Text.trimStart_cons_of_not_isBlank (isBlank_of_isUndecorated plain)
  have noHeading : skipHeading 6 (c :: t) = c :: t := by
    rw [skipHeading]
    simpa using sign
  have noBullet : skipBullet (c :: t) = c :: t := by
    rw [skipBullet, afterBullet?_of_isUndecorated plain]
  have noEmphasis : skipEmphasis (c :: t) = c :: t := by
    simp only [isUndecorated, Bool.and_eq_true, bne_iff_ne] at plain
    rw [skipEmphasis]
    · intro rest e
      exact plain.2 (List.cons.inj e).1
    · intro rest e
      exact underscore (List.cons.inj e).1
  rw [skipDecoration, trimmed, noHeading, trimmed, noBullet, noEmphasis, trimmed]

/-- A label in any ASCII case, a colon, a space and a trimmed text are read as a field. -/
lemma read?_of_casing (casing : l.map asciiLower = f.label.toList.map asciiLower)
    (trimmed : Text.trim v = v) : read? (l ++ ':' :: ' ' :: v) = some (l, skipEmphasis v) := by
  obtain ⟨c, rest, rfl, start⟩ := exists_cons_of_casing casing
  rw [read?_eq, List.cons_append, skipDecoration_of_startsLabel start, ← List.cons_append,
    cutAnyLabel?_of_casing casing, Option.bind_some, value?_of_trim trimmed, Option.map_some]

end FieldLine

namespace Reading

/-- A line that begins with a label in any ASCII case is no fence. -/
lemma fenceInfo?_of_casing (casing : l.map asciiLower = f.label.toList.map asciiLower) (t : Text) :
    fenceInfo? (l ++ t) = none := by
  obtain ⟨c, rest, rfl, start⟩ := FieldLine.exists_cons_of_casing casing
  simp only [FieldLine.startsLabel, Bool.and_eq_true, bne_iff_ne] at start
  have solid := FieldLine.isBlank_of_isUndecorated start.1.1.1
  rw [fenceInfo?, List.cons_append, Text.trimStart_cons_of_not_isBlank solid]
  simp [fenceMark, Text.dropLead?, Ne.symm start.2]

/-- The line of a field without decoration is taken as the field. -/
lemma feed_of_casing (casing : l.map asciiLower = f.label.toList.map asciiLower)
    (trimmed : Text.trim v = v) : feed {} (l ++ ':' :: ' ' :: v) =
      takeField {} f (cleanValue (FieldLine.skipEmphasis v)) := by
  show feedProse {} (l ++ ':' :: ' ' :: v) = _
  rw [feedProse, fenceInfo?_of_casing casing]
  dsimp only
  rw [FieldLine.read?_of_casing casing trimmed]
  dsimp only
  rw [Field.ofLabel?_of_casing casing]

/-- A report with one field taken is the report of that field. -/
lemma finish_takeField (text : f ≠ .rating) (t : Text) :
    (takeField {} f t).finish = ({} : Report).setText f (nonEmpty? (some t)) := by
  cases f with
  | rating => exact absurd rfl text
  | timeComplexity | spaceComplexity | bottleneck | optimization => rfl

end Reading

namespace Report

/-- A label in any ASCII case has no line feed in it. -/
lemma notMem_of_casing (casing : l.map asciiLower = f.label.toList.map asciiLower) : '\n' ∉ l := by
  intro mem
  have small := List.mem_map_of_mem (f := asciiLower) mem
  rw [casing] at small
  revert small
  cases f <;> decide

/-- A line of a field without decoration is a report with this field, whose value is cleaned behind a
mark of emphasis. -/
lemma read_of_casing (text : f ≠ .rating)
    (casing : l.map asciiLower = f.label.toList.map asciiLower) (line : IsTrimmedLine v) :
    Report.read (l ++ ": ".toList ++ v) = ({} : Report).setText f
      (nonEmpty? (some (Reading.cleanValue (FieldLine.skipEmphasis v)))) := by
  have shape : l ++ ": ".toList ++ v = l ++ ':' :: ' ' :: v := by simp
  have feed : '\n' ∉ l ++ ':' :: ' ' :: v := by
    simp [notMem_of_casing casing, line.oneLine]
  have ne : l ++ ':' :: ' ' :: v ≠ [] := by simp
  rw [shape, Report.read, Text.lines_of_notMem feed ne, ← Reading.finish_takeField text,
    ← Reading.feed_of_casing casing line.trimmed]
  rfl

/-- A field without decoration has its value as it is, if the value is trimmed, has no asterisk at its
edges and does not begin with two underscores. Two underscores at its start are cut off, whatever
follows them, so the field has another value or none. -/
theorem read_undecorated (f : Field) (l v : Text) (text : f ≠ .rating)
    (casing : l.map asciiLower = f.label.toList.map asciiLower) (line : IsTrimmedLine v)
    (noStarBefore : v.head? ≠ some '*') (noStarBehind : v.getLast? ≠ some '*') :
    (¬ ['_', '_'] <+: v →
      Report.read (l ++ ": ".toList ++ v) = ({} : Report).setText f (some v)) ∧
    ∀ rest, v = '_' :: '_' :: rest →
      Report.read (l ++ ": ".toList ++ v) =
          ({} : Report).setText f (nonEmpty? (some (Reading.cleanValue rest))) ∧
        (Report.read (l ++ ": ".toList ++ v)).text? f ≠ some v := by
  have read := read_of_casing text casing line
  constructor
  · intro noUnderscores
    have plain : IsPlainValue v := ⟨line, noStarBefore, noStarBehind, noUnderscores⟩
    rw [read, FieldLine.skipEmphasis_of_plain plain, plain.cleanValue,
      nonEmpty?_eq_some.2 ⟨rfl, line.ne_nil⟩]
  · rintro rest rfl
    have cut : FieldLine.skipEmphasis ('_' :: '_' :: rest) = rest := rfl
    rw [cut] at read
    refine ⟨read, ?_⟩
    rw [read, text?_setText text]
    intro whole
    have same := Option.some_inj.1 (nonEmpty?_eq_some.1 whole).1
    -- what is left of the value is shorter than the value
    have shorter := (Reading.cleanValue_sublist rest).length_le
    rw [same, List.length_cons, List.length_cons] at shorter
    omega

/-- A label in small letters is read like any other, a value with one underscore in front stands as it
is, and of a value with three only one is left. -/
theorem read_undecorated_timeComplexity :
    Report.read "time COMPLEXITY: _n_ steps".toList = { timeComplexity := some "_n_ steps".toList } ∧
      Report.read "time COMPLEXITY: ___n".toList = { timeComplexity := some "_n".toList } := by
  have casing : "time COMPLEXITY".toList.map asciiLower =
      Field.timeComplexity.label.toList.map asciiLower := by
    decide
  have oneUnderscore := read_undecorated .timeComplexity "time COMPLEXITY".toList "_n_ steps".toList
    (by decide) casing ⟨by decide, by decide, by decide⟩ (by decide) (by decide)
  have threeUnderscores := read_undecorated .timeComplexity "time COMPLEXITY".toList "___n".toList
    (by decide) casing ⟨by decide, by decide, by decide⟩ (by decide) (by decide)
  exact ⟨oneUnderscore.1 (by decide), (threeUnderscores.2 "_n".toList rfl).1⟩

/-- A value that begins with two underscores loses them, though nothing in its line is emphasised. -/
theorem read_undecorated_ne_underscores :
    IsTrimmedLine "__init__ is called per row".toList ∧
      Report.read "Bottleneck: __init__ is called per row".toList =
        { bottleneck := some "init__ is called per row".toList } ∧
      (Report.read "Bottleneck: __init__ is called per row".toList).text? .bottleneck ≠
        some "__init__ is called per row".toList := by
  exact ⟨⟨by decide, by decide, by decide⟩, by decide, by decide⟩

end Report

end SnippetCost
