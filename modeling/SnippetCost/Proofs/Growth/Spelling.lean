import SnippetCost.Growth.Spelling
import SnippetCost.Proofs.Growth.Label

/-!
# Spellings of labels

Without its blanks the label of a class has one spelling, or two where an exponent can stand for a
superscript. No other text is taken for a label: where superscripts are put for exponents, what comes
out tells which characters it came from, up to the two ways to write each of them.

What a text with superscripts can come from is `Growth.sources`, and `sources_compactLabel` finds the
spellings of a class there, so that `ofLabel?_eq_some` is exact. `read_text_read`,
`read_cases_of_filter` and `eq_trim_of_read` are the parts of the main result, `read_normalises`.
-/

namespace SnippetCost

namespace Growth

variable {t u : Text} {g : Growth}

/-- The texts that a character can stand for where superscripts are put for exponents. -/
def charSources (c : Char) : List Text :=
  if c = '²' then [['²'], ['^', '2']]
  else if c = '³' then [['³'], ['^', '3']]
  else [[c]]

/-- The texts that a text can stand for where superscripts are put for exponents. -/
def sources : Text → List Text
  | [] => [[]]
  | c :: rest => (charSources c).flatMap fun lead => (sources rest).map fun behind => lead ++ behind

/-- What a text came from is what its first character came from and what the rest did. -/
lemma mem_sources_cons {c : Char} {lead behind rest : Text} (first : lead ∈ charSources c)
    (more : behind ∈ sources rest) : lead ++ behind ∈ sources (c :: rest) :=
  List.mem_flatMap.2 ⟨lead, first, List.mem_map_of_mem more⟩

/-- Every character can come from itself. -/
lemma mem_charSources (c : Char) : [c] ∈ charSources c := by
  rw [charSources]
  split
  · next square => simp [square]
  · split
    · next cube => simp [cube]
    · exact List.mem_singleton_self _

/-- A text is among those that it can have come from. -/
lemma mem_sources_superscripts (t : Text) : t ∈ sources (superscripts t) := by
  fun_induction superscripts t with
  | case1 rest ih =>
    have square : ['^', '2'] ∈ charSources '²' := by decide
    exact mem_sources_cons square ih
  | case2 rest ih =>
    have cube : ['^', '3'] ∈ charSources '³' := by decide
    exact mem_sources_cons cube ih
  | case3 c rest _ _ ih => exact mem_sources_cons (mem_charSources c) ih
  | case4 => exact List.mem_singleton_self _

/-- The spellings of a label are all that it can have come from. -/
lemma sources_compactLabel (g : Growth) :
    sources (compactLabel g.label.toList) = g.spellings.map String.toList := by
  cases g <;> decide

/-- Putting superscripts for exponents makes the label of a class of all its spellings. -/
lemma superscripts_of_mem_spellings {s : String} (mem : s ∈ g.spellings) :
    superscripts s.toList = compactLabel g.label.toList := by
  have all : ∀ g : Growth, g.spellings.all fun s =>
      superscripts s.toList = compactLabel g.label.toList := by
    intro g
    cases g <;> decide
  exact of_decide_eq_true (List.all_eq_true.1 (all g) s mem)

/-- A text is read like a label exactly if it spells the label. -/
lemma compactLabel_eq_iff : compactLabel t = compactLabel g.label.toList ↔ g.Spells t := by
  constructor
  · intro same
    have mem := mem_sources_superscripts (t.filter fun c => !isBlank c)
    rw [← compactLabel, same, sources_compactLabel, List.mem_map] at mem
    obtain ⟨s, spelled, e⟩ := mem
    exact ⟨s, spelled, e.symm⟩
  · rintro ⟨s, spelled, e⟩
    rw [compactLabel, e, superscripts_of_mem_spellings spelled]

/-- Texts that differ in blanks and exponents only are the label of the same class. -/
lemma ofLabel?_congr (same : compactLabel t = compactLabel u) : ofLabel? t = ofLabel? u := by
  rw [ofLabel?, ofLabel?, same]

/-- A text is the label of a class exactly if it spells the class. -/
lemma ofLabel?_eq_some : ofLabel? t = some g ↔ g.Spells t := by
  rw [← compactLabel_eq_iff]
  constructor
  · intro found
    have same : compactLabel g.label.toList = compactLabel t := by
      simpa using List.find?_some found
    exact same.symm
  · intro same
    rw [ofLabel?_congr same, ofLabel?_label]

/-- Free text spells the label of no class. -/
lemma not_spells_of_ofLabel? (free : ofLabel? t = none) (g : Growth) : ¬ g.Spells t := by
  intro spelled
  rw [ofLabel?_eq_some.2 spelled] at free
  cases free

end Growth

namespace Label

variable {t u v : Text}

/-- A text that names a class is read as the class. -/
lemma read_of_ofLabel? {g : Growth} (found : Growth.ofLabel? t = some g) : read t = known g := by
  rw [read, found]

/-- A text that names no class is read as free text, without the blanks at its ends. -/
lemma read_of_free (free : Growth.ofLabel? t = none) : read t = other (Text.trim t) := by
  rw [read, free]

/-- The text of a label that was read is read as the label. -/
lemma read_text_read (t : Text) : read (read t).text = read t := by
  cases label : Growth.ofLabel? t with
  | some g =>
    rw [read_of_ofLabel? label, text]
    exact read_of_ofLabel? (Growth.ofLabel?_label g)
  | none =>
    have free : Growth.ofLabel? (Text.trim t) = none := by
      rw [Growth.ofLabel?_congr (Growth.compactLabel_trim t), label]
    rw [read_of_free label, text, read_of_free free, Text.trim_trim]

/-- Texts that differ in their blanks alone are the same class, or both are free text. -/
lemma read_cases_of_filter (same : (t.filter fun c => !isBlank c) = u.filter fun c => !isBlank c) :
    (∃ g, read t = known g ∧ read u = known g) ∨
      read t = other (Text.trim t) ∧ read u = other (Text.trim u) := by
  have labels : Growth.ofLabel? u = Growth.ofLabel? t :=
    Growth.ofLabel?_congr (congrArg Growth.superscripts same.symm)
  cases label : Growth.ofLabel? t with
  | some g => exact .inl ⟨g, read_of_ofLabel? label, read_of_ofLabel? (labels.trans label)⟩
  | none => exact .inr ⟨read_of_free label, read_of_free (labels.trans label)⟩

/-- A label of free text is the trimmed text, which spells the label of no class. -/
lemma eq_trim_of_read (other : read t = other v) : v = Text.trim t ∧ ∀ g : Growth, ¬ g.Spells v := by
  cases label : Growth.ofLabel? t with
  | some g =>
    rw [read_of_ofLabel? label] at other
    cases other
  | none =>
    rw [read_of_free label] at other
    cases other
    refine ⟨rfl, Growth.not_spells_of_ofLabel? ?_⟩
    rw [Growth.ofLabel?_congr (Growth.compactLabel_trim t), label]

/-- Reading a label normalises it. The text of the label is read as the label again; the label is that
of a class exactly if the text spells the class, blanks left out; another text with the same other
characters is read as the same class or is free text like the first; and free text is kept trimmed,
and is not a spelling of any class. -/
theorem read_normalises (t : Text) :
    read (read t).text = read t ∧
      (∀ g : Growth, Growth.ofLabel? t = some g ↔ g.Spells t) ∧
      (∀ u : Text, (t.filter fun c => !isBlank c) = (u.filter fun c => !isBlank c) →
        (∃ g, read t = known g ∧ read u = known g) ∨
          read t = other (Text.trim t) ∧ read u = other (Text.trim u)) ∧
      ∀ v, read t = other v → v = Text.trim t ∧ ∀ g : Growth, ¬ g.Spells v :=
  ⟨read_text_read t, fun _ => Growth.ofLabel?_eq_some, fun _ => read_cases_of_filter,
    fun _ => eq_trim_of_read⟩

/-- An exponent with a blank before its digit is read as the superscript, and a doubled caret makes free
text of the label. -/
theorem read_normalises_splitExponent :
    read "O( n ^ 2 )".toList = known .quadratic ∧ read "O(n^2)\u3000".toList = known .quadratic ∧
      read " O(n ^^2)".toList = other "O(n ^^2)".toList ∧
      ∀ g : Growth, ¬ g.Spells "O(n ^^2)".toList := by
  obtain ⟨-, spelled, blanks, -⟩ := read_normalises "O( n ^ 2 )".toList
  have split : Growth.ofLabel? "O( n ^ 2 )".toList = some .quadratic :=
    (spelled .quadratic).2 (by decide)
  have square : read "O( n ^ 2 )".toList = known .quadratic := read_of_ofLabel? split
  have whole : read "O(n^2)\u3000".toList = known .quadratic := by
    rcases blanks "O(n^2)\u3000".toList (by decide) with ⟨g, first, second⟩ | ⟨free, -⟩
    · rw [second, ← first, square]
    · rw [square] at free
      cases free
  have doubled : read " O(n ^^2)".toList = other "O(n ^^2)".toList := by
    decide
  exact ⟨square, whole, doubled, ((read_normalises " O(n ^^2)".toList).2.2.2 _ doubled).2⟩

end Label

end SnippetCost
