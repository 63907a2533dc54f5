import SnippetCost.Growth.Label
import SnippetCost.Proofs.Nesting.Line

/-!
# Labels and their bands

The band of a text looks for labels as they are shown, while reading a label overlooks blanks and
takes `^2` for a superscript. So the band of a text that names a class can be another than that of the
class. The two agree exactly where the text is the label itself between blanks, or where the class has
no band of its own.

`ofText_trim` says that blanks at the ends matter to no band, and `eq_of_includes_compactLabel` that a
text which names a class has no other label within it. A label found in such a text is then all of it,
`trim_eq_label`. The main result is `ofText_eq_band_iff`.
-/

namespace SnippetCost

namespace Text

variable {needle s t u v : Text}

/-- A text that begins with a character that is no blank is found behind blanks only where it is found
without them. -/
lemma includes_append_of_isBlanks (first : startsSolid needle) (blanks : IsBlanks u) (t : Text) :
    includes needle (u ++ t) = includes needle t := by
  induction u with
  | nil => rfl
  | cons c u ih =>
    obtain ⟨blank, blanks⟩ := isBlanks_cons.1 blanks
    cases needle with
    | nil => cases first
    | cons n needle =>
      have ne : n ≠ c := by
        rintro rfl
        rw [startsSolid_cons_of_isBlank blank] at first
        cases first
      have apart : (n :: needle).isPrefixOf (c :: (u ++ t)) = false := by
        simp [List.isPrefixOf, ne]
      rw [List.cons_append, includes, apart, Bool.false_or, ih blanks]

/-- A text is found within another one just as both are found backwards. -/
lemma includes_reverse (needle t : Text) :
    includes needle.reverse t.reverse = includes needle t := by
  rw [Bool.eq_iff_iff, includes_iff, includes_iff]
  constructor
  · rintro ⟨u, v, e⟩
    refine ⟨v.reverse, u.reverse, ?_⟩
    have h := congrArg List.reverse e
    simpa using h
  · rintro ⟨u, v, rfl⟩
    exact ⟨v.reverse, u.reverse, by simp⟩

/-- A text with no blank at either end stands in another where it stands in that one trimmed. -/
lemma includes_trim (first : startsSolid needle) (last : startsSolid needle.reverse) (t : Text) :
    includes needle (trim t) = includes needle t := by
  obtain ⟨u, v, hu, hv, e⟩ := exists_append_trim t
  have rev : IsBlanks v.reverse := fun c mem => hv c (List.mem_reverse.1 mem)
  calc includes needle (trim t)
      = includes needle.reverse (trim t).reverse := (includes_reverse _ _).symm
    _ = includes needle.reverse (v.reverse ++ (trim t).reverse) :=
        (includes_append_of_isBlanks last rev _).symm
    _ = includes needle (trim t ++ v) := by rw [← List.reverse_append, includes_reverse]
    _ = includes needle (u ++ (trim t ++ v)) := (includes_append_of_isBlanks first hu _).symm
    _ = includes needle t := by rw [← e]

/-- Between blanks, a text with no blank at either end is what trimming leaves. -/
lemma trim_append (trimmed : trim t = t) (hu : IsBlanks u) (hv : IsBlanks v) :
    trim (u ++ (t ++ v)) = t := by
  have front : trim (u ++ (t ++ v)) = trim (t ++ v) := by
    rw [trim, trim, strip, strip, ← trimStart, ← trimStart, trimStart_append hu]
  rw [front, trim_append_right hv, trimmed]

end Text

namespace Growth

variable {s t : Text}

/-- Superscripts of two texts are written apart, unless an exponent of the one could begin at the end
of the other. -/
lemma superscripts_append (h : s.getLast? = some '^' → ∀ c ∈ t.head?, c ≠ '2' ∧ c ≠ '3') :
    superscripts (s ++ t) = superscripts s ++ superscripts t := by
  fun_induction superscripts s with
  | case1 rest ih | case2 rest ih =>
    rw [List.cons_append, List.cons_append, superscripts, ih ?_, List.cons_append]
    intro last
    apply h
    cases rest with
    | nil => cases last
    | cons d rest => simpa using last
  | case3 c rest no2 no3 ih =>
    have apart : ∀ d, d = '2' ∨ d = '3' → ∀ behind, c = '^' → rest ++ t = d :: behind → False := by
      intro d digit behind caret e
      cases rest with
      | nil =>
        obtain ⟨ne2, ne3⟩ := h (by rw [caret]; rfl) d (by rw [List.nil_append] at e; rw [e]; rfl)
        exact digit.elim ne2 ne3
      | cons f rest =>
        obtain ⟨rfl, -⟩ := List.cons.inj e
        rcases digit with rfl | rfl
        · exact no2 rest caret rfl
        · exact no3 rest caret rfl
    rw [List.cons_append, superscripts, ih ?_, List.cons_append]
    · intro last
      apply h
      cases rest with
      | nil => cases last
      | cons d rest => simpa using last
    · exact apart '2' (.inl rfl)
    · exact apart '3' (.inr rfl)
  | case4 => rfl

/-- Putting superscripts for exponents makes no text empty. -/
lemma superscripts_eq_nil (h : superscripts t = []) : t = [] := by
  cases t with
  | nil => rfl
  | cons c t =>
    rw [superscripts.eq_def] at h
    split at h <;> simp_all

/-- A class is found by its name. -/
lemma ofName?_name (g : Growth) : ofName? g.name.toList = some g := by
  cases g <;> decide

/-- A class is found by its label. -/
lemma ofLabel?_label (g : Growth) : ofLabel? g.label.toList = some g := by
  cases g <;> decide

/-- No label begins with a blank. -/
lemma startsSolid_label (g : Growth) : Text.startsSolid g.label.toList := by
  cases g <;> decide

/-- No label ends with a blank. -/
lemma startsSolid_reverse_label (g : Growth) : Text.startsSolid g.label.toList.reverse := by
  cases g <;> decide

/-- Labels have no blanks at their ends. -/
lemma trim_label (g : Growth) : Text.trim g.label.toList = g.label.toList := by
  cases g <;> decide

/-- Blanks at the ends of a label are overlooked like all others. -/
lemma compactLabel_trim (t : Text) : compactLabel (Text.trim t) = compactLabel t := by
  have none : ∀ u : Text, Text.IsBlanks u → u.filter (fun c => !isBlank c) = [] := by
    intro u blanks
    rw [List.filter_eq_nil_iff]
    intro c mem
    simp [blanks c mem]
  obtain ⟨u, v, hu, hv, e⟩ := Text.exists_append_trim t
  have whole : t.filter (fun c => !isBlank c) = (Text.trim t).filter fun c => !isBlank c := by
    rw [e, List.filter_append, List.filter_append, none u hu, none v hv, List.nil_append,
      List.append_nil, ← e]
  rw [compactLabel, compactLabel, whole]

/-- No label stands within another, whatever blanks are overlooked. -/
lemma eq_of_includes_compactLabel {g h : Growth}
    (found : Text.includes (compactLabel h.label.toList) (compactLabel g.label.toList)) : h = g := by
  cases g <;> cases h <;> first | rfl | cases found

/-- Blanks and exponents around a label are overlooked apart from those in it: it begins with a letter
and ends with a parenthesis. -/
lemma compactLabel_append (g : Growth) (u v : Text) :
    compactLabel (u ++ (g.label.toList ++ v)) =
      compactLabel u ++ (compactLabel g.label.toList ++ compactLabel v) := by
  have first : (g.label.toList.filter fun c => !isBlank c).head? = some 'O' := by
    cases g <;> decide
  have last : (g.label.toList.filter fun c => !isBlank c).getLast? = some ')' := by
    cases g <;> decide
  rw [compactLabel, compactLabel, compactLabel, compactLabel, List.filter_append,
    List.filter_append]
  generalize g.label.toList.filter (fun c => !isBlank c) = label at first last
  rw [superscripts_append, superscripts_append]
  · intro caret
    rw [last] at caret
    cases caret
  · intro _ c head
    rw [List.head?_append, first] at head
    cases head
    decide

/-- A text that is empty without its blanks has nothing but blanks. -/
lemma isBlanks_of_compactLabel (h : compactLabel t = []) : Text.IsBlanks t := by
  intro c mem
  have none := List.filter_eq_nil_iff.1 (superscripts_eq_nil h) c mem
  simpa using none

/-- A text in which a label stands as it is shown, and that is read as a class, is the label of the
class between blanks. -/
lemma trim_eq_label {g h : Growth} (found : Text.includes h.label.toList t)
    (read : ofLabel? t = some g) : Text.trim t = g.label.toList := by
  have compact : compactLabel g.label.toList = compactLabel t := by
    simpa using List.find?_some read
  obtain ⟨u, v, e⟩ := Text.includes_iff.1 found
  rw [List.append_assoc] at e
  rw [e, compactLabel_append] at compact
  obtain rfl : h = g := by
    apply eq_of_includes_compactLabel
    rw [Text.includes_iff]
    exact ⟨compactLabel u, compactLabel v, by rw [compact, List.append_assoc]⟩
  have length := congrArg List.length compact
  simp only [List.length_append] at length
  have left : compactLabel u = [] := List.length_eq_zero_iff.1 (by omega)
  have right : compactLabel v = [] := List.length_eq_zero_iff.1 (by omega)
  rw [e]
  exact Text.trim_append (trim_label h) (isBlanks_of_compactLabel left)
    (isBlanks_of_compactLabel right)

end Growth

namespace Band

variable {t : Text}

/-- A text in a band of its own holds a label as it is shown. -/
lemma exists_includes_label (h : ofText t ≠ fallback) :
    ∃ g : Growth, Text.includes g.label.toList t := by
  rw [ofText] at h
  split at h
  · next found =>
    rcases Bool.or_eq_true_iff.1 found with one | log
    · exact ⟨.constant, one⟩
    · exact ⟨.logarithmic, log⟩
  · split at h
    · next found =>
      rcases Bool.or_eq_true_iff.1 found with square | log
      · exact ⟨.quadratic, square⟩
      · exact ⟨.linearithmic, log⟩
    · split at h
      · next found => exact ⟨.linear, found⟩
      · exact absurd rfl h

/-- Blanks at the ends of a text do not change its band. -/
lemma ofText_trim (t : Text) : ofText (Text.trim t) = ofText t := by
  have same : ∀ g : Growth,
      Text.includes g.label.toList (Text.trim t) = Text.includes g.label.toList t := fun g =>
    Text.includes_trim g.startsSolid_label g.startsSolid_reverse_label t
  have one := same .constant
  have log := same .logarithmic
  have square := same .quadratic
  have linearithmic := same .linearithmic
  have linear := same .linear
  simp only [Growth.label] at one log square linearithmic linear
  rw [ofText, ofText, one, log, square, linearithmic, linear]

end Band

namespace Label

variable {t : Text}

/-- A text that has a band is shown as it is read, without the blanks at its ends. -/
lemma trim_eq_text_of_ofText (h : Band.ofText t ≠ .fallback) : Text.trim t = (read t).text := by
  rw [read]
  cases known : Growth.ofLabel? t with
  | none => rfl
  | some g =>
    obtain ⟨h, found⟩ := Band.exists_includes_label h
    exact Growth.trim_eq_label found known

/-- A text is in the band of the label that it is read as exactly where it is that label between blanks,
or the label has no band of its own. -/
lemma ofText_eq_band_iff (t : Text) :
    Band.ofText t = (read t).band ↔ (read t).band = .fallback ∨ Text.trim t = (read t).text := by
  constructor
  · intro same
    by_cases fallback : (read t).band = .fallback
    · exact .inl fallback
    · rw [← same] at fallback
      exact .inr (trim_eq_text_of_ofText fallback)
  · rintro (fallback | spelled)
    · by_cases own : Band.ofText t = .fallback
      · rw [own, fallback]
      · have spelled := trim_eq_text_of_ofText own
        rw [band, ← spelled, Band.ofText_trim]
    · rw [band, ← spelled, Band.ofText_trim]

end Label

end SnippetCost
