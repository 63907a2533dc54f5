import SnippetCost.Proofs.Report.LineEnd

/-!
# What is cut off a line of a report

Reading a field only cuts: the label that is found stands at the start of what is left of the line
behind its decoration, and the value is the end of the line.

The main result is `read?_suffix`, put together from `skipDecoration_suffix`, `cutAnyLabel?_eq_append`
and `value?_suffix`.
-/

namespace SnippetCost.FieldLine

open Text (dropLead? dropLead?_suffix trimStart trimStart_suffix)

variable {t rest : Text} {word : Text} {words : List Text} {p : Text × Text}

/-- A word that is cut off stands at the start of the text, and the rest behind it. -/
lemma cutWord?_eq_append (h : cutWord? word t = some p) : t = p.1 ++ p.2 := by
  induction word generalizing t p with
  | nil =>
    cases h
    rfl
  | cons l word ih =>
    cases t with
    | nil => cases h
    | cons c t =>
      rw [cutWord?, Option.ite_none_right_eq_some] at h
      obtain ⟨q, more, rfl⟩ := Option.map_eq_some_iff.1 h.2
      rw [ih more]
      rfl

/-- A label that is cut off stands at the start of the text, and the rest behind it. -/
lemma cutLabel?_eq_append (h : cutLabel? words t = some p) : t = p.1 ++ p.2 := by
  induction words generalizing t p with
  | nil =>
    cases h
    rfl
  | cons word words ih =>
    cases words with
    | nil => exact cutWord?_eq_append h
    | cons next words =>
      rw [cutLabel?_cons_cons, Option.bind_eq_some_iff] at h
      obtain ⟨q, first, h⟩ := h
      rw [cutBehind?, Option.ite_none_left_eq_some] at h
      obtain ⟨r, more, rfl⟩ := Option.map_eq_some_iff.1 h.2
      have behind : q.2 = q.2.takeWhile isBlank ++ (r.1 ++ r.2) := by
        rw [← ih more]
        exact List.takeWhile_append_dropWhile.symm
      calc t = q.1 ++ q.2 := cutWord?_eq_append first
        _ = q.1 ++ (q.2.takeWhile isBlank ++ (r.1 ++ r.2)) := congrArg (q.1 ++ ·) behind
        _ = q.1 ++ q.2.takeWhile isBlank ++ r.1 ++ r.2 := by simp only [List.append_assoc]

/-- A label stands in front of what is left behind it. -/
lemma cutAnyLabel?_eq_append (h : cutAnyLabel? t = some p) : t = p.1 ++ p.2 := by
  obtain ⟨words, -, cut⟩ := List.exists_of_findSome?_eq_some h
  exact cutLabel?_eq_append cut

/-- Behind number signs stands the end of the text. -/
lemma skipHeading_suffix (n : Nat) (t : Text) : skipHeading n t <:+ t := by
  induction n generalizing t with
  | zero => exact List.suffix_refl t
  | succ n ih =>
    rw [skipHeading_succ]
    cases sign : dropLead? ['#'] t with
    | none => exact List.suffix_refl t
    | some rest => exact (ih rest).trans (dropLead?_suffix sign)

/-- Behind a mark of emphasis stands the end of the text. -/
lemma skipEmphasis_suffix (t : Text) : skipEmphasis t <:+ t := by
  rw [skipEmphasis_eq]
  cases mark : (dropLead? ['*', '*'] t).or (dropLead? ['_', '_'] t) with
  | none => exact List.suffix_refl t
  | some rest =>
    rcases Option.or_eq_some_iff.1 mark with stars | ⟨-, underscores⟩
    · exact dropLead?_suffix stars
    · exact dropLead?_suffix underscores

/-- Behind a bullet stands the end of the text. -/
lemma afterBullet?_suffix (h : afterBullet? t = some rest) : rest <:+ t := by
  cases t with
  | nil => cases h
  | cons c t =>
    have behind : t <:+ c :: t := List.suffix_cons c t
    rw [afterBullet?_cons] at h
    split at h
    · cases h
      exact behind
    · rw [Option.ite_none_right_eq_some] at h
      have digits : t.dropWhile isDecimal <:+ c :: t := (List.dropWhile_suffix isDecimal).trans behind
      rcases Option.or_eq_some_iff.1 h.2 with dot | ⟨-, parenthesis⟩
      · exact (dropLead?_suffix dot).trans digits
      · exact (dropLead?_suffix parenthesis).trans digits

/-- What is left without a bullet is the end of the text. -/
lemma skipBullet_suffix (t : Text) : skipBullet t <:+ t := by
  rw [skipBullet]
  split
  · next c rest bullet =>
    split
    · exact (trimStart_suffix rest).trans ((List.suffix_cons c rest).trans (afterBullet?_suffix bullet))
    · exact List.suffix_refl t
  · exact List.suffix_refl t

/-- What is left without decoration is the end of the line. -/
lemma skipDecoration_suffix (t : Text) : skipDecoration t <:+ t :=
  (trimStart_suffix _).trans <| (skipEmphasis_suffix _).trans <| (skipBullet_suffix _).trans <|
    (trimStart_suffix _).trans <| (skipHeading_suffix 6 _).trans (trimStart_suffix t)

/-- A value is the end of what stands behind its label. -/
lemma value?_suffix (h : value? t = some rest) : rest <:+ t := by
  rw [value?_eq] at h
  obtain ⟨behind, colon, rfl⟩ := Option.map_eq_some_iff.1 h
  exact (skipEmphasis_suffix _).trans <| (trimStart_suffix _).trans <| (dropLead?_suffix colon).trans <|
    (trimStart_suffix _).trans <| (skipEmphasis_suffix _).trans (trimStart_suffix t)

/-- The value of a field is the end of its line. -/
lemma read?_suffix {line label value : Text} (h : read? line = some (label, value)) :
    value <:+ line := by
  rw [read?_eq, Option.bind_eq_some_iff] at h
  obtain ⟨p, cut, h⟩ := h
  obtain ⟨v, behind, e⟩ := Option.map_eq_some_iff.1 h
  cases e
  have left : p.2 <:+ skipDecoration line := ⟨p.1, (cutAnyLabel?_eq_append cut).symm⟩
  exact (value?_suffix behind).trans (left.trans (skipDecoration_suffix line))

end SnippetCost.FieldLine
