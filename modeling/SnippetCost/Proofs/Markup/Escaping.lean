import SnippetCost.Markup.Stripping
import SnippetCost.Proofs.Text.Replace

/-!
# Escaping and putting back

Escaped text has nothing in it that has a meaning in markup, and putting the characters of the
entities back gives the text that was escaped. The entities are put back one kind after another; after
each kind the text is as if only the kinds that are left had been written as entities.

One kind of entity is put back by `replaceAll_escapeBy`, and all of them by the main result,
`unescape_escape`. What escaped text cannot have in it is `isEscaped_escape`.
-/

namespace SnippetCost.Markup

variable {es : List Entity} {e : Entity} {c : Char} {s t : Text}

/-- The name of an entity has no character that a tag or an entity begins or ends with. -/
lemma name_of_mem (h : e ∈ entities) : '&' ∉ e.name ∧ '<' ∉ e.name ∧ '>' ∉ e.name := by
  rw [entities, List.mem_cons, List.mem_cons, List.mem_singleton] at h
  rcases h with rfl | rfl | rfl <;> simp

/-- A written entity is not empty. -/
lemma write_ne_nil (e : Entity) : e.write ≠ [] :=
  List.cons_ne_nil _ _

/-- The character as it is written where only those of `es` are written as entities. -/
def escapeBy (es : List Entity) (c : Char) : Text :=
  match es.find? fun e => e.char = c with
  | some e => e.write
  | none => [c]

/-- Without entities a character stands for itself. -/
lemma escapeBy_nil (c : Char) : escapeBy [] c = [c] := rfl

/-- The character of the first entity is written as that entity. -/
lemma escapeBy_head (e : Entity) (es : List Entity) : escapeBy (e :: es) e.char = e.write := by
  simp [escapeBy]

/-- Other characters are written as the other entities have it. -/
lemma escapeBy_tail (h : e.char ≠ c) : escapeBy (e :: es) c = escapeBy es c := by
  simp [escapeBy, h]

/-- A character is written as its entity or, if it has none, as it is. -/
lemma escapeBy_cases (es : List Entity) (c : Char) :
    (∃ e ∈ es, e.char = c ∧ escapeBy es c = e.write) ∨
      (∀ e ∈ es, e.char ≠ c) ∧ escapeBy es c = [c] := by
  cases found : es.find? fun e => e.char = c with
  | some e =>
    refine .inl ⟨e, List.mem_of_find?_eq_some found, ?_, by rw [escapeBy, found]⟩
    simpa using List.find?_some found
  | none => exact .inr ⟨by simpa using found, by rw [escapeBy, found]⟩

/-- Escaping writes each character by all the entities. -/
lemma escapeChar_eq : escapeChar = escapeBy entities := by
  funext c
  fun_cases escapeChar c with
  | case1 => rfl
  | case2 => rfl
  | case3 => rfl
  | case4 c amp less greater =>
    rw [entities, escapeBy_tail (Ne.symm less), escapeBy_tail (Ne.symm greater),
      escapeBy_tail (Ne.symm amp), escapeBy_nil]

/-- Escaped texts one behind another are escaped. -/
lemma IsEscaped.append (hs : IsEscaped s) (ht : IsEscaped t) : IsEscaped (s ++ t) where
  noLess := List.not_mem_append hs.noLess ht.noLess
  noGreater := List.not_mem_append hs.noGreater ht.noGreater
  entity := by
    intro u v h
    -- the ampersand stands in the second text, or it begins an entity of the first
    rcases List.append_eq_append_iff.1 h with ⟨u', -, hv⟩ | ⟨w, hu, hv⟩
    · exact ht.entity u' v hv
    · cases w with
      | nil => exact ht.entity [] v hv.symm
      | cons c w =>
        obtain ⟨rfl, rfl⟩ := List.cons.inj hv
        obtain ⟨e, mem, lead⟩ := hs.entity u w hu
        exact ⟨e, mem, lead.trans (List.prefix_append _ _)⟩

/-- A written entity is escaped. -/
lemma isEscaped_write (mem : e ∈ entities) : IsEscaped e.write := by
  obtain ⟨amp, less, greater⟩ := name_of_mem mem
  refine ⟨by simp [Entity.write, less], by simp [Entity.write, greater], ?_⟩
  intro u v h
  refine ⟨e, mem, ?_⟩
  cases u with
  | nil =>
    obtain ⟨-, rfl⟩ := List.cons.inj h
    exact List.prefix_refl _
  | cons c u =>
    obtain ⟨-, name⟩ := List.cons.inj h
    exact absurd (by simp [name]) amp

/-- Escaping a text leaves nothing that has a meaning in markup. -/
lemma isEscaped_escape (t : Text) : IsEscaped (escape t) := by
  rw [escape, escapeChar_eq]
  induction t with
  | nil => exact ⟨List.not_mem_nil, List.not_mem_nil, by simp⟩
  | cons c t ih =>
    apply IsEscaped.append _ ih
    rcases escapeBy_cases entities c with ⟨e, mem, -, he⟩ | ⟨bare, he⟩
    · rw [he]
      exact isEscaped_write mem
    · have less : '<' ≠ c := bare _ (.head _)
      have greater : '>' ≠ c := bare _ (.tail _ (.head _))
      have amp : '&' ≠ c := bare _ (.tail _ (.tail _ (.head _)))
      rw [he]
      refine ⟨by simpa using less, by simpa using greater, ?_⟩
      intro u v hu
      have : '&' ∈ [c] := by simp [hu]
      exact absurd (List.mem_singleton.1 this) amp

/-- Another entity stays as it is where one is put back. -/
lemma replaceAll_write {f : Entity} (amp : '&' ∉ f.name)
    (apart : ∀ t, Text.dropLead? e.name (f.name ++ t) = none) (t : Text) :
    Text.replaceAll e.write [e.char] (f.write ++ t) =
      f.write ++ Text.replaceAll e.write [e.char] t := by
  have first : Text.dropLead? e.write ('&' :: (f.name ++ t)) = none := by
    rw [Entity.write, Text.dropLead?, if_pos rfl, apart]
  have rest : ∀ c ∈ f.name, ∀ rest, Text.dropLead? e.write (c :: rest) = none := by
    intro c hc rest
    apply Text.dropLead?_of_ne
    rintro rfl
    exact amp hc
  have shape : f.write ++ t = '&' :: (f.name ++ t) := rfl
  rw [shape, Text.replaceAll, Text.replaceEach_cons_of_none first, Text.replaceEach_append rest]
  rfl

/-- Putting one entity back leaves the text as if only the others had been used. For that ampersands
must be written as entities, and none of the others may be mistaken for the one. -/
lemma replaceAll_escapeBy (fresh : ∀ f ∈ es, f.char ≠ e.char)
    (ampersand : ∃ f ∈ e :: es, f.char = '&') (amp : ∀ f ∈ es, '&' ∉ f.name)
    (apart : ∀ f ∈ es, ∀ t, Text.dropLead? e.name (f.name ++ t) = none) (t : Text) :
    Text.replaceAll e.write [e.char] (t.flatMap (escapeBy (e :: es))) = t.flatMap (escapeBy es) := by
  induction t with
  | nil => exact Text.replaceAll_nil _ _
  | cons c t ih =>
    rw [List.flatMap_cons, List.flatMap_cons]
    rcases escapeBy_cases es c with ⟨f, mem, rfl, hf⟩ | ⟨bare, hc⟩
    · rw [escapeBy_tail (Ne.symm (fresh f mem)), hf, replaceAll_write (amp f mem) (apart f mem), ih]
    · rw [hc]
      by_cases own : e.char = c
      · subst own
        rw [escapeBy_head, Text.replaceAll_old (write_ne_nil e), ih]
      · -- a character that no entity stands for is no ampersand, so no entity begins with it
        have ne : '&' ≠ c := by
          rintro rfl
          obtain ⟨f, mem, hf⟩ := ampersand
          rcases List.mem_cons.1 mem with rfl | mem
          · exact own hf
          · exact bare f mem hf
        rw [escapeBy_tail own, hc, List.singleton_append, Entity.write, Text.replaceAll_of_ne ne,
          ← Entity.write, ih, List.singleton_append]

/-- Putting the entities back gives the text that was escaped. -/
lemma unescape_escape (t : Text) : unescape (escape t) = t := by
  rw [escape, escapeChar_eq, unescape, entities, List.foldl_cons, List.foldl_cons, List.foldl_cons,
    List.foldl_nil, replaceAll_escapeBy, replaceAll_escapeBy, replaceAll_escapeBy]
  · exact List.flatMap_singleton' t
  -- ampersands are put back last, and the three names begin with different letters
  all_goals simp [Text.dropLead?]

/-- Different texts are escaped differently. -/
lemma escape_inj (h : escape s = escape t) : s = t := by
  rw [← unescape_escape s, h, unescape_escape]

/-- Escaping goes character by character. -/
lemma escape_append (s t : Text) : escape (s ++ t) = escape s ++ escape t :=
  List.flatMap_append

/-- Only the empty text is escaped as nothing. -/
lemma escape_ne_nil (h : t ≠ []) : escape t ≠ [] :=
  fun empty => h (escape_inj (t := []) empty)

end SnippetCost.Markup
