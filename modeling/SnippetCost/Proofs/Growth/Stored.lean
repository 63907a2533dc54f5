import SnippetCost.Snippet.Stored
import SnippetCost.Proofs.Growth.Label
import SnippetCost.Proofs.Json.Reading

/-!
# Stored labels

A known class and free text are stored as texts of one kind, and nothing says which of the two a text
is. So a label is read back as it was unless its free text is the name of a class.

`read?_write` reduces reading a document back to `Label.ofStored`, of which `ofStored_known` and
`ofStored_other` are the two cases. The main result is `read?_write_read_iff`.
-/

namespace SnippetCost

open Json (Value)

variable {t : Text}

namespace Growth

/-- A class is found by its own name and no other text. -/
lemma ofName?_eq_some {g : Growth} : ofName? t = some g ↔ t = g.name.toList := by
  constructor
  · intro found
    have name : g.name.toList = t := by
      simpa using List.find?_some found
    exact name.symm
  · rintro rfl
    exact ofName?_name g

/-- No class is found exactly by the texts that are no names. -/
lemma ofName?_eq_none : ofName? t = none ↔ ∀ g : Growth, t ≠ g.name.toList := by
  rw [Option.eq_none_iff_forall_ne_some]
  simp only [ne_eq, ofName?_eq_some]

/-- The name of a class is not one of the labels. -/
lemma ofLabel?_of_trim {g : Growth} (name : Text.trim t = g.name.toList) : ofLabel? t = none := by
  have all : ∀ g : Growth, ofLabel? g.name.toList = none := by
    intro g
    cases g <;> decide
  rw [ofLabel?, ← compactLabel_trim t, name]
  exact all g

end Growth

namespace Label

/-- A label is stored as a text, and that text is what is read back. -/
lemma read?_write (l : Label) : read? l.toValue.write = some (ofStored l.stored) := by
  have plain : l.toValue.IsPlain := trivial
  have whole := Value.read?_write plain (List.forall_mem_nil _) Json.endsValue_nil
  rw [List.append_nil] at whole
  rw [read?, whole]
  rfl

/-- A known class is read back from what is stored of it. -/
lemma ofStored_known (g : Growth) : ofStored (known g).stored = known g := by
  rw [stored, ofStored, Growth.ofName?_name]

/-- Free text is read back from what is stored of it exactly if it is the name of no class. -/
lemma ofStored_other : ofStored (other t).stored = other t ↔ ∀ g : Growth, t ≠ g.name.toList := by
  rw [← Growth.ofName?_eq_none, stored, ofStored]
  cases Growth.ofName? t with
  | none => simp
  | some g => simp

/-- A label that was read from a text is read back from where it is stored exactly if the text is not
the name of a class between blanks. Such a name is read as free text, and read back as the class. -/
theorem read?_write_read_iff (t : Text) :
    (read? (read t).toValue.write = some (read t) ↔ ∀ g : Growth, Text.trim t ≠ g.name.toList) ∧
      ∀ g : Growth, Text.trim t = g.name.toList →
        read t = other g.name.toList ∧ read? (read t).toValue.write = some (known g) := by
  have named : ∀ g : Growth, Text.trim t = g.name.toList → read t = other g.name.toList := by
    intro g name
    rw [read, Growth.ofLabel?_of_trim name, name]
  constructor
  · rw [read?_write, Option.some_inj]
    cases label : Growth.ofLabel? t with
    | none =>
      have free : read t = other (Text.trim t) := by
        rw [read, label]
      rw [free]
      exact ofStored_other
    | some g =>
      have whole : read t = known g := by
        rw [read, label]
      rw [whole]
      refine iff_of_true (ofStored_known g) ?_
      intro h name
      rw [Growth.ofLabel?_of_trim name] at label
      cases label
  · intro g name
    refine ⟨named g name, ?_⟩
    rw [named g name, read?_write, stored, ofStored, Growth.ofName?_name]

/-- A label that is no label of a class and names none is read back as the free text that it is, with
the quotes in it, and a text that names a class is not. -/
theorem read?_write_read_iff_quoted :
    read? (read " \"O(V + E)\" ".toList).toValue.write = some (other "\"O(V + E)\"".toList) ∧
      read? (read " Linear ".toList).toValue.write = some (known .linear) := by
  have free : read " \"O(V + E)\" ".toList = other "\"O(V + E)\"".toList := by
    decide
  have noName : ∀ g : Growth, Text.trim " \"O(V + E)\" ".toList ≠ g.name.toList := by
    intro g
    cases g <;> decide
  have back := (read?_write_read_iff " \"O(V + E)\" ".toList).1.2 noName
  rw [free] at back
  have name : Text.trim " Linear ".toList = Growth.linear.name.toList := by
    decide
  rw [free]
  exact ⟨back, ((read?_write_read_iff " Linear ".toList).2 .linear name).2⟩

/-- Free text that spells the name of a class is read back as the class. -/
theorem read?_write_ne_linear :
    read "Linear".toList = other "Linear".toList ∧
      read? (read "Linear".toList).toValue.write ≠ some (read "Linear".toList) := by
  decide

end Label

end SnippetCost
