import Mathlib.Tactic.Lemma
import SnippetCost.Json.Record

/-!
# Records are read back

The fields of a record that is stored as an object are found by their names, and a field that may be
nothing is read as what was stored in it.

`record?_object` opens the record; a field is then read by `required?_of_lookup` or
`optional?_of_lookup`, and a list within one by `mapM_map`.
-/

namespace SnippetCost.Json.Value

variable {α : Type} {name : String} {ms : List (Text × Value)}

/-- The fields of an object that holds every field of a record, each once. -/
lemma record?_object {names : List String} (keys : ms.map Prod.fst = names.map String.toList)
    (once : (names.map String.toList).Nodup) (strict : Bool) (least : Nat) :
    (object ms).record? strict least names = some ms := by
  have known : ms.all fun m => isKnown names m.1 := by
    rw [List.all_eq_true]
    intro m mem
    have listed : m.1 ∈ names.map String.toList := keys ▸ List.mem_map_of_mem mem
    obtain ⟨name, mem, e⟩ := List.mem_map.1 listed
    exact List.any_eq_true.2 ⟨name, mem, by simp [e]⟩
  have all : ms.filter (fun m => isKnown names m.1) = ms :=
    List.filter_eq_self.2 (List.all_eq_true.1 known)
  rw [← keys] at once
  rw [record?]
  simp only [all, once, known, decide_true, Bool.or_true, Bool.and_true, if_true]

/-- A required field is read from the member of its name. -/
lemma required?_of_lookup {read : Value → Option α} {v : Value} {a : α}
    (found : ms.lookup name.toList = some v) (reads : read v = some a) :
    required? read name ms = some a := by
  rw [required?, found, Option.bind_some, reads]

/-- A field that may be nothing is read as what was stored in it. -/
lemma optional?_of_lookup {read : Value → Option α} {toValue : α → Value} {value : Option α}
    (found : ms.lookup name.toList = some (fieldOrNull name toValue value).2)
    (something : ∀ a ∈ value, (toValue a).isNull = false)
    (reads : ∀ a ∈ value, read (toValue a) = some a) : optional? read name ms = some value := by
  rw [optional?, found]
  cases value with
  | none => rfl
  | some a =>
    have solid := something a rfl
    simp [fieldOrNull, field, solid, reads a rfl]

/-- Values that are stored one by one are read back in their order. -/
lemma mapM_map {read : Value → Option α} {toValue : α → Value}
    (reads : ∀ a, read (toValue a) = some a) (as : List α) :
    (as.map toValue).mapM read = some as := by
  induction as with
  | nil => rfl
  | cons a as ih => simp [List.mapM_cons, reads, ih]

end SnippetCost.Json.Value
