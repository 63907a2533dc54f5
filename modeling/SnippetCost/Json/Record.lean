import SnippetCost.Json.Value

/-!
# Records in JSON documents

A record is stored as an object, or as an array of its fields in order. A field that is known must not
stand twice. One case of a choice is stored by its name, or as an object with the name for its only key
and nothing for the value. The readers are `record?`, `required?` and `optional?`.
-/

namespace SnippetCost.Json

namespace Value

/-- Whether a key is one of the names. -/
def isKnown (names : List String) (key : Text) : Bool :=
  names.any fun name => name.toList = key

/-- The fields of a record. A strict record has none but the known; an array has `least` fields or
more. -/
def record? (strict : Bool) (least : Nat) (names : List String) (v : Value) :
    Option (List (Text × Value)) :=
  match v with
  | object members =>
    let known := members.filter fun m => isKnown names m.1
    if decide (known.map Prod.fst).Nodup && (!strict || members.all fun m => isKnown names m.1) then
      some known
    else none
  | array items =>
    if least ≤ items.length ∧ items.length ≤ names.length then
      some ((names.map String.toList).zip items)
    else none
  | _ => none

/-- The value of a field that must be there. -/
def required? {α : Type} (read : Value → Option α) (name : String) (ms : List (Text × Value)) :
    Option α :=
  (ms.lookup name.toList).bind read

/-- The value of a field that may be missing or nothing. -/
def optional? {α : Type} (read : Value → Option α) (name : String) (ms : List (Text × Value)) :
    Option (Option α) :=
  match ms.lookup name.toList with
  | none => some none
  | some v => if v.isNull then some none else (read v).map some

/-- The case of a choice that a value names. -/
def choice? {α : Type} (ofName? : Text → Option α) : Value → Option α
  | text t => ofName? t
  | object [(key, null)] => ofName? key
  | _ => none

/-- A field of a record. -/
def field (name : String) (value : Value) : Text × Value :=
  (name.toList, value)

/-- A field that may be nothing. -/
def fieldOrNull {α : Type} (name : String) (toValue : α → Value) (value : Option α) : Text × Value :=
  field name <| match value with
    | some a => toValue a
    | none => null

end Value

end SnippetCost.Json
