import SnippetCost.Json.Quoted

/-!
# Writing a JSON document

Every item and every member stands on a line of its own, indented by two spaces more than the array or
object around it. An empty array or object stays on one line.
-/

namespace SnippetCost.Json.Value

/-- The start of a line that is indented by `indent`. -/
def newLine (indent : Nat) : Text :=
  '\n' :: List.replicate indent ' '

mutual

/-- A value as it is written within lines that are indented by `indent`. -/
def writeAt (indent : Nat) : Value → Text
  | null => "null".toList
  | bool b => (if b then "true" else "false").toList
  | natural n => Text.ofNat n
  | number lexeme => lexeme
  | text t => quote t
  | broken => quote []
  | array [] => ['[', ']']
  | array (item :: items) =>
    '[' :: newLine (indent + 2) ++ writeAt (indent + 2) item ++ writeItems (indent + 2) items
      ++ newLine indent ++ [']']
  | object [] => ['\x7b', '\x7d']
  | object ((key, value) :: members) =>
    '\x7b' :: newLine (indent + 2) ++ quote key ++ [':', ' '] ++ writeAt (indent + 2) value
      ++ writeMembers (indent + 2) members ++ newLine indent ++ ['\x7d']

/-- Items behind the first as they are written. -/
def writeItems (indent : Nat) : List Value → Text
  | [] => []
  | item :: items =>
    ',' :: newLine indent ++ writeAt indent item ++ writeItems indent items

/-- Members behind the first as they are written. -/
def writeMembers (indent : Nat) : List (Text × Value) → Text
  | [] => []
  | (key, value) :: members =>
    ',' :: newLine indent ++ quote key ++ [':', ' '] ++ writeAt indent value
      ++ writeMembers indent members

end

/-- A value as it is written. -/
def write (v : Value) : Text :=
  writeAt 0 v

end SnippetCost.Json.Value
