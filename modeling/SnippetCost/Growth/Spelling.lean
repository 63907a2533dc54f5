import SnippetCost.Growth.Basic

/-!
# Spellings of labels

How the label of a class can be spelled once its blanks are left out: in one way, or in two where an
exponent can stand for a superscript. `Growth.Spells` says so of a text with its blanks.
-/

namespace SnippetCost.Growth

/-- The ways in which the label of a class can be spelled, blanks left out. -/
def spellings : Growth → List String
  | constant => ["O(1)"]
  | logarithmic => ["O(logn)"]
  | linear => ["O(n)"]
  | linearithmic => ["O(nlogn)"]
  | quadratic => ["O(n²)", "O(n^2)"]
  | cubic => ["O(n³)", "O(n^3)"]
  | exponential => ["O(2^n)"]

example : all.flatMap spellings =
    ["O(1)", "O(logn)", "O(n)", "O(nlogn)", "O(n²)", "O(n^2)", "O(n³)", "O(n^3)", "O(2^n)"] := rfl

/-- Whether a text without its blanks spells the label of a class. -/
def Spells (g : Growth) (t : Text) : Prop :=
  ∃ s ∈ g.spellings, t.filter (fun c => !isBlank c) = s.toList

instance (g : Growth) (t : Text) : Decidable (g.Spells t) :=
  inferInstanceAs (Decidable (∃ s ∈ g.spellings, t.filter (fun c => !isBlank c) = s.toList))

end SnippetCost.Growth
