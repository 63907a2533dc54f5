import SnippetCost.Text.Blank

/-!
# Classes of growth

The seven classes of growth that an estimate can name, in ascending order of cost, with the label that
each is shown by and the labels that each is recognised by. The main definitions are `Growth`,
`Growth.ofLabel?` and `Growth.ofLoopDepth`.
-/

namespace SnippetCost

/-- A class of growth of running time or memory. -/
inductive Growth where
  | constant
  | logarithmic
  | linear
  | linearithmic
  | quadratic
  | cubic
  | exponential
deriving DecidableEq, Repr

namespace Growth

/-- All classes, ascending. -/
def all : List Growth :=
  [constant, logarithmic, linear, linearithmic, quadratic, cubic, exponential]

/-- The label that a class is shown by. -/
def label : Growth → String
  | constant => "O(1)"
  | logarithmic => "O(log n)"
  | linear => "O(n)"
  | linearithmic => "O(n log n)"
  | quadratic => "O(n²)"
  | cubic => "O(n³)"
  | exponential => "O(2^n)"

/-- The name that a class is stored by. -/
def name : Growth → String
  | constant => "Constant"
  | logarithmic => "Logarithmic"
  | linear => "Linear"
  | linearithmic => "Linearithmic"
  | quadratic => "Quadratic"
  | cubic => "Cubic"
  | exponential => "Exponential"

/-- The class of a name. -/
def ofName? (t : Text) : Option Growth :=
  all.find? fun g => g.name.toList = t

/-- The position of a class in the ascending order. -/
def rank : Growth → Nat
  | constant => 0
  | logarithmic => 1
  | linear => 2
  | linearithmic => 3
  | quadratic => 4
  | cubic => 5
  | exponential => 6

/-- Classes compare by their cost. -/
instance : Ord Growth where
  compare g h := compare g.rank h.rank

/-- Whether a class counts as slow: quadratic or worse. -/
def isSlow : Growth → Bool
  | quadratic | cubic | exponential => true
  | constant | logarithmic | linear | linearithmic => false

/-- The class of a snippet of which only the depth of nested loops is known. -/
def ofLoopDepth : Nat → Growth
  | 0 | 1 => linear
  | 2 => quadratic
  | _ => cubic

/-- Write the exponents two and three as superscripts. -/
def superscripts : Text → Text
  | '^' :: '2' :: rest => '²' :: superscripts rest
  | '^' :: '3' :: rest => '³' :: superscripts rest
  | c :: rest => c :: superscripts rest
  | [] => []

/-- A label without its blanks, its exponents two and three as superscripts. -/
def compactLabel (t : Text) : Text :=
  superscripts (t.filter fun c => !isBlank c)

/-- The class of a label. Blanks do not matter, and `^2` and `^3` stand for the superscripts. -/
def ofLabel? (t : Text) : Option Growth :=
  all.find? fun g => compactLabel g.label.toList = compactLabel t

/-- The classes in ascending order; equal ones stay together. -/
def sort (gs : List Growth) : List Growth :=
  gs.mergeSort fun g h => g.rank ≤ h.rank

/-- The costliest of some classes. -/
def max? : List Growth → Option Growth
  | [] => none
  | g :: gs => some (gs.foldl (fun best h => if best.rank ≤ h.rank then h else best) g)

end Growth

end SnippetCost
