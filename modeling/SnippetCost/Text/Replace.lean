import SnippetCost.Text.Basic

/-!
# Replacing

Putting a text in the place of others. What is replaced is looked for from left to right, behind what
was replaced before, and what is put in its place is not looked at again.
-/

namespace SnippetCost.Text

/-- Put `new` in the place of everything that `after?` finds. It is asked at each place what follows
a match there; a match of nothing is none. -/
def replaceEach (after? : Text → Option Text) (new : Text) : Text → Text
  | [] => []
  | c :: rest =>
    match after? (c :: rest) with
    | none => c :: replaceEach after? new rest
    | some after =>
      if after.length ≤ rest.length then new ++ replaceEach after? new after
      else c :: replaceEach after? new rest
termination_by t => t.length
decreasing_by
  all_goals simp only [List.length_cons]
  all_goals omega

/-- Put `new` in the place of every `old`. -/
def replaceAll (old new : Text) : Text → Text :=
  replaceEach (dropLead? old) new

end SnippetCost.Text
