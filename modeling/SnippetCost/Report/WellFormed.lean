import SnippetCost.Report.Plain

/-!
# Well-formed reports

What every report that was read has, whatever the text was: its texts are trimmed lines, its rating is
out of ten, and its blocks can have stood between fences. Unlike a report in plain notation it can have
marks of emphasis at the edges of a text, and carriage returns in its code. The main definition is
`Report.IsWellFormed`.
-/

namespace SnippetCost

/-- A block of code that can have stood between fences: no line of it is a fence. -/
structure CodeBlock.IsWellFormed (b : CodeBlock) : Prop where
  language : ∀ l, b.language = some l → IsTrimmedLine l
  noFence : ∀ line ∈ Text.cutLines b.code, ¬ fenceMark.toList <+: Text.trimStart line

/-- A report as one can be read. -/
structure Report.IsWellFormed (r : Report) : Prop where
  text : ∀ f t, r.text? f = some t → IsTrimmedLine t
  rating : ∀ n, r.rating = some n → n.toNat ≤ Rating.best
  block : ∀ b ∈ r.blocks, b.IsWellFormed

end SnippetCost
