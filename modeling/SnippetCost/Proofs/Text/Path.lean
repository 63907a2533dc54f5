import SnippetCost.Proofs.Text.Pieces
import SnippetCost.Text.Path

/-!
# The path that is a hyphen

A path has the single part `-` exactly if it is a hyphen with nothing behind it but slashes, and single
points between them: `PathPart.ofPath_eq_hyphen_iff`. The pieces between slashes make up the path,
`PathPart.eq_of_cutAt`, and are those it is cut into, `PathPart.cutAt_join`.
-/

namespace SnippetCost.PathPart

variable {path first : Text} {pieces : List Text}

/-- The pieces between the slashes of a path make up the path. -/
lemma eq_of_cutAt (h : Text.cutAt (· = '/') path = first :: pieces) :
    path = first ++ pieces.flatMap ('/' :: ·) := by
  induction path generalizing first pieces with
  | nil =>
    obtain ⟨rfl, rfl⟩ := List.cons.inj h
    rfl
  | cons c path ih =>
    rw [Text.cutAt] at h
    obtain ⟨next, behind, e⟩ := List.exists_cons_of_ne_nil (Text.cutAt_ne_nil (· = '/') path)
    split at h
    · next slash =>
      obtain ⟨rfl, rfl⟩ := List.cons.inj h
      rw [e, List.flatMap_cons, List.nil_append, List.cons_append, ← ih e, of_decide_eq_true slash]
    · rw [e, Text.consFirst] at h
      obtain ⟨rfl, rfl⟩ := List.cons.inj h
      rw [List.cons_append, ← ih e]

/-- Pieces without slashes are those that the path they make up is cut into. -/
lemma cutAt_join (hf : '/' ∉ first) (hp : ∀ piece ∈ pieces, '/' ∉ piece) :
    Text.cutAt (· = '/') (first ++ pieces.flatMap ('/' :: ·)) = first :: pieces := by
  have solid {piece : Text} (h : '/' ∉ piece) : ∀ c ∈ piece, decide (c = '/') = false :=
    fun _ mem => decide_eq_false (ne_of_mem_of_not_mem mem h)
  induction pieces generalizing first with
  | nil => rw [List.flatMap_nil, List.append_nil, Text.cutAt_of_forall (solid hf)]
  | cons next pieces ih =>
    obtain ⟨hn, hp⟩ := List.forall_mem_cons.1 hp
    rw [List.flatMap_cons, List.cons_append, Text.cutAt_append (solid hf) (decide_eq_true rfl),
      ih hn hp]

/-- The pieces that are no part are the empty one and the single point. -/
lemma ofPiece?_eq_none_iff {piece : Text} : ofPiece? piece = none ↔ piece = [] ∨ piece = ['.'] := by
  unfold ofPiece?
  split <;> simp_all

/-- Only the piece itself is the part of a name. -/
lemma eq_of_ofPiece? {piece t : Text} (h : ofPiece? piece = some (name t)) : piece = t := by
  unfold ofPiece? at h
  split at h <;> simp_all

/-- A path is the hyphen exactly if it is one in front of slashes that nothing, or a single point,
stands behind. -/
theorem ofPath_eq_hyphen_iff :
    ofPath path = ofPath ['-'] ↔
      ∃ pieces : List Text, (∀ piece ∈ pieces, piece = [] ∨ piece = ['.']) ∧
        path = '-' :: pieces.flatMap ('/' :: ·) := by
  have hyphen : ofPath ['-'] = [name ['-']] := by decide
  rw [hyphen]
  constructor
  · intro h
    obtain ⟨first, pieces, e⟩ := List.exists_cons_of_ne_nil (Text.cutAt_ne_nil (· = '/') path)
    have whole := eq_of_cutAt e
    rw [ofPath, e] at h
    cases part : ofPiece? first with
    | none =>
      -- What is no part begins the path, so the path begins with the root or with its own place.
      rw [List.filterMap_cons_none part] at h
      obtain rfl | rfl := ofPiece?_eq_none_iff.1 part <;> cases pieces <;> rw [whole] at h <;> cases h
    | some found =>
      rw [List.filterMap_cons_some part] at h
      cases lead : beginning path with
      | nil =>
        rw [lead] at h
        obtain ⟨rfl, nothing⟩ := List.cons.inj h
        rw [eq_of_ofPiece? part] at whole
        exact ⟨pieces, fun piece mem =>
          ofPiece?_eq_none_iff.1 (List.filterMap_eq_nil_iff.1 nothing piece mem), whole⟩
      | cons start rest =>
        rw [lead] at h
        simp at h
  · rintro ⟨pieces, skipped, rfl⟩
    have noSlash : ∀ piece ∈ pieces, '/' ∉ piece := by
      intro piece mem
      obtain rfl | rfl := skipped piece mem <;> decide
    have cut := cutAt_join (show '/' ∉ ['-'] by decide) noSlash
    have nothing : pieces.filterMap ofPiece? = [] :=
      List.filterMap_eq_nil_iff.2 fun piece mem => ofPiece?_eq_none_iff.2 (skipped piece mem)
    rw [List.singleton_append] at cut
    rw [ofPath, cut, List.filterMap_cons_some (show ofPiece? ['-'] = some (name ['-']) from rfl), nothing]
    rfl

end SnippetCost.PathPart
