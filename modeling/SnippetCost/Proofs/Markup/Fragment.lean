import SnippetCost.Markup.Fragment
import SnippetCost.Proofs.Markup.Escaping

/-!
# Written markup is a fragment

A tree whose classes are safe is written as a fragment, whatever its texts say. In a fragment no angle
opens anything but a tag, and no ampersand anything but an entity.

The main result is `fragment_writeAll`, which rests on the induction over trees `Fragment.write` and
`Fragment.writeAll`. What an angle and an ampersand of a fragment begin is `Fragment.beginsTag` and
`Fragment.beginsEntity`.
-/

namespace SnippetCost.Markup

variable {around : List Tag} {rest t : Text}

mutual

/-- Whether all classes in a tree are safe. -/
def HasSafeClasses : Markup → Prop
  | text _ => True
  | element _ cssClass content => isSafeClass cssClass ∧ HaveSafeClasses content

/-- Whether all classes in trees are safe. -/
def HaveSafeClasses : List Markup → Prop
  | [] => True
  | piece :: pieces => piece.HasSafeClasses ∧ HaveSafeClasses pieces

end

/-- The classes in trees are safe if those in each of them are. -/
lemma haveSafeClasses_iff {pieces : List Markup} :
    HaveSafeClasses pieces ↔ ∀ piece ∈ pieces, piece.HasSafeClasses := by
  induction pieces with
  | nil => simp [HaveSafeClasses]
  | cons piece pieces ih => rw [HaveSafeClasses, ih, List.forall_mem_cons]

/-- Trees one behind another are written one behind another. -/
lemma writeAll_append (ps qs : List Markup) :
    writeAll (ps ++ qs) = writeAll ps ++ writeAll qs := by
  induction ps with
  | nil => simp [writeAll]
  | cons p ps ih => simp [writeAll, ih]

/-- Escaped text can stand before any fragment. -/
lemma Fragment.escape (t : Text) (h : Fragment around rest) :
    Fragment around (escape t ++ rest) := by
  rw [Markup.escape, escapeChar_eq]
  induction t with
  | nil => exact h
  | cons c t ih =>
    rw [List.flatMap_cons, List.append_assoc]
    rcases escapeBy_cases entities c with ⟨e, mem, -, he⟩ | ⟨bare, hc⟩
    · rw [he]
      exact .entity mem ih
    · have less : '<' ≠ c := bare _ (.head _)
      have greater : '>' ≠ c := bare _ (.tail _ (.head _))
      have amp : '&' ≠ c := bare _ (.tail _ (.tail _ (.head _)))
      rw [hc]
      exact .char less.symm greater.symm amp.symm ih

mutual

/-- A written tree can stand before any fragment: the tag that opens an element is matched by the one
behind its content. -/
lemma Fragment.write {around : List Tag} {rest : Text} (m : Markup) (safe : m.HasSafeClasses)
    (h : Fragment around rest) : Fragment around (m.write ++ rest) := by
  cases m with
  | text t =>
    rw [Markup.write]
    exact h.escape t
  | element tag cssClass content =>
    rw [HasSafeClasses] at safe
    rw [Markup.write, List.append_assoc, List.append_assoc]
    have closed : Fragment (tag :: around) (closeTag tag ++ rest) := .closing h
    exact .opening safe.1 (closed.writeAll content safe.2)

/-- Written trees can stand before any fragment. -/
lemma Fragment.writeAll {around : List Tag} {rest : Text} (pieces : List Markup)
    (safe : HaveSafeClasses pieces) (h : Fragment around rest) :
    Fragment around (Markup.writeAll pieces ++ rest) := by
  cases pieces with
  | nil =>
    rw [Markup.writeAll]
    exact h
  | cons piece pieces =>
    rw [HaveSafeClasses] at safe
    rw [Markup.writeAll, List.append_assoc]
    exact (h.writeAll pieces safe.2).write piece safe.1

end

/-- Trees whose classes are safe are written as a fragment. -/
lemma fragment_writeAll {pieces : List Markup} (safe : HaveSafeClasses pieces) :
    Fragment [] (writeAll pieces) := by
  have h := Fragment.nil.writeAll pieces safe
  rwa [List.append_nil] at h

/-- A character that stands in a piece at its front only is the first of the text or stands behind
the piece. -/
lemma eq_nil_or_exists_append {x c : Char} {piece u v : Text} (h : x ∉ piece)
    (e : c :: piece ++ rest = u ++ x :: v) : u = [] ∨ ∃ u', rest = u' ++ x :: v := by
  cases u with
  | nil => exact .inl rfl
  | cons d u =>
    obtain ⟨-, e⟩ := List.cons.inj e
    rcases List.append_eq_append_iff.1 e with ⟨u', -, hv⟩ | ⟨w, hw, hv⟩
    · exact .inr ⟨u', hv⟩
    · cases w with
      | nil => exact .inr ⟨[], hv.symm⟩
      | cons y w =>
        obtain ⟨rfl, -⟩ := List.cons.inj hv
        exact absurd (by simp [hw]) h

/-- Behind the angle that begins a tag there is no other angle of the kind, and no ampersand. -/
lemma exists_openTag_eq (tag : Tag) {cssClass : Option Text} (safe : isSafeClass cssClass) :
    ∃ behind, openTag tag cssClass = '<' :: behind ∧ '<' ∉ behind ∧ '&' ∉ behind := by
  refine ⟨(openTag tag cssClass).tail, rfl, ?_⟩
  cases cssClass with
  | none => cases tag <;> simp [openTag, Tag.name]
  | some value =>
    have all := List.all_eq_true.1 safe
    have less : '<' ∉ value := by
      intro mem
      cases all '<' mem
    have amp : '&' ∉ value := by
      intro mem
      cases all '&' mem
    cases tag <;> simp [openTag, Tag.name, less, amp]

/-- A closing tag has one angle at its beginning, and no ampersand. -/
lemma exists_closeTag_eq (tag : Tag) :
    ∃ behind, closeTag tag = '<' :: behind ∧ '<' ∉ behind ∧ '&' ∉ behind := by
  refine ⟨(closeTag tag).tail, rfl, ?_⟩
  cases tag <;> simp [closeTag, Tag.name]

/-- Every angle of a fragment that opens something opens a tag. -/
lemma Fragment.beginsTag (h : Fragment around t) {u v : Text} (e : t = u ++ '<' :: v) :
    BeginsTag ('<' :: v) := by
  induction h generalizing u with
  | nil => simp at e
  | @char around rest c less _ _ _ ih =>
    have noAngle : '<' ∉ ([] : Text) := List.not_mem_nil
    rcases eq_nil_or_exists_append noAngle e with rfl | ⟨u, hu⟩
    · exact absurd (List.cons.inj e).1 less
    · exact ih hu
  | @entity around rest f mem _ ih =>
    rcases eq_nil_or_exists_append (name_of_mem mem).2.1 e with rfl | ⟨u, hu⟩
    · cases (List.cons.inj e).1
    · exact ih hu
  | @opening around rest tag cssClass safe _ ih =>
    obtain ⟨behind, shape, less, -⟩ := exists_openTag_eq tag safe
    rcases eq_nil_or_exists_append less (shape ▸ e) with rfl | ⟨u, hu⟩
    · exact ⟨tag, .inr ⟨cssClass, safe, rest, e⟩⟩
    · exact ih hu
  | @closing around rest tag _ ih =>
    obtain ⟨behind, shape, less, -⟩ := exists_closeTag_eq tag
    rcases eq_nil_or_exists_append less (shape ▸ e) with rfl | ⟨u, hu⟩
    · exact ⟨tag, .inl ⟨rest, e⟩⟩
    · exact ih hu

/-- Every ampersand of a fragment begins an entity. -/
lemma Fragment.beginsEntity (h : Fragment around t) {u v : Text} (e : t = u ++ '&' :: v) :
    BeginsEntity ('&' :: v) := by
  induction h generalizing u with
  | nil => simp at e
  | @char around rest c _ _ amp _ ih =>
    have noAmpersand : '&' ∉ ([] : Text) := List.not_mem_nil
    rcases eq_nil_or_exists_append noAmpersand e with rfl | ⟨u, hu⟩
    · exact absurd (List.cons.inj e).1 amp
    · exact ih hu
  | @entity around rest f mem _ ih =>
    rcases eq_nil_or_exists_append (name_of_mem mem).1 e with rfl | ⟨u, hu⟩
    · exact ⟨f, mem, rest, e⟩
    · exact ih hu
  | @opening around rest tag cssClass safe _ ih =>
    obtain ⟨behind, shape, -, amp⟩ := exists_openTag_eq tag safe
    rw [shape] at e
    rcases eq_nil_or_exists_append amp e with rfl | ⟨u, hu⟩
    · cases (List.cons.inj e).1
    · exact ih hu
  | @closing around rest tag _ ih =>
    obtain ⟨behind, shape, -, amp⟩ := exists_closeTag_eq tag
    rw [shape] at e
    rcases eq_nil_or_exists_append amp e with rfl | ⟨u, hu⟩
    · cases (List.cons.inj e).1
    · exact ih hu

end SnippetCost.Markup
