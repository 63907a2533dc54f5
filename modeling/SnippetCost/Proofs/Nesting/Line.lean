import SnippetCost.Proofs.Nesting.Scan
import SnippetCost.Proofs.Text.Padded

/-!
# What a line says, and how far it is indented

A scan sees two things of a line: its column, and what is left when it is trimmed. Blanks at the end
of a line, a carriage return among them, change neither, so the lines of a text may be taken as the
pieces between its line feeds.

The main result is `loopDepth_eq_cutLines`. It rests on `feed_congr`, that lines which say the same at
the same column do the same to a scan, and on `feed_dropReturn`.
-/

namespace SnippetCost

namespace Text

variable {line t u v : Text}

/-- Blanks at the end do not change the keyword that a line opens with. -/
lemma opensWith_append {keyword : Text} (solid : keyword.IsSolid)
    (blanks : IsBlanks v) : opensWith keyword (t ++ v) = opensWith keyword t := by
  rw [opensWith, opensWith, dropLead?_append_of_isBlanks solid blanks]
  cases h : dropLead? keyword t with
  | none => rfl
  | some rest =>
    cases rest with
    | cons c rest => rfl
    | nil =>
      cases v with
      | nil => rfl
      | cons c v =>
        have name := isNameChar_of_isBlank (isBlanks_cons.1 blanks).1
        simp [name]

/-- Blanks at the end do not change whether a line is a loop header. -/
lemma isLoopHeader_append (blanks : IsBlanks v) : isLoopHeader (t ++ v) = isLoopHeader t := by
  rw [isLoopHeader, isLoopHeader, opensWith_append (by decide) blanks,
    opensWith_append (by decide) blanks]

/-- Whether a line opens a loop shows when it is trimmed. -/
lemma opensLoop_eq (line : Text) : opensLoop line = isLoopHeader (trim line) := by
  obtain ⟨v, hv, e⟩ := exists_trimStart_eq line
  rw [opensLoop, e, isLoopHeader_append hv]

/-- Whether a line says anything shows when it is trimmed. -/
lemma isSignificant_eq (line : Text) :
    isSignificant line = (trim line).head?.any (fun c => decide (c ≠ '#')) := by
  obtain ⟨v, hv, e⟩ := exists_trimStart_eq line
  rw [isSignificant, e]
  cases h : trim line with
  | cons c rest => rfl
  | nil =>
    rw [h, List.nil_append] at e
    cases v with
    | nil => rfl
    | cons c v =>
      have blank := (isBlanks_cons.1 hv).1
      rw [trimStart_eq_cons e] at blank
      cases blank

/-- A line that opens a loop says something. -/
lemma isSignificant_of_opensLoop (h : opensLoop line) : isSignificant line := by
  rw [opensLoop, isLoopHeader, Bool.or_eq_true] at h
  rw [isSignificant]
  cases trimmed : trimStart line with
  | nil => simp [trimmed, opensWith, dropLead?] at h
  | cons c rest =>
    have ne : c ≠ '#' := by
      rintro rfl
      simp [trimmed, opensWith, dropLead?] at h
    simpa using ne

/-- A line is indented by the blanks in front of it. -/
lemma indentation_append {c : Char} (blanks : IsBlanks u) (solid : isBlank c = false) :
    indentation (u ++ c :: t) = u.length := by
  rw [indentation, List.takeWhile_append_of_pos blanks, List.takeWhile_cons_of_neg (by simp [solid]),
    List.append_nil]

/-- What stands behind the first character that is no blank does not move the line. -/
lemma indentation_append_right (sig : isSignificant line) :
    indentation (line ++ v) = indentation line := by
  obtain ⟨u, hu, e⟩ := exists_append_trimStart line
  cases h : trimStart line with
  | nil => simp [isSignificant, h] at sig
  | cons c rest =>
    have solid := trimStart_eq_cons h
    rw [h] at e
    rw [e, indentation_append hu solid, List.append_assoc, List.cons_append,
      indentation_append hu solid]

end Text

namespace NestingScan

/-- Lines that say the same at the same column are read alike. -/
lemma feed_congr {s : NestingScan} {line other : Text} (same : Text.trim line = Text.trim other)
    (column : Text.isSignificant line → Text.indentation line = Text.indentation other) :
    s.feed line = s.feed other := by
  have sig : Text.isSignificant line = Text.isSignificant other := by
    rw [Text.isSignificant_eq, Text.isSignificant_eq, same]
  have opens : Text.opensLoop line = Text.opensLoop other := by
    rw [Text.opensLoop_eq, Text.opensLoop_eq, same]
  by_cases h : Text.isSignificant line
  · simp only [feed, ← sig, ← opens, ← column h]
  · have h : Text.isSignificant line = false := by simpa using h
    rw [feed_insignificant h, feed_insignificant (sig ▸ h)]

/-- A carriage return at the end of a line is read over. -/
lemma feed_dropReturn (s : NestingScan) (line : Text) : s.feed (Text.dropReturn line) = s.feed line := by
  have padded := padded_dropReturn line
  generalize Text.dropReturn line = short at padded
  apply feed_congr padded.trim_eq.symm
  intro sig
  cases padded with
  | intro _ => exact (Text.indentation_append_right sig).symm

/-- A scan of the lines of a text reads the pieces between its line feeds. -/
lemma feedAll_linesOfPieces (s : NestingScan) (pieces : List Text) :
    s.feedAll (Text.linesOfPieces pieces) = s.feedAll pieces := by
  fun_induction Text.linesOfPieces pieces generalizing s with
  | case1 => rfl
  | case2 last h =>
    have empty : last = [] := List.isEmpty_iff.1 h
    rw [empty, feedAll_cons, feed_insignificant rfl]
  | case3 => rfl
  | case4 piece pieces _ ih => rw [feedAll_cons, feedAll_cons, feed_dropReturn, ih]

end NestingScan

/-- The depth of a text is that of the pieces between its line feeds. -/
lemma loopDepth_eq_cutLines (t : Text) : loopDepth t = loopDepthOfLines (Text.cutLines t) := by
  rw [loopDepth, loopDepthOfLines, Text.lines, NestingScan.feedAll_linesOfPieces, loopDepthOfLines]

end SnippetCost
