import Mathlib.Tactic.Lemma
import SnippetCost.Proofs.Token.Cutting
import SnippetCost.Token.Merged

/-!
# Merging tokens

Merged tokens make up the same text with the same marks in it, no two plain ones stand side by side,
and none of the plain ones is empty.

The main results are `isMerged_merged`, `join_merged` and `marksFrom_merged`, and `eq_merged`, that
only merged tokens are like this.
-/

namespace SnippetCost.Token

variable {token : Token} {tokens : List Token} {t : Text}

/-- Tokens of which each can be told from its neighbours: no plain one is empty or stands before
another. -/
inductive IsMerged : List Token → Prop where
  | nil : IsMerged []
  | mark {token : Token} {tokens : List Token} :
    token.isPlain = false → IsMerged tokens → IsMerged (token :: tokens)
  | plain {t : Text} {tokens : List Token} :
    t ≠ [] → (∀ next ∈ tokens.head?, next.isPlain = false) → IsMerged tokens →
      IsMerged (⟨.plain, t⟩ :: tokens)

/-- A token of the plain kind is its text in that kind. -/
lemma eq_plain_of_isPlain (h : token.isPlain) : token = ⟨.plain, token.text⟩ := by
  obtain ⟨kind, text⟩ := token
  obtain rfl : kind = .plain := by simpa [isPlain] using h
  rfl

/-- A mark stays apart from what it is put before, and so does what stands behind no plain text. -/
lemma prepend_of_apart (h : token.isPlain → ∀ next ∈ tokens.head?, next.isPlain = false) :
    prepend token tokens = token :: tokens := by
  cases tokens with
  | nil => rfl
  | cons next tokens =>
    have apart : (token.isPlain && next.isPlain) = false := by
      cases plain : token.isPlain with
      | false => rfl
      | true => exact h plain next rfl
    rw [prepend, apart, if_neg Bool.false_ne_true]

/-- A plain token in front of a plain one is joined to it. -/
lemma prepend_plain (t u : Text) (tokens : List Token) :
    prepend ⟨.plain, t⟩ (⟨.plain, u⟩ :: tokens) = ⟨.plain, t ++ u⟩ :: tokens := rfl

/-- A token is put before others apart from them, or it is plain text before plain text. -/
lemma prepend_cases (token : Token) (tokens : List Token) :
    (token.isPlain → ∀ next ∈ tokens.head?, next.isPlain = false) ∨
      ∃ t u rest, token = ⟨.plain, t⟩ ∧ tokens = ⟨.plain, u⟩ :: rest := by
  cases tokens with
  | nil => exact .inl fun _ => by simp
  | cons next rest =>
    by_cases both : token.isPlain ∧ next.isPlain
    · exact .inr ⟨_, _, rest, eq_plain_of_isPlain both.1, by rw [← eq_plain_of_isPlain both.2]⟩
    · left
      intro plain other mem
      cases mem
      simpa [plain] using both

/-- A token that can be seen leaves merged tokens merged. -/
lemma IsMerged.prepend (h : IsMerged tokens) (seen : token.isUnseen = false) :
    IsMerged (prepend token tokens) := by
  rcases prepend_cases token tokens with apart | ⟨t, u, rest, rfl, rfl⟩
  · rw [prepend_of_apart apart]
    cases plain : token.isPlain with
    | false => exact .mark plain h
    | true =>
      have ne : token.text ≠ [] := by simpa [isUnseen, plain] using seen
      rw [eq_plain_of_isPlain plain]
      exact .plain ne (apart plain) h
  · rw [prepend_plain]
    cases h with
    | mark mark => cases mark
    | plain ne behind h => exact .plain (by simp [ne]) behind h

/-- An empty plain token is left out. -/
lemma merged_cons_of_isUnseen (h : token.isUnseen) (tokens : List Token) :
    merged (token :: tokens) = merged tokens := by
  rw [merged, List.filter_cons_of_neg (by simp [h]), ← merged]

/-- A token that can be seen is put in front of the merged ones. -/
lemma merged_cons_of_seen (h : token.isUnseen = false) (tokens : List Token) :
    merged (token :: tokens) = prepend token (merged tokens) := by
  rw [merged, List.filter_cons_of_pos (by simp [h]), List.foldr_cons, ← merged]

/-- Merging leaves merged tokens. -/
lemma isMerged_merged (tokens : List Token) : IsMerged (merged tokens) := by
  induction tokens with
  | nil => exact .nil
  | cons token tokens ih =>
    cases seen : token.isUnseen with
    | true =>
      rw [merged_cons_of_isUnseen seen]
      exact ih
    | false =>
      rw [merged_cons_of_seen seen]
      exact ih.prepend seen

/-- What can be told of tokens one by one can be told of merged tokens, if it tells neither of empty
plain text nor of where plain text is cut. -/
lemma eq_merged {α : Type} (view : List Token → α)
    (cons : ∀ token ts us, view ts = view us → view (token :: ts) = view (token :: us))
    (empty : ∀ tokens, view (⟨.plain, []⟩ :: tokens) = view tokens)
    (cut : ∀ t u tokens,
      view (⟨.plain, t⟩ :: ⟨.plain, u⟩ :: tokens) = view (⟨.plain, t ++ u⟩ :: tokens))
    (tokens : List Token) : view tokens = view (merged tokens) := by
  induction tokens with
  | nil => rfl
  | cons token tokens ih =>
    cases seen : token.isUnseen with
    | true =>
      rw [isUnseen, Bool.and_eq_true, List.isEmpty_iff] at seen
      obtain rfl : token = ⟨.plain, []⟩ := by rw [eq_plain_of_isPlain seen.1, seen.2]
      rw [empty, ih, merged_cons_of_isUnseen rfl]
    | false =>
      rw [merged_cons_of_seen seen, cons token _ _ ih]
      rcases prepend_cases token (merged tokens) with apart | ⟨t, u, rest, rfl, e⟩
      · rw [prepend_of_apart apart]
      · rw [e, prepend_plain, cut]

/-- Merging does not change the text that tokens make up. -/
lemma join_merged (tokens : List Token) : join (merged tokens) = join tokens := by
  refine (eq_merged join ?_ ?_ ?_ tokens).symm
  · intro token ts us e
    rw [join_cons, join_cons, e]
  · exact fun _ => rfl
  · intro t u tokens
    rw [join_cons, join_cons, join_cons, List.append_assoc]

/-- Merging does not change the marks of tokens or their places. -/
lemma marksFrom_merged (place : Nat) (tokens : List Token) :
    marksFrom place (merged tokens) = marksFrom place tokens := by
  refine (congrFun (eq_merged (fun tokens place => marksFrom place tokens) ?_ ?_ ?_ tokens) place).symm
  · intro token ts us e
    funext place
    simp only [marksFrom, congrFun e]
  · exact fun _ => rfl
  · intro t u tokens
    funext place
    simp [marksFrom, isPlain, Nat.add_assoc]

end SnippetCost.Token
