import SnippetCost.Proofs.Yaml.Cutting

/-!
# Reading a written document

The tokens of a tree are read as its node, whatever follows them. Every step of the descent takes a
token or leads to one that does, so as many steps as there are tokens are enough.

The mutual induction over trees is `readNode_tokens` and `readBlockMembers_tokens`, and the main
result is `Node.read?_write`.
-/

namespace SnippetCost.Yaml

open SnippetCost.Yaml.Tree

variable {d : Directives} {names : AnchorNames} {ts : List Token}

/-- A tree begins with a token that begins a node without marks. -/
lemma Tree.tokens_head (v : Tree) :
    (∃ style t ts, v.tokens = .scalar style t :: ts) ∨ ∃ ts, v.tokens = .blockStart :: ts := by
  cases v with
  | leaf plain t => exact .inl ⟨_, _, _, rfl⟩
  | mapping ms => exact .inr ⟨_, rfl⟩

/-- Where a tree begins there is a node. -/
lemma readNodeOrNothing_tokens (v : Tree) (fuel : Nat) :
    readNodeOrNothing d endsBlockNode (fuel + 1) names (v.tokens ++ ts) =
      readNode d fuel names (v.tokens ++ ts) := by
  rw [readNodeOrNothing]
  obtain ⟨style, t, rest, head⟩ | ⟨rest, head⟩ := v.tokens_head <;> rw [head] <;> rfl

/-- The value behind a key is read as a node. -/
lemma readValue_tokens (v : Tree) (fuel : Nat) :
    readValue d endsBlockNode (fuel + 2) names (.value :: v.tokens ++ ts) =
      readNode d fuel names (v.tokens ++ ts) := by
  rw [List.cons_append, readValue, readNodeOrNothing_tokens]

mutual

/-- A tree is read as its node. -/
lemma readNode_tokens (d : Directives) (names : AnchorNames) (v : Tree) (ts : List Token)
    (fuel : Nat) (enough : v.tokens.length ≤ fuel) :
    readNode d fuel names (v.tokens ++ ts) = some (v.node, names, ts) := by
  cases fuel with
  | zero => cases v <;> cases enough
  | succ fuel =>
    cases v with
    | leaf plain t => rfl
    | mapping ms =>
      have shorter : (memberTokens ms).length < fuel := by
        simp only [Tree.tokens, List.length_append, List.length_cons, List.length_nil] at enough
        omega
      have members := readBlockMembers_tokens d names ms ts fuel shorter
      simp [readNode, Tree.tokens, AnchorNames.note, Tree.node, Marks.read?, members]

/-- The members of a mapping are read as those of its node. -/
lemma readBlockMembers_tokens (d : Directives) (names : AnchorNames) (ms : List (Text × Tree))
    (ts : List Token) (fuel : Nat) (enough : (memberTokens ms).length < fuel) :
    readBlockMembers d fuel names (memberTokens ms ++ .blockEnd :: ts) =
      some (memberNodes ms, names, ts) := by
  match ms, fuel with
  | [], fuel + 1 => rfl
  | (key, value) :: ms, fuel + 1 =>
    have length : (memberTokens ((key, value) :: ms)).length =
        value.tokens.length + (memberTokens ms).length + 3 := by
      simp [memberTokens]
    rw [length] at enough
    -- It takes two steps to come to the node of a value.
    obtain ⟨fuel, rfl⟩ : ∃ n, fuel = n + 2 := ⟨fuel - 2, by omega⟩
    have keyNode : ∀ ts, readNodeOrNothing d endsBlockNode (fuel + 2) names
        (.scalar .plain key :: ts) = some (.leaf (.scalar { text := key }), names, ts) :=
      fun _ => rfl
    have valueNode := readNode_tokens d names value (memberTokens ms ++ .blockEnd :: ts) fuel
      (by omega)
    have members := readBlockMembers_tokens d names ms ts (fuel + 2) (by omega)
    have written : memberTokens ((key, value) :: ms) ++ .blockEnd :: ts =
        .key :: .scalar .plain key ::
          (.value :: value.tokens ++ (memberTokens ms ++ .blockEnd :: ts)) := by
      simp [memberTokens]
    rw [written, readBlockMembers]
    simp only [keyNode, Option.bind_eq_bind, Option.bind_some, Node.leaf?, readValue_tokens,
      valueNode, members]
    rfl

end

/-- What is written is read as the node that it stands for. -/
theorem Node.read?_write {ms : List (Text × Tree)} (h : (Tree.mapping ms).IsReadable) :
    Node.read? (Tree.mapping ms).write = some (Tree.mapping ms).node := by
  have root : readRoot (Tree.mapping ms).tokens = some ((Tree.mapping ms).node, []) := by
    have read := readNode_tokens {} [] (.mapping ms) [] (3 * (Tree.mapping ms).tokens.length + 3)
      (by omega)
    obtain ⟨rest, head⟩ : ∃ rest, (Tree.mapping ms).tokens = .blockStart :: rest := ⟨_, rfl⟩
    rw [List.append_nil, head, List.length_cons] at read
    simp [head, readRoot, Directives.read?, read]
  rw [Node.read?, tokens?_write h]
  simp [root]

end SnippetCost.Yaml
