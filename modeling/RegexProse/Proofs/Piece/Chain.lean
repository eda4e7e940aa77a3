import RegexProse.Proofs.Piece.Matching

/-!
# The chain of unterminated groups

A group without closer takes all that follows, so it is the last piece of its row, nothing is on it,
and the row itself is at the top or the content of another such group. The unterminated groups of a
token list are a chain, one at each depth from the top downwards.
-/

set_option autoImplicit false

namespace RegexProse.Piece

/-- Pieces in a row, closed at any depth, and a chain of as many groups as the number says which are
not: the last piece of the row, the last piece of its content, and so on. -/
inductive Chain : Nat → List Piece → Prop where
  | nil : Chain 0 []
  | closed {count : Nat} {piece : Piece} {rest : List Piece} :
      (∀ node ∈ nodes piece, ¬ node.isUnterminated) → Chain count rest → Chain count (piece :: rest)
  | opened {count : Nat} {opener : Token} {kind : GroupKind} {content : List Piece} :
      Chain count content → Chain (count + 1) [.group opener kind content none []]

theorem unterminated_component (piece : Piece) :
    (component piece).unterminated = piece.isUnterminated := by
  cases piece with
  | single token run => rfl
  | group opener kind content closer run => rfl

theorem chain_ofTokens (tokens : List Token) : ∃ count, Chain count (ofTokens tokens) := by
  fun_induction ofTokens tokens with
  | case1 => exact ⟨0, .nil⟩
  | case2 token rest kind opens body inside outside =>
      cases closer : body.closer with
      | none =>
          obtain ⟨count, chain⟩ := inside
          have nothing : body.after = [] := GroupBody.after_eq_nil_of_closer_eq_none closer
          refine ⟨count + 1, ?_⟩
          rw [nothing, QuantifierRun.take, QuantifierRun.drop, List.takeWhile_nil,
            List.dropWhile_nil, ofTokens]
          exact .opened chain
      | some last =>
          obtain ⟨count, chain⟩ := outside
          have closed : (GroupBody.split 0 rest).closer.isSome := Option.isSome_of_eq_some closer
          have inner := List.countP_eq_zero.mp (countP_inner closed)
          refine ⟨count, .closed (fun node member => ?_) chain⟩
          rcases List.mem_cons.mp member with rfl | member
          · exact Bool.false_ne_true
          · exact inner node member
  | case3 token rest quantifier repeats ih =>
      obtain ⟨count, chain⟩ := ih
      exact ⟨count, .closed (by simp [nodes, isUnterminated]) chain⟩
  | case4 token rest notOpen notQuantifier ih =>
      obtain ⟨count, chain⟩ := ih
      exact ⟨count, .closed (by simp [nodes, isUnterminated]) chain⟩

namespace Chain

variable {count : Nat} {pieces : List Piece}

theorem last {before after : List Piece} {piece : Piece}
    (chain : Chain count (before ++ piece :: after)) (unterminated : piece.isUnterminated) :
    after = [] ∧ ∃ opener kind content, piece = .group opener kind content none [] := by
  induction before generalizing count with
  | nil =>
      cases chain with
      | closed closed => exact absurd unterminated (closed piece (mem_nodes piece))
      | opened => exact ⟨rfl, _, _, _, rfl⟩
  | cons first before ih =>
      generalize whole : first :: before ++ piece :: after = row at chain
      cases chain with
      | nil => simp at whole
      | closed closed chain =>
          obtain ⟨rfl, rfl⟩ := List.cons.inj whole
          exact ih chain
      | opened => simp at whole

theorem countP_eq (chain : Chain count pieces) :
    (nodesOf pieces).countP isUnterminated = count := by
  induction chain with
  | nil => rfl
  | closed closed chain ih =>
      rw [nodesOf, List.countP_append, ih, List.countP_eq_zero.mpr closed, Nat.zero_add]
  | opened chain ih =>
      rw [nodesOf, nodes, nodesOf, List.append_nil, List.countP_cons_of_pos rfl, ih]

/-- The depths of the unterminated groups, in the order in which the pieces are listed. -/
theorem depths (chain : Chain count pieces) (depth : Nat) :
    ((Component.outlineOf depth (components pieces)).filter (·.2.unterminated)).map Prod.fst =
      List.range' depth count := by
  induction chain generalizing depth with
  | nil => rfl
  | @closed count piece rest closed chain ih =>
      have none : (Component.outline depth (component piece)).filter (·.2.unterminated) = [] := by
        rw [List.filter_eq_nil_iff]
        intro entry member
        have listed := List.mem_map_of_mem (f := Prod.snd) member
        rw [outline_component, List.mem_map] at listed
        obtain ⟨node, inside, same⟩ := listed
        rw [← same, unterminated_component]
        exact closed node inside
      rw [components, Component.outlineOf, List.filter_append, none, List.nil_append, ih]
  | @opened count opener kind content chain ih =>
      simp only [components, component, Component.outlineOf, Component.outline, List.append_nil]
      rw [List.filter_cons_of_pos (by rfl), List.map_cons, ih, List.range'_succ]

end Chain

/-- A pass over the tokens leaves one opener for each unterminated group. -/
theorem chain_waiting (tokens : List Token) :
    Chain (GroupMatching.ofTokens tokens).waiting.length (ofTokens tokens) := by
  obtain ⟨count, chain⟩ := chain_ofTokens tokens
  obtain ⟨waiting, -⟩ := length_run tokens 0 ⟨[], [], []⟩
  have same : count = (GroupMatching.ofTokens tokens).waiting.length := by
    rw [GroupMatching.ofTokens, waiting, unterminated, chain.countP_eq]
    simp
  exact same ▸ chain

end RegexProse.Piece
