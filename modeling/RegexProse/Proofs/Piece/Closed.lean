import RegexProse.Proofs.Piece.Nodes
import RegexProse.Proofs.Token.Closing

/-!
# Closed pieces

Where tokens close the groups that they open and no other, each group among their pieces is closed,
at any depth, and no closer is a piece of its own.
-/

set_option autoImplicit false

namespace RegexProse

namespace GroupBody

open Token (Closed)

/-- The body of a group ends at its closer, and what is inside of it and what is behind it close
their groups. -/
private theorem closed_split (inside outside : Nat) {input : List Token}
    (closed : Closed (inside + outside + 1) input) :
    (split inside input).closer.isSome ∧ Closed inside (split inside input).inner ∧
      Closed outside (split inside input).after := by
  fun_induction split inside input with
  | case1 => cases closed
  | case2 depth opener rest kind opens ih =>
      obtain ⟨follows, later⟩ := closed.of_open opens
      rw [Nat.add_right_comm depth outside 1] at later
      obtain ⟨closer, inner, after⟩ := ih later
      have whole : Token.texts rest = Token.texts (split (depth + 1) rest).inner ++
          Token.texts
            ((split (depth + 1) rest).closer.toList ++ (split (depth + 1) rest).after) := by
        rw [← Token.texts_append, ← List.append_assoc]
        exact congrArg Token.texts (tokens_split (depth + 1) rest).symm
      refine ⟨closer, .enter opens (fun leads => ?_) inner, after⟩
      have first := Quantifier.leads_append leads
        (Token.texts ((split (depth + 1) rest).closer.toList ++ (split (depth + 1) rest).after))
      rw [← whole] at first
      rw [Quantifier.leads, ← first] at leads
      exact first ▸ follows leads
  | case3 closer rest closes =>
      obtain ⟨outer, same, later⟩ := closed.of_close closes
      obtain rfl : outside = outer := by omega
      exact ⟨rfl, .nil, later⟩
  | case4 closer rest closes depth ih =>
      obtain ⟨outer, same, later⟩ := closed.of_close closes
      obtain rfl : outer = depth + outside + 1 := by omega
      obtain ⟨closer, inner, after⟩ := ih later
      exact ⟨closer, .leave closes inner, after⟩
  | case5 depth other rest notOpen notClose ih =>
      obtain ⟨closer, inner, after⟩ := ih (closed.of_other notOpen notClose)
      exact ⟨closer, .pass notOpen notClose inner, after⟩

end GroupBody

namespace Piece

open Token (Closed)

/-- The piece is a group with its closer, or a token that is no closer. -/
def IsClosed : Piece → Prop
  | .single token _ => token.kind ≠ .groupClose
  | .group _ _ _ closer _ => closer.isSome

private theorem closed_drop {depth : Nat} {tokens : List Token} (closed : Closed depth tokens) :
    Closed depth (QuantifierRun.drop tokens) := by
  induction tokens with
  | nil => exact closed
  | cons token rest ih =>
      by_cases repeats : token.isQuantifier
      · obtain ⟨quantifier, kind⟩ := Token.isQuantifier_iff.mp repeats
        rw [QuantifierRun.drop, List.dropWhile_cons_of_pos repeats]
        exact ih (closed.of_other (by simp [kind]) (by simp [kind]))
      · rwa [QuantifierRun.drop, List.dropWhile_cons_of_neg repeats]

/-- All pieces of tokens that close their groups are closed, at any depth. -/
theorem isClosed_of_mem_nodesOf {tokens : List Token} (closed : Closed 0 tokens) {piece : Piece}
    (member : piece ∈ nodesOf (ofTokens tokens)) : piece.IsClosed := by
  fun_induction ofTokens tokens with
  | case1 => cases member
  | case2 token rest kind opens body inside outside =>
      obtain ⟨closer, inner, after⟩ := GroupBody.closed_split 0 0 (closed.of_open opens).2
      simp only [nodesOf, nodes, List.cons_append, List.mem_cons, List.mem_append] at member
      rcases member with rfl | member | member
      · exact closer
      · exact inside inner member
      · exact outside (closed_drop after) member
  | case3 token rest quantifier repeats ih =>
      simp only [nodesOf, nodes, List.cons_append, List.nil_append, List.mem_cons] at member
      rcases member with rfl | member
      · simp [IsClosed, repeats]
      · exact ih (closed.of_other (by simp [repeats]) (by simp [repeats])) member
  | case4 token rest notOpen notQuantifier ih =>
      simp only [nodesOf, nodes, List.cons_append, List.nil_append, List.mem_cons] at member
      have notClose : token.kind ≠ .groupClose := by
        intro closes
        obtain ⟨outer, same, -⟩ := closed.of_close closes
        cases same
      rcases member with rfl | member
      · exact notClose
      · exact ih (closed_drop (closed.of_other notOpen notClose)) member

end Piece

end RegexProse
