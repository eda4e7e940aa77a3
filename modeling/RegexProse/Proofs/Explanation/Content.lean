import RegexProse.Explanation
import RegexProse.Proofs.Piece.Shift

/-!
# Explanations of groups

The explanation of a group is made of the explanation of its content: what is inside a group means
what it means as a pattern of its own.
-/

set_option autoImplicit false

namespace RegexProse.Explanation

/-- The node of a group describes the content that the group has in the tokens, and its children
explain that content on its own. -/
def ExplainsContent (tokens : List Token) : Piece → Component → Prop
  | .single token _, _ => ∀ kind, token.kind ≠ .groupOpen kind
  | .group opener kind _ _ run, node =>
      opener.kind = .groupOpen kind ∧ ∃ index, tokens[index]? = some opener ∧
        let content := (GroupSpan.resolve tokens index).content
        node.description = Description.groupWords kind content ++ QuantifierRun.words run ∧
          node.children = (ofPattern content).components

/-- Tokens of a pattern in a row are explained as the text that they cover. -/
theorem components_ofTokens_slice {pattern : Text} {before slice after : List Token}
    (whole : Token.tokenize pattern = before ++ slice ++ after) :
    Piece.components (Piece.ofTokens slice) = (ofPattern (Token.texts slice)).components := by
  have moved := Piece.components_map_shift (Token.texts before).byteLength
    (Token.tokenize (Token.texts slice))
  rwa [Token.map_shift_tokenize whole] at moved

/-- The children of every group at any depth are the explanation of the content of the group, closed
or not, as a pattern of its own. -/
theorem children_eq_components_of_content (pattern : Text) :
    List.Forall₂ (ExplainsContent (Token.tokenize pattern))
      (Piece.nodesOf (Piece.ofTokens (Token.tokenize pattern)))
      (Component.nodesOf (ofPattern pattern).components) := by
  refine Piece.forall₂_nodesOf fun index piece stands => ?_
  cases stands with
  | single _ notOpen => exact notOpen
  | @group before after opener kind run whole opens =>
      have tokens : Token.tokenize pattern =
          (before ++ [opener]) ++ (GroupBody.split 0 after).inner ++
            ((GroupBody.split 0 after).closer.toList ++ (GroupBody.split 0 after).after) := by
        have body := GroupBody.tokens_split 0 after
        rw [GroupBody.tokens, List.append_assoc] at body
        rw [whole, List.append_assoc, body, List.append_assoc]
        rfl
      refine ⟨opens, before.length, by simp [whole], ?_⟩
      rw [whole, GroupSpan.resolve_eq]
      constructor
      · rw [Piece.component, Piece.tokensOf_ofTokens]
      · rw [Piece.component]
        exact components_ofTokens_slice tokens

end RegexProse.Explanation
