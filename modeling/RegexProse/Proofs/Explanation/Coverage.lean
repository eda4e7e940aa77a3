import RegexProse.Explanation
import RegexProse.Proofs.Piece.Nodes
import RegexProse.Proofs.Token.Slice

/-!
# Coverage

The components of a pattern cover it, and the components of a group cover its content: no character
is lost and none is shown twice.
-/

set_option autoImplicit false

namespace RegexProse.Explanation

/-- The characters that components in a row cover. -/
def raws (components : List Component) : Text := components.flatMap Component.raw

/-- The node covers the tokens of its piece: those of a group are its opener, what its children
cover, its closer if it has one, and the quantifiers on it. -/
def Covers : Piece → Component → Prop
  | .single token run, node =>
      (∀ kind, token.kind ≠ .groupOpen kind) ∧ (∀ quantifier ∈ run, quantifier.isQuantifier) ∧
        node.children = [] ∧ node.raw = token.text ++ Token.texts run
  | .group opener kind _ _ run, node =>
      opener.kind = .groupOpen kind ∧ (∀ quantifier ∈ run, quantifier.isQuantifier) ∧
        node.raw = opener.text ++ raws node.children ++ (if node.unterminated then [] else [')']) ++
          Token.texts run ∧
        node.description = '(' :: (kind.label ++ ": " ++ raws node.children ++ [')']) ++
          QuantifierRun.words run

theorem raws_components (pieces : List Piece) :
    raws (Piece.components pieces) = Token.texts (Piece.tokensOf pieces) := by
  induction pieces with
  | nil => rfl
  | cons piece rest ih =>
      rw [raws, Piece.components, List.flatMap_cons, Piece.raw_component, ← raws, ih]
      exact (Token.texts_append piece.tokens (Piece.tokensOf rest)).symm

/-- The closer of a group that a pattern holds is a parenthesis. -/
private theorem texts_closer {pattern : Text} {before after : List Token} {opener : Token}
    (whole : Token.tokenize pattern = before ++ opener :: after) (depth : Nat) :
    Token.texts (GroupBody.split depth after).closer.toList =
      if (GroupBody.split depth after).closer.isNone then [] else [')'] := by
  cases closer : (GroupBody.split depth after).closer with
  | none => rfl
  | some token =>
      have held : token ∈ after := by
        rw [← GroupBody.tokens_split depth after, GroupBody.tokens, closer]
        simp
      have member : token ∈ Token.tokenize pattern := by
        rw [whole]
        exact List.mem_append_right before (List.mem_cons_of_mem opener held)
      have spelled := Token.spelled_of_mem_tokenize member
      rw [GroupBody.kind_closer closer] at spelled
      have text := spelled.text_groupClose
      simp [text]

/-- Nothing is lost and nothing is duplicated, at any depth. -/
theorem raws_cover (pattern : Text) :
    raws (ofPattern pattern).components = pattern ∧
      List.Forall₂ Covers (Piece.nodesOf (Piece.ofTokens (Token.tokenize pattern)))
        (Component.nodesOf (ofPattern pattern).components) := by
  constructor
  · rw [ofPattern, raws_components, Piece.tokensOf_ofTokens, Token.tokenize,
      Token.texts_tokenizeFrom]
  refine Piece.forall₂_nodesOf fun index piece stands => ?_
  cases stands with
  | single _ notOpen quantifiers => exact ⟨notOpen, quantifiers, rfl, rfl⟩
  | @group before after opener kind run whole opens quantifiers =>
      have closer := texts_closer whole 0
      refine ⟨opens, quantifiers, ?_, ?_⟩
      · simp only [Piece.component, Piece.text_group, raws_components, closer, List.append_assoc]
      · simp only [Piece.component, raws_components, Description.groupWords, List.cons_append,
          List.nil_append]

end RegexProse.Explanation
