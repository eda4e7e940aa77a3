import RegexProse.Explanation
import RegexProse.Proofs.Group.Resolution
import RegexProse.Proofs.Piece.Openings

/-!
# Spans of explained groups

The groups of an explanation are those that the resolver of groups finds in the tokens of the whole
pattern. The explanation is made from the inside of each group on its own; that no group there
reaches for a closer outside is what makes the two agree.
-/

set_option autoImplicit false

namespace RegexProse

/-- Whether the component explains a group. The only other components of that kind explain a flag
setting. -/
def Component.explainsGroup (component : Component) : Bool :=
  component.kind = .group && !("(set flags: " : Text).isPrefixOf component.description

private theorem Description.prefix_flagsWords (text : Text) :
    ("(set flags: " : Text) <+: flagsWords text :=
  (List.prefix_append _ _).trans (List.prefix_append _ _)

namespace Piece

theorem explainsGroup_component {tokens : List Token} {piece : Piece}
    (stands : Stands tokens piece) : (component piece).explainsGroup = piece.isGroup := by
  obtain ⟨index, stands⟩ := stands
  cases stands with
  | @single before after token run whole notOpen quantifiers =>
      have other : (Description.ofToken token).kind ≠ .group →
          (component (.single token run)).explainsGroup = false := by
        intro notGroup
        have kind : (component (.single token run)).kind ≠ .group := notGroup
        rw [Component.explainsGroup, decide_eq_false kind, Bool.false_and]
      rw [isGroup]
      cases kind : token.kind with
      | groupOpen opened => exact absurd kind (notOpen opened)
      | setFlags =>
          have words : (Description.ofToken token).words = Description.flagsWords token.text := by
            rw [Description.ofToken, kind]
          have begins : ("(set flags: " : Text) <+:
              (component (.single token run)).description := by
            rw [component, words]
            exact (Description.prefix_flagsWords token.text).trans (List.prefix_append _ _)
          rw [Component.explainsGroup, List.isPrefixOf_iff_prefix.mpr begins, Bool.not_true,
            Bool.and_false]
      | escape char =>
          apply other
          unfold Description.ofToken
          rw [kind]
          show (Description.ofEscape char).kind ≠ .group
          unfold Description.ofEscape
          split <;> exact ComponentKind.noConfusion
      | bracket | groupClose | quantifier | anyChar | startAnchor | endAnchor | literal =>
          apply other
          unfold Description.ofToken
          rw [kind]
          exact ComponentKind.noConfusion
  | @group before after opener kind run whole opens quantifiers => cases kind <;> rfl

end Piece

namespace Explanation

open GroupSpan (resolve_eq)

/-- The node explains the group that the token at the index opens, as it is resolved in the whole
token list: its description begins with the words for that kind of group and its content, it is
unterminated if the group is not closed, and its children explain the tokens inside. -/
def ExplainsSpan (tokens : List Token) (index : Nat) (node : Component) : Prop :=
  ∃ opener kind, tokens[index]? = some opener ∧ opener.kind = .groupOpen kind ∧
    let span := GroupSpan.resolve tokens index
    Description.groupWords kind span.content <+: node.description ∧
      node.unterminated = !span.closed ∧
      node.children = Piece.components (Piece.ofTokens ((tokens.take span.stop).drop span.start))

theorem drop_take_resolve (before : List Token) (opener : Token) (after : List Token) :
    let tokens := before ++ opener :: after
    let span := GroupSpan.resolve tokens before.length
    (tokens.take span.stop).drop span.start = (GroupBody.split 0 after).inner := by
  intro tokens span
  have behind : tokens.drop (before.length + 1) = after := by simp [tokens]
  exact behind ▸ GroupSpan.slice_resolve tokens before.length

/-- The groups of an explanation are those of the openers among all tokens, in the same order, each
with the span that the resolver gives it there. -/
theorem groups_explain_spans (pattern : Text) :
    List.Forall₂ (ExplainsSpan (Token.tokenize pattern))
      ((Token.tokenize pattern).findIdxs Token.opensGroup)
      ((Component.nodesOf (ofPattern pattern).components).filter Component.explainsGroup) := by
  have same : ((Component.nodesOf (ofPattern pattern).components).filter
      Component.explainsGroup) =
      ((Piece.nodesOf (Piece.ofTokens (Token.tokenize pattern))).filter Piece.isGroup).map
        Piece.component := by
    rw [ofPattern, Piece.nodesOf_components, List.filter_map]
    congr 1
    apply List.filter_congr
    intro piece member
    exact Piece.explainsGroup_component (Piece.stands_of_mem_nodesOf member)
  rw [same, List.forall₂_map_right_iff]
  generalize Token.tokenize pattern = tokens
  have found := (List.forall₂_and_left _ _).mpr
    ⟨fun _ => Token.mem_openers_iff.mp, Piece.forall₂_standsAt tokens⟩
  refine found.imp fun index piece ⟨⟨left, token, right, split, opened, length⟩, stands⟩ => ?_
  cases stands with
  | single whole notOpen =>
      obtain ⟨rfl, same⟩ := List.append_inj (whole.symm.trans split) length
      obtain ⟨rfl, -⟩ := List.cons.inj same
      obtain ⟨kind, opens⟩ := Token.opensGroup_iff.mp opened
      exact absurd opens (notOpen kind)
  | @group before after opener kind run whole opens =>
      subst whole
      refine ⟨opener, kind, by simp, opens, ?_, ?_, ?_⟩
      · rw [resolve_eq, Piece.component, Piece.tokensOf_ofTokens]
        exact List.prefix_append _ _
      · rw [resolve_eq, Piece.component]
        simp
      · rw [drop_take_resolve, Piece.component]

end Explanation

end RegexProse
