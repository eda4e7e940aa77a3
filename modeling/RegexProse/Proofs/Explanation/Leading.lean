import RegexProse.Proofs.Explanation.Binding
import RegexProse.Proofs.Explanation.Spans

/-!
# Leading quantifiers

In every list of components, those of the quantifiers with nothing before them come first. There is
one for each quantifier with which the tokens of the list begin, and nothing is folded into it.
-/

set_option autoImplicit false

namespace RegexProse

namespace Component

/-- The component explains the quantifier of one token, with nothing folded into it. -/
def Alone (token : Token) (component : Component) : Prop :=
  ∃ quantifier, token.kind = .quantifier quantifier ∧
    component = ⟨.quantifier, token.text, quantifier.phrase, [], false⟩

/-- The components begin with one for each quantifier that leads the tokens, and none of the others
is a quantifier. -/
def Lead (tokens : List Token) (components : List Component) : Prop :=
  ∃ alone bound, components = alone ++ bound ∧
    List.Forall₂ Alone (tokens.takeWhile Token.isQuantifier) alone ∧
    ∀ component ∈ bound, component.kind ≠ .quantifier

theorem Lead.none {tokens : List Token} {components : List Component} (lead : Lead tokens components)
    (first : ∀ token ∈ tokens.head?, ¬ token.isQuantifier) :
    ∀ component ∈ components, component.kind ≠ .quantifier := by
  obtain ⟨alone, bound, rfl, leading, none⟩ := lead
  have nothing : tokens.takeWhile Token.isQuantifier = [] := by
    cases tokens with
    | nil => rfl
    | cons token rest => exact List.takeWhile_cons_of_neg (first token rfl)
  rw [nothing, List.forall₂_nil_left_iff] at leading
  rw [leading]
  exact none

private theorem Lead.of_none {token : Token} {rest : List Token} {components : List Component}
    (notRepeats : ¬ token.isQuantifier)
    (none : ∀ component ∈ components, component.kind ≠ .quantifier) :
    Lead (token :: rest) components := by
  refine ⟨[], components, rfl, ?_, none⟩
  rw [List.takeWhile_cons_of_neg notRepeats]
  exact .nil

theorem Lead.cons {token : Token} {rest : List Token} {components : List Component}
    {quantifier : Quantifier} (repeats : token.kind = .quantifier quantifier)
    (lead : Lead rest components) :
    Lead (token :: rest)
      (⟨.quantifier, token.text, quantifier.phrase, [], false⟩ :: components) := by
  obtain ⟨alone, bound, rfl, leading, none⟩ := lead
  have isQuantifier : token.isQuantifier := Token.isQuantifier_iff.mpr ⟨quantifier, repeats⟩
  refine ⟨_ :: alone, bound, rfl, ?_, none⟩
  rw [List.takeWhile_cons_of_pos isQuantifier]
  exact .cons ⟨quantifier, repeats, rfl⟩ leading

end Component

namespace Piece

private theorem component_alone {token : Token} {quantifier : Quantifier}
    (repeats : token.kind = .quantifier quantifier) :
    component (.single token []) = ⟨.quantifier, token.text, quantifier.phrase, [], false⟩ := by
  simp [component, Description.ofToken, repeats, text_single, QuantifierRun.words,
    QuantifierRun.wordsAfter]

/-- Only the quantifiers at the front of the tokens have nothing before them. -/
theorem lead_components (tokens : List Token) :
    Component.Lead tokens (components (ofTokens tokens)) := by
  fun_induction ofTokens tokens with
  | case1 => exact ⟨[], [], rfl, .nil, by simp⟩
  | case2 token rest kind opens body inside outside =>
      have notRepeats : ¬ token.isQuantifier := by simp [Token.isQuantifier_iff, opens]
      refine .of_none notRepeats (List.forall_mem_cons.mpr ⟨ComponentKind.noConfusion, ?_⟩)
      exact outside.none (head?_drop_not_quantifier body.after)
  | case3 token rest quantifier repeats ih =>
      rw [components, component_alone repeats]
      exact .cons repeats ih
  | case4 token rest notOpen notQuantifier ih =>
      have notRepeats : ¬ token.isQuantifier := by simpa [Token.isQuantifier_iff] using notQuantifier
      refine .of_none notRepeats (List.forall_mem_cons.mpr ⟨?_, ?_⟩)
      · rw [Ne, kind_component]
        exact notRepeats
      · exact ih.none (head?_drop_not_quantifier rest)

end Piece

namespace Explanation

/-- The children of the node are led by the quantifiers that lead the content of the group, as the
resolver of groups finds it among the tokens. A node that explains no group has no children. -/
def LeadsContent (tokens : List Token) : Piece → Component → Prop
  | .single token _, node => (∀ kind, token.kind ≠ .groupOpen kind) ∧ node.children = []
  | .group opener kind _ _ _, node =>
      opener.kind = .groupOpen kind ∧ ∃ index, tokens[index]? = some opener ∧
        let span := GroupSpan.resolve tokens index
        Component.Lead ((tokens.take span.stop).drop span.start) node.children

/-- Quantifiers that stand alone lead the list in which they are, at every depth. -/
theorem quantifiers_lead (pattern : Text) :
    Component.Lead (Token.tokenize pattern) (ofPattern pattern).components ∧
      List.Forall₂ (LeadsContent (Token.tokenize pattern))
        (Piece.nodesOf (Piece.ofTokens (Token.tokenize pattern)))
        (Component.nodesOf (ofPattern pattern).components) := by
  refine ⟨Piece.lead_components (Token.tokenize pattern), ?_⟩
  refine Piece.forall₂_nodesOf fun index piece stands => ?_
  generalize Token.tokenize pattern = tokens at stands
  cases stands with
  | single _ notOpen => exact ⟨notOpen, rfl⟩
  | @group before after opener kind run whole opens =>
      subst whole
      have slice := drop_take_resolve before opener after
      refine ⟨opens, before.length, by simp, ?_⟩
      dsimp only at slice ⊢
      rw [slice]
      exact Piece.lead_components (GroupBody.split 0 after).inner

end Explanation

end RegexProse
