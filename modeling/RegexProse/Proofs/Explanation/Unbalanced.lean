import RegexProse.Proofs.Explanation.Balance
import RegexProse.Proofs.Explanation.Coverage
import RegexProse.Proofs.Piece.Chain

/-!
# Explanations of unbalanced patterns

What becomes of openers without closer and of closers without opener in the explanation of a pattern
that is not validated.
-/

set_option autoImplicit false

namespace RegexProse

/-- All rows of components in a tree, each with the component of which it is the content. -/
def Component.rows (components : List Component) : List (Option Component × List Component) :=
  (none, components) :: (nodesOf components).map fun node => (some node, node.children)

namespace Explanation

open Component (rows nodesOf outlineOf)

/-- The component is that of an opener and of its children, without closer and quantifiers. -/
def IsOpening (tokens : List Token) (node : Component) : Prop :=
  ∃ opener ∈ tokens, ∃ kind, opener.kind = .groupOpen kind ∧
    node.raw = opener.text ++ raws node.children ∧
      node.description = Description.groupWords kind (raws node.children)

private theorem last_of_unterminated {tokens : List Token} {before after : List Component}
    {node : Component} (row : Piece.components (Piece.ofTokens tokens) = before ++ node :: after)
    (unterminated : node.unterminated) :
    after = [] ∧ node.raw <:+ Token.texts tokens ∧ IsOpening tokens node := by
  rw [Piece.components_eq_map] at row
  obtain ⟨left, more, whole, -, same⟩ := List.map_eq_append_iff.mp row
  obtain ⟨piece, right, rfl, rfl, rfl⟩ := List.map_eq_cons_iff.mp same
  rw [Piece.unterminated_component] at unterminated
  have chain := Piece.chain_waiting tokens
  rw [whole] at chain
  obtain ⟨rfl, opener, kind, content, rfl⟩ := chain.last unterminated
  have member : Piece.group opener kind content none [] ∈ Piece.ofTokens tokens := by simp [whole]
  obtain ⟨held, opens⟩ := (Piece.stands_of_mem_ofTokens member).opener_mem
  have covered := Piece.tokensOf_ofTokens tokens
  rw [whole, Piece.tokensOf_append, Piece.tokensOf, Piece.tokensOf, List.append_nil] at covered
  refine ⟨rfl, ?_, opener, held, kind, opens, ?_, ?_⟩
  · rw [← covered, Token.texts_append]
    exact List.suffix_append _ _
  · simp [Piece.component, Piece.text_group, raws_components]
  · simp [Piece.component, raws_components, QuantifierRun.words, QuantifierRun.wordsAfter]

/-- The row below a component of tokens, if there is one, is the content of a group. -/
private theorem exists_inner {tokens : List Token} {outer : Component}
    (member : outer ∈ nodesOf (Piece.components (Piece.ofTokens tokens))) :
    outer.children = [] ∨ ∃ before after, tokens = before ++ after ∧
      outer.children = Piece.components (Piece.ofTokens (GroupBody.split 0 after).inner) ∧
        outer.unterminated = (GroupBody.split 0 after).closer.isNone := by
  rw [Piece.nodesOf_components] at member
  obtain ⟨piece, inside, rfl⟩ := List.mem_map.mp member
  obtain ⟨index, stands⟩ := Piece.stands_of_mem_nodesOf inside
  cases stands with
  | single whole notOpen quantifiers => exact .inl (by rw [Piece.component])
  | @group before after opener kind run whole opens quantifiers =>
      refine .inr ⟨before ++ [opener], after, by simp [whole], ?_, ?_⟩
      · rw [Piece.component]
      · rw [Piece.component]

/-- In any row of a component tree, a component that is unterminated is the last, and the one around
it is unterminated too. -/
private theorem last_in_row {tokens : List Token} {parent : Option Component}
    {before after : List Component} {node : Component}
    (member : (parent, before ++ node :: after) ∈
      rows (Piece.components (Piece.ofTokens tokens)))
    (unterminated : node.unterminated) :
    after = [] ∧ node.raw <:+ Token.texts tokens ∧ IsOpening tokens node ∧
      ∀ outer ∈ parent, outer.unterminated := by
  rcases List.mem_cons.mp member with top | below
  · obtain ⟨rfl, row⟩ := Prod.mk.inj top
    obtain ⟨rfl, suffix, opening⟩ := last_of_unterminated row.symm unterminated
    exact ⟨rfl, suffix, opening, fun outer absent => by cases absent⟩
  · obtain ⟨outer, inside, same⟩ := List.mem_map.mp below
    obtain ⟨rfl, children⟩ := Prod.mk.inj same
    rcases exists_inner inside with empty | ⟨front, back, whole, row, unclosed⟩
    · rw [children] at empty
      simp at empty
    rw [children] at row
    obtain ⟨rfl, suffix, opener, held, opening⟩ := last_of_unterminated row.symm unterminated
    cases closer : (GroupBody.split 0 back).closer with
    | some last =>
        have closed : (GroupBody.split 0 back).closer.isSome := Option.isSome_of_eq_some closer
        have listed : node ∈ Piece.components (Piece.ofTokens (GroupBody.split 0 back).inner) := by
          rw [← row]
          simp
        rw [Piece.components_eq_map] at listed
        obtain ⟨piece, held, rfl⟩ := List.mem_map.mp listed
        rw [Piece.unterminated_component] at unterminated
        exact absurd unterminated (List.countP_eq_zero.mp (Piece.countP_inner closed) piece
          (Piece.mem_nodesOf held))
    | none =>
        rw [GroupBody.inner_eq closer] at suffix held
        rw [whole, Token.texts_append]
        refine ⟨rfl, suffix.trans (List.suffix_append _ _), ⟨opener, ?_, opening⟩, ?_⟩
        · exact List.mem_append_right front held
        · intro other same
          rw [← Option.some.inj same, unclosed, closer]
          rfl

private theorem head?_raw_iff {pattern : Text} {piece : Piece}
    (stands : Piece.Stands (Token.tokenize pattern) piece) :
    (Piece.component piece).raw.head? = some ')' ↔ piece.isStray := by
  obtain ⟨index, stands⟩ := stands
  cases stands with
  | @single before after token run whole notOpen quantifiers =>
      have held : token ∈ Token.tokenize pattern := by simp [whole]
      rw [Piece.isStray, decide_eq_true_iff]
      have spelled := Token.spelled_of_mem_tokenize held
      refine ⟨spelled.eq_groupClose, fun closes => ?_⟩
      rw [closes] at spelled
      rw [Piece.component, Piece.text_single, spelled.text_groupClose]
      rfl
  | @group before after opener kind run whole opens quantifiers =>
      rw [Piece.isStray]
      refine ⟨fun closing => ?_, fun absent => absurd absent Bool.false_ne_true⟩
      have held : opener ∈ Token.tokenize pattern := by simp [whole]
      have closes := (Token.spelled_of_mem_tokenize held).eq_groupClose closing
      rw [opens] at closes
      cases closes

/-- A closer that stands on its own has no component around it. -/
private theorem top_of_closing {pattern : Text} {parent : Option Component} {row : List Component}
    (member : (parent, row) ∈ rows (ofPattern pattern).components) {node : Component}
    (held : node ∈ row) (closing : node.raw.head? = some ')') : parent = none := by
  rcases List.mem_cons.mp member with top | below
  · exact (Prod.mk.inj top).1
  · obtain ⟨outer, inside, same⟩ := List.mem_map.mp below
    obtain ⟨rfl, rfl⟩ := Prod.mk.inj same
    rcases exists_inner inside with empty | ⟨front, back, whole, content, -⟩
    · rw [empty] at held
      cases held
    rw [content, Piece.components_eq_map] at held
    obtain ⟨piece, inner, rfl⟩ := List.mem_map.mp held
    obtain ⟨index, stands⟩ := Piece.stands_of_mem_ofTokens inner
    have moved := stands.inside.behind front
    rw [← whole] at moved
    exact absurd ((head?_raw_iff ⟨_, moved⟩).mp closing) (Piece.not_isStray_of_mem_inner inner)

private theorem countP_closing (pattern : Text) :
    (ofPattern pattern).components.countP (·.raw.head? = some ')') =
      (GroupMatching.ofTokens (Token.tokenize pattern)).strays.length := by
  have found := (Piece.length_run (Token.tokenize pattern) 0 ⟨[], [], []⟩).2
  rw [GroupMatching.ofTokens, found, ofPattern, Piece.components_eq_map, List.countP_map]
  simp only [List.length_nil, Nat.sub_zero, Nat.zero_add, Piece.strays]
  apply List.countP_congr
  intro piece member
  have stands := Piece.stands_of_mem_ofTokens member
  rw [← head?_raw_iff stands]
  simp

/-- The explanation of any pattern, however its parentheses are matched. The unterminated components
are a chain from the top downwards, each the last of its row and without quantifiers, and explain
the openers for which a pass over the tokens finds no closer; the closers for which it finds no
opener are explained at the top. -/
theorem unbalanced_shape (pattern : Text) :
    let tokens := Token.tokenize pattern
    let components := (ofPattern pattern).components
    let matching := GroupMatching.ofTokens tokens
    (∀ parent before node after, (parent, before ++ node :: after) ∈ rows components →
        node.unterminated → after = [] ∧ node.raw <:+ pattern ∧ IsOpening tokens node ∧
          ∀ outer ∈ parent, outer.unterminated) ∧
      ((outlineOf 0 components).filter (·.2.unterminated)).map Prod.fst =
        List.range matching.waiting.length ∧
      (nodesOf components).countP Component.unterminated = matching.waiting.length ∧
      (∀ parent row, (parent, row) ∈ rows components →
        ∀ node ∈ row, node.raw.head? = some ')' → parent = none) ∧
      components.countP (·.raw.head? = some ')') = matching.strays.length := by
  intro tokens components matching
  have chain := Piece.chain_waiting tokens
  have covered : Token.texts tokens = pattern := Token.texts_tokenizeFrom 0 pattern
  refine ⟨fun parent before node after member unterminated => ?_, ?_, ?_, ?_, ?_⟩
  · rw [← covered]
    exact last_in_row member unterminated
  · rw [List.range_eq_range']
    exact chain.depths 0
  · rw [← chain.countP_eq]
    simp only [components, ofPattern]
    rw [Piece.nodesOf_components, List.countP_map]
    exact List.countP_congr fun piece _ => by simp [Piece.unterminated_component]
  · exact fun parent row member node held closing => top_of_closing member held closing
  · exact countP_closing pattern

example :
    ((outlineOf 0 (ofPattern "(a)*)(b(c)(?:d+").components).filter (·.2.unterminated)).map
      (fun entry => (entry.1, entry.2.raw)) =
        [(0, ("(b(c)(?:d+" : Text)), (1, ("(?:d+" : Text))] := by decide +kernel

end Explanation

end RegexProse
