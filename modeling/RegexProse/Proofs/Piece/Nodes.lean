import Mathlib.Data.List.Forall2
import RegexProse.Component.Outline
import RegexProse.Piece.Component
import RegexProse.Piece.OfTokens
import RegexProse.Proofs.Group.Nesting

/-!
# Nodes

The nodes of a component tree in pre-order, and the piece that each of them explains. A group among
the pieces of a token list stands in that list as the group resolver sees it, however deep it is
nested.
-/

set_option autoImplicit false

namespace RegexProse

/-- The components of a list and all below them, each before those of its content. -/
def Component.nodesOf (components : List Component) : List Component :=
  (outlineOf 0 components).map Prod.snd

namespace Piece

mutual

/-- The piece, and then the pieces of its content at any depth. -/
def nodes : Piece → List Piece
  | .single token run => [.single token run]
  | .group opener kind content closer run =>
    .group opener kind content closer run :: nodesOf content

def nodesOf : List Piece → List Piece
  | [] => []
  | piece :: rest => nodes piece ++ nodesOf rest

end

mutual

theorem outline_component (depth : Nat) (piece : Piece) :
    (Component.outline depth (component piece)).map Prod.snd = (nodes piece).map component := by
  cases piece with
  | single token run => simp [component, Component.outline, Component.outlineOf, nodes]
  | group opener kind content closer run =>
      simp only [component, Component.outline, nodes, List.map_cons]
      rw [outlineOf_components]

theorem outlineOf_components (depth : Nat) (pieces : List Piece) :
    (Component.outlineOf depth (components pieces)).map Prod.snd =
      (nodesOf pieces).map component := by
  cases pieces with
  | nil => simp only [components, Component.outlineOf, nodesOf, List.map_nil]
  | cons piece rest =>
      simp only [components, Component.outlineOf, nodesOf, List.map_append]
      rw [outline_component, outlineOf_components]

end

theorem nodesOf_components (pieces : List Piece) :
    Component.nodesOf (components pieces) = (nodesOf pieces).map component :=
  outlineOf_components 0 pieces

theorem mem_nodes (piece : Piece) : piece ∈ nodes piece := by
  cases piece with
  | single token run => exact List.mem_cons_self
  | group opener kind content closer run => exact List.mem_cons_self

theorem mem_nodesOf {pieces : List Piece} {piece : Piece} (member : piece ∈ pieces) :
    piece ∈ nodesOf pieces := by
  induction pieces with
  | nil => cases member
  | cons first rest ih =>
      rw [nodesOf, List.mem_append]
      rcases List.mem_cons.mp member with rfl | member
      · exact .inl (mem_nodes piece)
      · exact .inr (ih member)

theorem tokensOf_append (left right : List Piece) :
    tokensOf (left ++ right) = tokensOf left ++ tokensOf right := by
  induction left with
  | nil => rfl
  | cons piece left ih => rw [List.cons_append, tokensOf, tokensOf, ih, List.append_assoc]

theorem raw_component (piece : Piece) : (component piece).raw = piece.text := by
  cases piece with
  | single token run => rfl
  | group opener kind content closer run => rfl

theorem text_single (token : Token) (run : List Token) :
    text (.single token run) = token.text ++ Token.texts run := rfl

theorem text_group (opener : Token) (kind : GroupKind) (content : List Piece)
    (closer : Option Token) (run : List Token) :
    text (.group opener kind content closer run) =
      opener.text ++ (Token.texts (tokensOf content) ++ Token.texts closer.toList ++
        Token.texts run) := by
  rw [text, tokens, Token.texts_cons, Token.texts_append, Token.texts_append]

/-- How the piece that begins with the token at an index stands in a token list: that token opens no
group, or it opens one with the body that the tokens behind it give it, and in both cases the piece
has only quantifiers as its run. -/
inductive StandsAt (tokens : List Token) : Nat → Piece → Prop where
  | single {before after : List Token} {token : Token} {run : List Token} :
      tokens = before ++ token :: after → (∀ kind, token.kind ≠ .groupOpen kind) →
      (∀ quantifier ∈ run, quantifier.isQuantifier) →
      StandsAt tokens before.length (.single token run)
  | group {before after : List Token} {opener : Token} {kind : GroupKind} {run : List Token} :
      tokens = before ++ opener :: after → opener.kind = .groupOpen kind →
      (∀ quantifier ∈ run, quantifier.isQuantifier) →
      StandsAt tokens before.length
        (.group opener kind (ofTokens (GroupBody.split 0 after).inner)
          (GroupBody.split 0 after).closer run)

def Stands (tokens : List Token) (piece : Piece) : Prop := ∃ index, StandsAt tokens index piece

theorem StandsAt.behind {tokens : List Token} {index : Nat} {piece : Piece}
    (stands : StandsAt tokens index piece) (front : List Token) :
    StandsAt (front ++ tokens) (index + front.length) piece := by
  have later {before after : List Token} {token : Token}
      (whole : tokens = before ++ token :: after) :
      front ++ tokens = (front ++ before) ++ token :: after := by
    rw [whole, List.append_assoc]
  rw [Nat.add_comm]
  cases stands with
  | single whole notOpen quantifiers =>
      rw [← List.length_append]
      exact .single (later whole) notOpen quantifiers
  | group whole opens quantifiers =>
      rw [← List.length_append]
      exact .group (later whole) opens quantifiers

/-- What stands in the content of a group stands behind its opener in the same way. -/
theorem StandsAt.inside {rest : List Token} {index : Nat} {piece : Piece}
    (stands : StandsAt (GroupBody.split 0 rest).inner index piece) : StandsAt rest index piece := by
  have whole := GroupBody.tokens_split 0 rest
  have later {before after : List Token} {token : Token}
      (holds : (GroupBody.split 0 rest).inner = before ++ token :: after) :
      rest = before ++ token :: (after ++ ((GroupBody.split 0 rest).closer.toList ++
        (GroupBody.split 0 rest).after)) := by
    rw [GroupBody.tokens, holds] at whole
    simpa using whole.symm
  cases stands with
  | single holds notOpen quantifiers => exact .single (later holds) notOpen quantifiers
  | group holds opens quantifiers =>
      obtain ⟨inner, closer⟩ := GroupBody.split_inner holds opens
      rw [← inner, ← closer]
      exact .group (later holds) opens quantifiers

theorem Stands.opener_mem {tokens : List Token} {opener : Token} {kind : GroupKind}
    {content : List Piece} {closer : Option Token} {run : List Token}
    (stands : Stands tokens (.group opener kind content closer run)) :
    opener ∈ tokens ∧ opener.kind = .groupOpen kind := by
  obtain ⟨index, stands⟩ := stands
  generalize same : Piece.group opener kind content closer run = piece at stands
  cases stands with
  | single => cases same
  | group whole opens quantifiers =>
      cases same
      exact ⟨whole ▸ by simp, opens⟩

/-- Every node of the pieces of a token list stands in that list. -/
theorem stands_of_mem_nodesOf {tokens : List Token} {piece : Piece}
    (member : piece ∈ nodesOf (ofTokens tokens)) : Stands tokens piece := by
  fun_induction ofTokens tokens with
  | case1 => simp [nodesOf] at member
  | case2 token rest kind opens body inside outside =>
      simp only [nodesOf, nodes, List.cons_append, List.mem_cons, List.mem_append] at member
      rcases member with rfl | member | member
      · exact ⟨0, .group (List.nil_append _).symm opens fun _ =>
          QuantifierRun.isQuantifier_of_mem_take⟩
      · obtain ⟨index, stands⟩ := inside member
        exact ⟨_, stands.inside.behind [token]⟩
      · obtain ⟨index, stands⟩ := outside member
        have later := stands.behind
          (token :: body.inner ++ body.closer.toList ++ QuantifierRun.take body.after)
        have whole : body.inner ++ body.closer.toList ++ body.after = rest :=
          GroupBody.tokens_split 0 rest
        rw [List.append_assoc, QuantifierRun.take_append_drop, List.cons_append, List.cons_append,
          whole] at later
        exact ⟨_, later⟩
  | case3 token rest quantifier repeats ih =>
      simp only [nodesOf, nodes, List.cons_append, List.nil_append, List.mem_cons] at member
      rcases member with rfl | member
      · exact ⟨0, .single (List.nil_append _).symm (by simp [repeats]) (by simp)⟩
      · obtain ⟨index, stands⟩ := ih member
        exact ⟨_, stands.behind [token]⟩
  | case4 token rest notOpen notQuantifier ih =>
      simp only [nodesOf, nodes, List.cons_append, List.nil_append, List.mem_cons] at member
      rcases member with rfl | member
      · exact ⟨0, .single (List.nil_append _).symm notOpen fun _ =>
          QuantifierRun.isQuantifier_of_mem_take⟩
      · obtain ⟨index, stands⟩ := ih member
        have later := stands.behind (token :: QuantifierRun.take rest)
        rw [List.cons_append, QuantifierRun.take_append_drop] at later
        exact ⟨_, later⟩

theorem stands_of_mem_ofTokens {tokens : List Token} {piece : Piece}
    (member : piece ∈ ofTokens tokens) : Stands tokens piece :=
  stands_of_mem_nodesOf (mem_nodesOf member)

/-- What every piece that stands in a token list has in common with its component, the nodes of the
two trees have in common pair by pair. -/
theorem forall₂_nodesOf {tokens : List Token} {Explains : Piece → Component → Prop}
    (explains : ∀ index piece, StandsAt tokens index piece → Explains piece (component piece)) :
    List.Forall₂ Explains (nodesOf (ofTokens tokens))
      (Component.nodesOf (components (ofTokens tokens))) := by
  rw [nodesOf_components, List.forall₂_map_right_iff, List.forall₂_same]
  intro piece member
  obtain ⟨index, stands⟩ := stands_of_mem_nodesOf member
  exact explains index piece stands

end Piece

end RegexProse
