import RegexProse.Proofs.Piece.Closed
import RegexProse.Proofs.Syntax.Reading
import RegexProse.Validation

/-!
# Balance of explanations

A legible pattern that is accepted has an explanation in which every group is closed and no closer
stands on its own. A pattern that is not legible may be accepted and have no such explanation.
-/

set_option autoImplicit false

namespace RegexProse

namespace TokenKind

theorem Spelled.eq_groupClose {kind : TokenKind} {text more : Text} (spelled : kind.Spelled text)
    (closing : (text ++ more).head? = some ')') : kind = .groupClose := by
  rcases spelled with construct | ⟨char, rfl, rfl⟩
  · rw [List.head?_append] at closing
    cases construct with
    | escape => cases closing
    | bracket expression => rw [expression.head?_eq] at closing; cases closing
    | opener special => rw [special.head?_eq] at closing; cases closing
    | brace braced => rw [braced.head?_eq] at closing; cases closing
  · obtain rfl := Option.some.inj closing
    rfl

end TokenKind

theorem expression_of_accepts {pattern : Text} (accepted : validate pattern = .ok ()) :
    ∃ expression, Syntax.Expression.ofPattern? pattern = some expression := by
  obtain ⟨-, -, accepts⟩ := validate_eq_ok_iff.mp accepted
  cases read : Syntax.Expression.ofPattern? pattern with
  | none =>
      rw [Syntax.accepts, read] at accepts
      cases accepts
  | some expression => exact ⟨expression, rfl⟩

/-- The tokens of a legible pattern that is accepted close the groups that they open. -/
theorem Token.closed_of_accepted {pattern : Text} (accepted : validate pattern = .ok ())
    (legible : Syntax.Legible pattern) : Closed 0 (tokenize pattern) := by
  obtain ⟨expression, read⟩ := expression_of_accepts accepted
  exact closed_tokenizeFrom 0 0 (Syntax.closes_of_ofPattern? read legible).1

namespace Explanation

/-- The explanation of a legible pattern that is accepted is balanced. -/
theorem groups_closed {pattern : Text} (accepted : validate pattern = .ok ())
    (legible : Syntax.Legible pattern) :
    ∃ explanation, explain pattern = .ok explanation ∧
      ∀ node ∈ Component.nodesOf explanation.components,
        node.unterminated = false ∧ node.raw.head? ≠ some ')' := by
  refine ⟨ofPattern pattern, explain_of_accepted accepted, fun node member => ?_⟩
  rw [ofPattern, Piece.nodesOf_components] at member
  obtain ⟨piece, inside, rfl⟩ := List.mem_map.mp member
  have closed := Piece.isClosed_of_mem_nodesOf (Token.closed_of_accepted accepted legible) inside
  obtain ⟨index, stands⟩ := Piece.stands_of_mem_nodesOf inside
  cases stands with
  | @single before after token run whole notOpen quantifiers =>
      have held : token ∈ Token.tokenize pattern := by simp [whole]
      refine ⟨rfl, fun closing => closed ?_⟩
      exact (Token.spelled_of_mem_tokenize held).eq_groupClose closing
  | @group before after opener kind run whole opens quantifiers =>
      refine ⟨by rw [Piece.component, Option.isNone_eq_false_iff]; exact closed, fun closing => ?_⟩
      have held : opener ∈ Token.tokenize pattern := by simp [whole]
      have closes := (Token.spelled_of_mem_tokenize held).eq_groupClose closing
      rw [opens] at closes
      cases closes

/-- A legible pattern with a number sign, brackets that begin with a closing one, and groups of which
the tokens do not know all openers. -/
theorem groups_closed_conditional :
    let pattern : Text := "(a|[^]b])#(?(1)c+?|(?>d){2})(?i:[[:alpha:]]*)"
    validate pattern = .ok () ∧ Syntax.Legible pattern ∧
      ∃ explanation, explain pattern = .ok explanation ∧
        ∀ node ∈ Component.nodesOf explanation.components,
          node.unterminated = false ∧ node.raw.head? ≠ some ')' := by
  intro pattern
  have accepted : validate pattern = .ok () := by decide +kernel
  have legible : Syntax.Legible pattern := by decide +kernel
  exact ⟨accepted, legible, groups_closed accepted legible⟩

/-- Under free spacing a number sign begins a comment, in which a parenthesis opens nothing; the
tokens open a group there that is never closed. -/
theorem line_comment_opens_group :
    ∃ explanation, explain ("(?x)#(" : Text) = .ok explanation ∧
      ∃ node ∈ Component.nodesOf explanation.components, node.unterminated = true := by
  have accepted : validate ("(?x)#(" : Text) = .ok () := by decide +kernel
  exact ⟨_, explain_of_accepted accepted, by decide +kernel⟩

end Explanation

end RegexProse
