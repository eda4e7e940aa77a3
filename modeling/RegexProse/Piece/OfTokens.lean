import RegexProse.Group.Span
import RegexProse.Piece.Basic
import RegexProse.Quantifier.Run

/-!
# Pieces of a token list

The structure of any token list. A quantifier with nothing before it to repeat is a piece of its own
that no other quantifier joins; all other quantifiers belong to the piece before them. A group holds
the tokens that `GroupSpan.resolve` finds for its opener (`ofTokens_drop`).
-/

set_option autoImplicit false

namespace RegexProse.Piece

/-- The pieces of the tokens, in order. -/
def ofTokens : List Token → List Piece
  | [] => []
  | token :: rest =>
    match token.kind with
    | .groupOpen kind =>
      let body := GroupBody.split 0 rest
      .group token kind (ofTokens body.inner) body.closer (QuantifierRun.take body.after) ::
        ofTokens (QuantifierRun.drop body.after)
    | .quantifier _ => .single token [] :: ofTokens rest
    | _ => .single token (QuantifierRun.take rest) :: ofTokens (QuantifierRun.drop rest)
termination_by tokens => tokens.length
decreasing_by
  · have whole := GroupBody.length_split 0 rest
    simp only [List.length_cons]
    omega
  · have whole := GroupBody.length_split 0 rest
    have shorter := QuantifierRun.length_drop_le (GroupBody.split 0 rest).after
    simp only [List.length_cons]
    omega
  · simp
  · have shorter := QuantifierRun.length_drop_le rest
    simp only [List.length_cons]
    omega

theorem ofTokens_open {token : Token} {kind : GroupKind} (opens : token.kind = .groupOpen kind)
    (rest : List Token) :
    ofTokens (token :: rest) =
      .group token kind (ofTokens (GroupBody.split 0 rest).inner) (GroupBody.split 0 rest).closer
          (QuantifierRun.take (GroupBody.split 0 rest).after) ::
        ofTokens (QuantifierRun.drop (GroupBody.split 0 rest).after) := by
  rw [ofTokens.eq_def]
  simp only [opens]

theorem ofTokens_quantifier {token : Token} {quantifier : Quantifier}
    (repeats : token.kind = .quantifier quantifier) (rest : List Token) :
    ofTokens (token :: rest) = .single token [] :: ofTokens rest := by
  rw [ofTokens.eq_def]
  simp only [repeats]

theorem ofTokens_single {token : Token} (notOpen : ∀ kind, token.kind ≠ .groupOpen kind)
    (notQuantifier : ∀ quantifier, token.kind ≠ .quantifier quantifier) (rest : List Token) :
    ofTokens (token :: rest) =
      .single token (QuantifierRun.take rest) :: ofTokens (QuantifierRun.drop rest) := by
  rw [ofTokens.eq_def]
  dsimp only
  split
  case h_1 kind opens => exact absurd opens (notOpen kind)
  case h_2 quantifier repeats => exact absurd repeats (notQuantifier quantifier)
  case h_3 => rfl

/-- From an opener on, the pieces are those of the span that `GroupSpan.resolve` finds for it among
all tokens: its content is the pieces of the tokens inside, its closer the token that ends them, and
the quantifiers and the pieces behind it are those of the tokens from the end of the span on. -/
theorem ofTokens_drop {tokens : List Token} {index : Nat} {opener : Token} {kind : GroupKind}
    (found : tokens[index]? = some opener) (opens : opener.kind = .groupOpen kind) :
    let span := GroupSpan.resolve tokens index
    ofTokens (tokens.drop index) =
      .group opener kind (ofTokens ((tokens.take span.stop).drop span.start)) tokens[span.stop]?
          (QuantifierRun.take (tokens.drop span.next)) ::
        ofTokens (QuantifierRun.drop (tokens.drop span.next)) := by
  intro span
  obtain ⟨within, rfl⟩ := List.getElem?_eq_some_iff.mp found
  rw [List.drop_eq_getElem_cons within, ofTokens_open opens, GroupSpan.slice_resolve,
    GroupSpan.getElem?_stop_resolve, GroupSpan.drop_next_resolve]

/-- No token is lost and none is moved. -/
theorem tokensOf_ofTokens (tokens : List Token) : tokensOf (ofTokens tokens) = tokens := by
  fun_induction ofTokens tokens with
  | case1 => rfl
  | case2 token rest kind _ body inside outside =>
    have whole : body.inner ++ body.closer.toList ++ body.after = rest :=
      GroupBody.tokens_split 0 rest
    simp only [tokensOf, tokens, inside, outside, List.cons_append, List.append_assoc,
      QuantifierRun.take_append_drop]
    rw [← List.append_assoc, whole]
  | case3 token rest _ _ ih => simp [tokensOf, tokens, ih]
  | case4 token rest _ _ ih => simp [tokensOf, tokens, ih, QuantifierRun.take_append_drop]

end RegexProse.Piece
