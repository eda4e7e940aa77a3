import Mathlib.Data.List.Chain
import RegexProse.Proofs.Piece.Closed
import RegexProse.Proofs.Piece.Openings

/-!
# Binding of quantifiers

A quantifier belongs to the piece before it wherever there is one. So quantifiers are pieces of their
own only at the front of the tokens and directly behind an opener, at whatever depth that is.
-/

set_option autoImplicit false

namespace RegexProse

/-- The token, should it be a quantifier, has the one before it to repeat. -/
def Token.Binds (before next : Token) : Prop := before.opensGroup → ¬ next.isQuantifier

/-- Every quantifier has something before it: none stands at the front or directly behind an
opener. -/
def Token.AllBound (tokens : List Token) : Prop :=
  (∀ first ∈ tokens.head?, ¬ first.isQuantifier) ∧ tokens.IsChain Token.Binds

namespace Piece

def isQuantifier : Piece → Bool
  | .single token _ => token.isQuantifier
  | .group _ _ _ _ _ => false

private theorem isChain_behind {front : List Token}
    (noOpener : ∀ token ∈ front, token.opensGroup = false)
    (rest : List Token) :
    (front ++ rest).IsChain Token.Binds ↔ rest.IsChain Token.Binds := by
  induction front with
  | nil => rfl
  | cons token front ih =>
      obtain ⟨head, tail⟩ := List.forall_mem_cons.mp noOpener
      rw [List.cons_append, List.isChain_cons, ih tail]
      simp [Token.Binds, head]

theorem head?_drop_not_quantifier (tokens : List Token) :
    ∀ first ∈ (QuantifierRun.drop tokens).head?, ¬ first.isQuantifier := by
  intro first member
  have stopped := List.head?_dropWhile_not Token.isQuantifier tokens
  rw [← QuantifierRun.drop] at stopped
  rw [Option.mem_def] at member
  rw [member] at stopped
  simpa using stopped

private theorem allBound_drop (rest : List Token) :
    Token.AllBound (QuantifierRun.drop rest) ↔ rest.IsChain Token.Binds := by
  have run : ∀ token ∈ QuantifierRun.take rest, token.opensGroup = false := fun token member =>
    not_opensGroup_of_isQuantifier (QuantifierRun.isQuantifier_of_mem_take member)
  rw [Token.AllBound, ← isChain_behind run, QuantifierRun.take_append_drop]
  exact and_iff_right (head?_drop_not_quantifier rest)

/-- Behind an opener, all quantifiers are bound if they are in the body of the group and behind it.
-/
private theorem allBound_body (rest : List Token) :
    Token.AllBound rest ↔ Token.AllBound (GroupBody.split 0 rest).inner ∧
      (GroupBody.split 0 rest).after.IsChain Token.Binds := by
  have whole := GroupBody.tokens_split 0 rest
  rw [GroupBody.tokens] at whole
  cases closer : (GroupBody.split 0 rest).closer with
  | none =>
      rw [closer, GroupBody.after_eq_nil_of_closer_eq_none closer] at whole
      simp only [Option.toList_none, List.append_nil] at whole
      rw [whole, GroupBody.after_eq_nil_of_closer_eq_none closer]
      exact (and_iff_left .nil).symm
  | some token =>
      have closes := GroupBody.kind_closer closer
      have notRepeats : ¬ token.isQuantifier := by simp [Token.isQuantifier_iff, closes]
      have notOpened : token.opensGroup = false := by simp [Token.opensGroup, closes]
      rw [closer] at whole
      simp only [Option.toList_some, List.append_assoc, List.singleton_append] at whole
      generalize (GroupBody.split 0 rest).inner = inner at whole
      generalize (GroupBody.split 0 rest).after = after at whole
      subst whole
      have front : (∀ first ∈ (inner ++ token :: after).head?, ¬ first.isQuantifier) ↔
          ∀ first ∈ inner.head?, ¬ first.isQuantifier := by
        cases inner with
        | nil => simpa using notRepeats
        | cons first inner => rfl
      rw [Token.AllBound, Token.AllBound, front, List.isChain_append, List.isChain_cons]
      simp [Token.Binds, notRepeats, notOpened, and_assoc]

/-- No quantifier is a piece of its own, at any depth, if and only if all quantifiers are bound. -/
theorem noQuantifier_iff_allBound (tokens : List Token) :
    (∀ piece ∈ nodesOf (ofTokens tokens), ¬ piece.isQuantifier) ↔ Token.AllBound tokens := by
  fun_induction ofTokens tokens with
  | case1 => simp [nodesOf, Token.AllBound]
  | case2 token rest kind opens body inside outside =>
      have opened : token.opensGroup = true := Token.opensGroup_iff.mpr ⟨kind, opens⟩
      have notRepeats : ¬ token.isQuantifier := by simp [Token.isQuantifier_iff, opens]
      have pieces : (∀ piece ∈ nodesOf (.group token kind (ofTokens body.inner) body.closer
          (QuantifierRun.take body.after) :: ofTokens (QuantifierRun.drop body.after)),
          ¬ piece.isQuantifier) ↔
            Token.AllBound body.inner ∧ Token.AllBound (QuantifierRun.drop body.after) := by
        rw [← inside, ← outside]
        simp [nodesOf, nodes, isQuantifier, or_imp, forall_and]
      rw [pieces, allBound_drop, ← allBound_body, Token.AllBound, Token.AllBound, List.isChain_cons]
      simp [Token.Binds, opened, notRepeats]
  | case3 token rest quantifier repeats ih =>
      have bound : token.isQuantifier := Token.isQuantifier_iff.mpr ⟨quantifier, repeats⟩
      simp [nodesOf, nodes, isQuantifier, Token.AllBound, bound]
  | case4 token rest notOpen notQuantifier ih =>
      have notRepeats : ¬ token.isQuantifier := by simpa [Token.isQuantifier_iff] using notQuantifier
      have notOpened : token.opensGroup = false := Token.opensGroup_eq_false_iff.mpr notOpen
      have pieces : (∀ piece ∈ nodesOf (.single token (QuantifierRun.take rest) ::
          ofTokens (QuantifierRun.drop rest)), ¬ piece.isQuantifier) ↔
            Token.AllBound (QuantifierRun.drop rest) := by
        rw [← ih]
        simp [nodesOf, nodes, isQuantifier, notRepeats]
      rw [pieces, allBound_drop, Token.AllBound, List.isChain_cons]
      simp [Token.Binds, notRepeats, notOpened]

end Piece

end RegexProse
