import Mathlib.Data.List.Basic
import RegexProse.Proofs.Piece.Nodes

/-!
# Openings

The tokens that open a group, and the group that each of them opens. The groups among the pieces of
a token list, in the order in which the pieces are listed, are those of its openers from left to
right: no opener is left out, and none is taken twice.
-/

set_option autoImplicit false

namespace RegexProse

def Token.opensGroup (token : Token) : Bool :=
  match token.kind with
  | .groupOpen _ => true
  | _ => false

theorem Token.opensGroup_iff {token : Token} :
    token.opensGroup ↔ ∃ kind, token.kind = .groupOpen kind := by
  unfold opensGroup
  split
  case h_1 kind opens => simp [opens]
  case h_2 notOpen => simpa using notOpen

theorem Token.opensGroup_eq_false_iff {token : Token} :
    token.opensGroup = false ↔ ∀ kind, token.kind ≠ .groupOpen kind := by
  rw [← Bool.not_eq_true, Token.opensGroup_iff, not_exists]

namespace Piece

def isGroup : Piece → Bool
  | .single _ _ => false
  | .group _ _ _ _ _ => true

theorem not_opensGroup_of_isQuantifier {token : Token} (repeats : token.isQuantifier) :
    token.opensGroup = false := by
  obtain ⟨quantifier, kind⟩ := Token.isQuantifier_iff.mp repeats
  simp [Token.opensGroup, kind]

private theorem findIdxs_run (first : Nat) {run : List Token}
    (quantifiers : ∀ token ∈ run, token.isQuantifier) :
    run.findIdxs Token.opensGroup first = [] := by
  rw [List.findIdxs_eq_nil_iff]
  exact fun token member => not_opensGroup_of_isQuantifier (quantifiers token member)

private theorem findIdxs_closer (first depth : Nat) (rest : List Token) :
    (GroupBody.split depth rest).closer.toList.findIdxs Token.opensGroup first = [] := by
  rw [List.findIdxs_eq_nil_iff]
  intro token member
  have closes := GroupBody.kind_closer (Option.mem_toList.mp member)
  rw [Token.opensGroup_eq_false_iff, closes]
  exact fun kind => TokenKind.noConfusion

private theorem forall₂_behind {tokens : List Token} {indices : List Nat} {pieces : List Piece}
    (found : List.Forall₂ (StandsAt tokens) indices pieces) (front : List Token) :
    List.Forall₂ (StandsAt (front ++ tokens)) (indices.map (· + front.length)) pieces := by
  rw [List.forall₂_map_left_iff]
  exact found.imp fun _ _ stands => stands.behind front

/-- The groups of a token list stand at its openers, in the same order. -/
theorem forall₂_standsAt (tokens : List Token) :
    List.Forall₂ (StandsAt tokens) (tokens.findIdxs Token.opensGroup)
      ((nodesOf (ofTokens tokens)).filter isGroup) := by
  fun_induction ofTokens tokens with
  | case1 => exact .nil
  | case2 token rest kind opens body inside outside =>
      have whole : body.inner ++ (body.closer.toList ++ QuantifierRun.take body.after) ++
          QuantifierRun.drop body.after = rest := by
        rw [List.append_assoc, List.append_assoc, QuantifierRun.take_append_drop,
          ← List.append_assoc]
        exact GroupBody.tokens_split 0 rest
      have opened : token.opensGroup = true := Token.opensGroup_iff.mpr ⟨kind, opens⟩
      have noneBetween (first : Nat) :
          (body.closer.toList ++ QuantifierRun.take body.after).findIdxs
            Token.opensGroup first = [] := by
        rw [List.findIdxs_append, findIdxs_closer,
          findIdxs_run _ fun _ => QuantifierRun.isQuantifier_of_mem_take, List.append_nil]
      have later : rest.findIdxs Token.opensGroup 1 =
          (body.inner.findIdxs Token.opensGroup).map (· + [token].length) ++
            ((QuantifierRun.drop body.after).findIdxs Token.opensGroup).map
              (· + (token :: (body.inner ++ (body.closer.toList ++
                QuantifierRun.take body.after))).length) := by
        rw [← List.findIdxs_start, ← List.findIdxs_start, ← whole, List.findIdxs_append,
          List.findIdxs_append, noneBetween, List.append_nil, List.length_cons, Nat.add_comm 1]
        rfl
      rw [List.findIdxs_cons, if_pos opened, later, nodesOf, nodes, List.cons_append,
        List.filter_cons_of_pos rfl, List.filter_append]
      refine .cons (.group (List.nil_append _).symm opens fun _ =>
        QuantifierRun.isQuantifier_of_mem_take) (List.rel_append ?_ ?_)
      · exact forall₂_behind (inside.imp fun _ _ stands => stands.inside) [token]
      · have behind := forall₂_behind outside
          (token :: (body.inner ++ (body.closer.toList ++ QuantifierRun.take body.after)))
        rwa [List.cons_append, whole] at behind
  | case3 token rest quantifier repeats ih =>
      have notOpened : ¬ token.opensGroup := by simp [Token.opensGroup, repeats]
      rw [List.findIdxs_cons, if_neg notOpened, List.findIdxs_start]
      exact forall₂_behind ih [token]
  | case4 token rest notOpen notQuantifier ih =>
      have notOpened : ¬ token.opensGroup := by simpa using Token.opensGroup_eq_false_iff.mpr notOpen
      have later : rest.findIdxs Token.opensGroup 1 =
          ((QuantifierRun.drop rest).findIdxs Token.opensGroup).map
            (· + (token :: QuantifierRun.take rest).length) := by
        have run : (QuantifierRun.take rest).findIdxs Token.opensGroup 1 = [] :=
          findIdxs_run 1 fun _ => QuantifierRun.isQuantifier_of_mem_take
        have whole : (QuantifierRun.take rest ++ QuantifierRun.drop rest).findIdxs
            Token.opensGroup 1 = _ := List.findIdxs_append
        rw [QuantifierRun.take_append_drop, run, List.nil_append, Nat.add_comm] at whole
        rw [whole, List.findIdxs_start]
        rfl
      rw [List.findIdxs_cons, if_neg notOpened, later]
      have behind := forall₂_behind ih (token :: QuantifierRun.take rest)
      rwa [List.cons_append, QuantifierRun.take_append_drop] at behind

end Piece

end RegexProse
