import RegexProse.Proofs.Group.Matching
import RegexProse.Proofs.Piece.Nodes

/-!
# Pieces of unbalanced tokens

What is not matched among the tokens shows among their pieces: each closer without an opener is a
piece of its own, and each opener without a closer a group that takes all that follows. A pass over
the tokens first meets the former and then the latter.
-/

set_option autoImplicit false

namespace RegexProse

namespace GroupMatching

open GroupBody

theorem run_append (left right : List Token) (index : Nat) (matching : GroupMatching) :
    run index matching (left ++ right) =
      run (index + left.length) (run index matching left) right := by
  induction left generalizing index matching with
  | nil => rfl
  | cons token left ih =>
      rw [List.cons_append, run, run, ih, List.length_cons, Nat.add_right_comm, Nat.add_assoc]

private theorem run_quantifiers {tokens : List Token}
    (quantifiers : ∀ token ∈ tokens, token.isQuantifier)
    (index : Nat) (matching : GroupMatching) : run index matching tokens = matching := by
  induction tokens generalizing index with
  | nil => rfl
  | cons token rest ih =>
      obtain ⟨head, tail⟩ := List.forall_mem_cons.mp quantifiers
      obtain ⟨quantifier, kind⟩ := Token.isQuantifier_iff.mp head
      rw [run, step_other (by simp [kind]) (by simp [kind]), ih tail]

private theorem run_drop (tokens : List Token) (index : Nat) (matching : GroupMatching) :
    run index matching tokens =
      run (index + (QuantifierRun.take tokens).length) matching (QuantifierRun.drop tokens) := by
  have quantifiers : ∀ token ∈ QuantifierRun.take tokens, token.isQuantifier :=
    fun _ => QuantifierRun.isQuantifier_of_mem_take
  conv_lhs => rw [← QuantifierRun.take_append_drop tokens]
  rw [run_append, run_quantifiers quantifiers]

/-- The content of a group and its closer take away the openers that wait for them and nothing
else. -/
private theorem run_body {depth : Nat} {tokens : List Token}
    (closed : (split depth tokens).closer.isSome)
    (index : Nat) (matching : GroupMatching) (waits : depth < matching.waiting.length) :
    let covered := (split depth tokens).inner ++ (split depth tokens).closer.toList
    (run index matching covered).waiting = matching.waiting.drop (depth + 1) ∧
      (run index matching covered).strays = matching.strays := by
  fun_induction split depth tokens generalizing index matching with
  | case1 => simp at closed
  | case2 depth token rest kind opens ih =>
      have found := ih closed (index + 1) (matching.step index token)
      simp only [step_open opens] at found
      simp only [push, List.cons_append, run, step_open opens]
      exact found (Nat.succ_lt_succ waits)
  | case3 token rest closes =>
      cases waiting : matching.waiting with
      | nil => simp [waiting] at waits
      | cons top later =>
          simp only [List.nil_append, Option.toList_some, run, step_close closes waiting]
          exact ⟨rfl, trivial⟩
  | case4 token rest closes depth ih =>
      cases waiting : matching.waiting with
      | nil => simp [waiting] at waits
      | cons top later =>
          have found := ih closed (index + 1) (matching.step index token)
          simp only [step_close closes waiting] at found
          simp only [push, List.cons_append, run, step_close closes waiting]
          rw [waiting] at waits
          exact found (Nat.lt_of_succ_lt_succ waits)
  | case5 depth token rest notOpen notClose ih =>
      simp only [push, List.cons_append, run, step_other notOpen notClose]
      exact ih closed (index + 1) matching waits

/-- Where there are at most as many closers as openers wait for them, none is a stray. -/
private theorem strays_run {tokens : List Token} (index : Nat) (matching : GroupMatching)
    (unclosed : (split matching.waiting.length tokens).closer = none) :
    (run index matching tokens).strays = matching.strays := by
  induction tokens generalizing index matching with
  | nil => rfl
  | cons token rest ih =>
      rw [run]
      by_cases opens : ∃ kind, token.kind = .groupOpen kind
      · obtain ⟨kind, opens⟩ := opens
        rw [split_open opens] at unclosed
        rw [step_open opens, ih]
        exact unclosed
      have notOpen := not_exists.mp opens
      by_cases closes : token.kind = .groupClose
      · cases waiting : matching.waiting with
        | nil =>
            rw [waiting, List.length_nil, split_close closes] at unclosed
            cases unclosed
        | cons top later =>
            rw [waiting, List.length_cons, split_close_succ closes] at unclosed
            rw [step_close closes waiting, ih]
            exact unclosed
      · rw [split_other notOpen closes] at unclosed
        rw [step_other notOpen closes, ih _ _ unclosed]

end GroupMatching

namespace Piece

open GroupMatching

/-- A closer that no group has. -/
def isStray : Piece → Bool
  | .single token _ => token.kind = .groupClose
  | .group _ _ _ _ _ => false

def isUnterminated : Piece → Bool
  | .single _ _ => false
  | .group _ _ _ closer _ => closer.isNone

def strays (tokens : List Token) : Nat := (ofTokens tokens).countP isStray

def unterminated (tokens : List Token) : Nat := (nodesOf (ofTokens tokens)).countP isUnterminated

/-- A closed group holds none that is not. -/
theorem countP_inner {rest : List Token} (closed : (GroupBody.split 0 rest).closer.isSome) :
    (nodesOf (ofTokens (GroupBody.split 0 rest).inner)).countP isUnterminated = 0 := by
  rw [List.countP_eq_zero]
  intro piece member
  obtain ⟨index, stands⟩ := stands_of_mem_nodesOf member
  cases stands with
  | single => exact Bool.false_ne_true
  | @group before after opener kind run holds opens quantifiers =>
      have found := GroupBody.isSome_closer_of_inner closed holds opens
      rw [isUnterminated, Option.isNone_iff_eq_none]
      exact Option.isSome_iff_ne_none.mp found

/-- A pass over the tokens takes one opener away for each stray closer, as long as there are any,
and leaves those of the unterminated groups. -/
theorem length_run (tokens : List Token) (index : Nat) (matching : GroupMatching) :
    (run index matching tokens).waiting.length =
        matching.waiting.length - strays tokens + unterminated tokens ∧
      (run index matching tokens).strays.length =
        matching.strays.length + (strays tokens - matching.waiting.length) := by
  unfold strays unterminated
  fun_induction ofTokens tokens generalizing index matching with
  | case1 => simp [run, nodesOf]
  | case2 token rest kind opens body inside outside =>
      have whole : body.inner ++ body.closer.toList ++ body.after = rest :=
        GroupBody.tokens_split 0 rest
      simp only [nodesOf, nodes, List.cons_append, List.countP_cons, List.countP_append, isStray,
        isUnterminated, run, step_open opens]
      cases closer : body.closer with
      | none =>
          have nothing : body.after = [] := GroupBody.after_eq_nil_of_closer_eq_none closer
          have same : body.inner = rest := GroupBody.inner_eq closer
          have noStray := (inside 0 ⟨[], [], []⟩).2
          rw [strays_run 0 ⟨[], [], []⟩ (GroupBody.closer_inner 0 rest)] at noStray
          obtain ⟨waiting, strays⟩ :=
            inside (index + 1) { matching with waiting := index :: matching.waiting }
          rw [same] at waiting strays noStray ⊢
          rw [nothing]
          simp only [QuantifierRun.drop, List.dropWhile_nil, ofTokens, nodesOf, List.countP_nil,
            List.length_cons, List.length_nil, Option.isNone_none, Bool.false_eq_true, if_true,
            if_false] at noStray waiting strays ⊢
          omega
      | some last =>
          have closed : (GroupBody.split 0 rest).closer.isSome := Option.isSome_of_eq_some closer
          let opened : GroupMatching := { matching with waiting := index :: matching.waiting }
          obtain ⟨popped, kept⟩ := run_body closed (index + 1) opened (Nat.succ_pos _)
          obtain ⟨waiting, strays⟩ := outside
            (index + 1 + (body.inner ++ body.closer.toList).length +
              (QuantifierRun.take body.after).length)
            (run (index + 1) opened (body.inner ++ body.closer.toList))
          rw [← run_drop, ← run_append, whole] at waiting strays
          rw [waiting, strays, popped, kept, countP_inner closed]
          simp [opened]
  | case3 token rest quantifier repeats ih =>
      have found := ih (index + 1) matching
      rw [run, step_other (by simp [repeats]) (by simp [repeats])]
      simpa [nodesOf, nodes, isStray, isUnterminated, repeats] using found
  | case4 token rest notOpen notQuantifier ih =>
      obtain ⟨waiting, strays⟩ := ih (index + 1 + (QuantifierRun.take rest).length)
        (matching.step index token)
      rw [← run_drop] at waiting strays
      simp only [nodesOf, nodes, List.cons_append, List.nil_append, List.countP_cons, isStray,
        isUnterminated, run]
      by_cases closes : token.kind = .groupClose
      · cases waits : matching.waiting with
        | nil =>
            rw [step_stray closes waits] at waiting strays ⊢
            simp only [closes, waits, List.length_cons, List.length_nil, decide_true, if_true,
              Bool.false_eq_true, if_false] at waiting strays ⊢
            omega
        | cons top later =>
            rw [step_close closes waits] at waiting strays ⊢
            simp only [closes, List.length_cons, decide_true, if_true, Bool.false_eq_true, if_false]
              at waiting strays ⊢
            omega
      · rw [step_other notOpen closes] at waiting strays ⊢
        simpa [closes] using And.intro waiting strays

/-- The content of a group has no closer that is not the closer of a group in it. -/
theorem not_isStray_of_mem_inner {rest : List Token} {piece : Piece}
    (member : piece ∈ ofTokens (GroupBody.split 0 rest).inner) : ¬ piece.isStray := by
  obtain ⟨-, found⟩ := length_run (GroupBody.split 0 rest).inner 0 ⟨[], [], []⟩
  rw [GroupMatching.strays_run 0 ⟨[], [], []⟩ (GroupBody.closer_inner 0 rest)] at found
  have none : strays (GroupBody.split 0 rest).inner = 0 := by simpa using found.symm
  exact List.countP_eq_zero.mp none piece member

end Piece

end RegexProse
