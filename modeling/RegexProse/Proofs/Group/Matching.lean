import RegexProse.Proofs.Group.Nesting
import RegexProse.Proofs.Group.Resolution

/-!
# Matching of groups

One pass over the tokens from left to right, with a stack of the openers that wait for a closer. It
pairs each opener with the closer that the resolver of groups finds for it, although the resolver
begins at every opener anew and knows nothing of the tokens before it.
-/

set_option autoImplicit false

namespace RegexProse

/-- What a pass has found: the openers that wait for a closer, the last one in front, the openers
with their closers, and the closers for which no opener waited. -/
structure GroupMatching where
  waiting : List Nat
  pairs : List (Nat × Nat)
  strays : List Nat
  deriving DecidableEq, Repr

namespace GroupMatching

def step (matching : GroupMatching) (index : Nat) (token : Token) : GroupMatching :=
  match token.kind with
  | .groupOpen _ => { matching with waiting := index :: matching.waiting }
  | .groupClose =>
    match matching.waiting with
    | [] => { matching with strays := index :: matching.strays }
    | opener :: waiting =>
      { matching with waiting := waiting, pairs := (opener, index) :: matching.pairs }
  | _ => matching

/-- The pass goes on over tokens of which the first one has the given index. -/
def run (index : Nat) (matching : GroupMatching) : List Token → GroupMatching
  | [] => matching
  | token :: rest => run (index + 1) (matching.step index token) rest

def ofTokens (tokens : List Token) : GroupMatching := run 0 ⟨[], [], []⟩ tokens

variable {matching : GroupMatching} {token : Token}

theorem step_open {kind : GroupKind} (opens : token.kind = .groupOpen kind) (index : Nat) :
    matching.step index token = { matching with waiting := index :: matching.waiting } := by
  rw [step, opens]

theorem step_close (closes : token.kind = .groupClose) {opener : Nat} {waiting : List Nat}
    (waits : matching.waiting = opener :: waiting) (index : Nat) :
    matching.step index token =
      { matching with waiting := waiting, pairs := (opener, index) :: matching.pairs } := by
  rw [step, closes, waits]

theorem step_stray (closes : token.kind = .groupClose) (nothing : matching.waiting = [])
    (index : Nat) :
    matching.step index token = { matching with strays := index :: matching.strays } := by
  rw [step, closes, nothing]

theorem step_other (notOpen : ∀ kind, token.kind ≠ .groupOpen kind)
    (notClose : token.kind ≠ .groupClose) (index : Nat) :
    matching.step index token = matching := by
  unfold step
  split
  case h_1 kind opens => exact absurd opens (notOpen kind)
  case h_2 closes => exact absurd closes notClose
  case h_3 => rfl

end GroupMatching

namespace GroupBody

/-- The index of the closer, where the tokens begin at the given index. -/
def closing? (index depth : Nat) (tokens : List Token) : Option Nat :=
  (split depth tokens).closer.map fun _ => index + (split depth tokens).inner.length

variable {token : Token} {rest : List Token}

private theorem closing?_open {kind : GroupKind} (opens : token.kind = .groupOpen kind)
    (index depth : Nat) :
    closing? index depth (token :: rest) = closing? (index + 1) (depth + 1) rest := by
  rw [closing?, closing?, split_open opens, Nat.add_right_comm]
  rfl

private theorem closing?_close (closes : token.kind = .groupClose) (index : Nat) :
    closing? index 0 (token :: rest) = some index := by
  rw [closing?, split_close closes]
  rfl

private theorem closing?_close_succ (closes : token.kind = .groupClose) (index depth : Nat) :
    closing? index (depth + 1) (token :: rest) = closing? (index + 1) depth rest := by
  rw [closing?, closing?, split_close_succ closes, Nat.add_right_comm]
  rfl

private theorem closing?_other (notOpen : ∀ kind, token.kind ≠ .groupOpen kind)
    (notClose : token.kind ≠ .groupClose) (index depth : Nat) :
    closing? index depth (token :: rest) = closing? (index + 1) depth rest := by
  rw [closing?, closing?, split_other notOpen notClose, Nat.add_right_comm]
  rfl

end GroupBody

namespace GroupMatching

open GroupBody GroupSpan

/-- Among tokens that begin at the given index, the first index is that of an opener and the second
one that of its closer. -/
def Closes (index : Nat) (tokens : List Token) (opener closer : Nat) : Prop :=
  ∃ before token after, tokens = before ++ token :: after ∧ token.opensGroup ∧
    opener = index + before.length ∧ closing? (opener + 1) 0 after = some closer

private theorem closes_cons {index opener closer : Nat} {token : Token} {rest : List Token} :
    Closes index (token :: rest) opener closer ↔
      token.opensGroup ∧ opener = index ∧ closing? (index + 1) 0 rest = some closer ∨
        Closes (index + 1) rest opener closer := by
  constructor
  · rintro ⟨before, found, after, whole, opens, rfl, closed⟩
    cases before with
    | nil =>
        obtain ⟨rfl, rfl⟩ := List.cons.inj whole
        exact .inl ⟨opens, rfl, closed⟩
    | cons first before =>
        obtain ⟨rfl, rfl⟩ := List.cons.inj whole
        refine .inr ⟨before, found, after, rfl, opens, ?_, closed⟩
        rw [List.length_cons]
        omega
  · rintro (⟨opens, rfl, closed⟩ | ⟨before, found, after, rfl, opens, rfl, closed⟩)
    · exact ⟨[], token, rest, rfl, opens, rfl, closed⟩
    · refine ⟨token :: before, found, after, rfl, opens, ?_, closed⟩
      rw [List.length_cons]
      omega

private theorem exists_waiting_cons {top opener : Nat} {waiting : List Nat} {found : Nat → Prop} :
    (∃ depth, (top :: waiting)[depth]? = some opener ∧ found depth) ↔
      opener = top ∧ found 0 ∨ ∃ depth, waiting[depth]? = some opener ∧ found (depth + 1) := by
  rw [← Nat.or_exists_add_one]
  simp only [List.getElem?_cons_zero, List.getElem?_cons_succ, Option.some.injEq, eq_comm]

/-- The pass pairs an opener that waits already with the closer of the group that is as far out as
the opener is down the stack, and every opener that it comes to with the closer of its group. -/
theorem mem_pairs_run {tokens : List Token} {index : Nat} {matching : GroupMatching}
    {opener closer : Nat} :
    (opener, closer) ∈ (run index matching tokens).pairs ↔
      (opener, closer) ∈ matching.pairs ∨
        (∃ depth, matching.waiting[depth]? = some opener ∧
          closing? index depth tokens = some closer) ∨
        Closes index tokens opener closer := by
  induction tokens generalizing index matching with
  | nil => simp [run, closing?, split, Closes]
  | cons token rest ih =>
      rw [run, ih, closes_cons]
      by_cases opens : ∃ kind, token.kind = .groupOpen kind
      · obtain ⟨kind, opens⟩ := opens
        have opened : token.opensGroup = true := Token.opensGroup_iff.mpr ⟨kind, opens⟩
        rw [step_open opens, exists_waiting_cons]
        simp only [closing?_open opens, opened, true_and, or_assoc, or_left_comm]
      have notOpen := not_exists.mp opens
      have notOpened : token.opensGroup = false := Token.opensGroup_eq_false_iff.mpr notOpen
      simp only [notOpened, Bool.false_eq_true, false_and, false_or]
      by_cases closes : token.kind = .groupClose
      · cases waits : matching.waiting with
        | nil =>
            rw [step_stray closes waits]
            simp only [waits, List.getElem?_nil, reduceCtorEq, false_and, exists_false]
        | cons top waiting =>
            rw [step_close closes waits, exists_waiting_cons]
            simp only [closing?_close closes, closing?_close_succ closes, List.mem_cons,
              Prod.mk.injEq, Option.some.injEq, eq_comm (a := index), or_assoc, or_left_comm]
      · rw [step_other notOpen closes]
        simp only [closing?_other notOpen closes]

theorem closes_iff_resolve {tokens : List Token} {opener closer : Nat} :
    Closes 0 tokens opener closer ↔ opener ∈ Token.openers tokens ∧
      (GroupSpan.resolve tokens opener).closed ∧
        (GroupSpan.resolve tokens opener).next = closer + 1 := by
  constructor
  · rintro ⟨before, token, after, rfl, opens, rfl, closed⟩
    obtain ⟨found, closes, rfl⟩ := Option.map_eq_some_iff.mp closed
    rw [Nat.zero_add, GroupSpan.resolve_eq]
    refine ⟨Token.mem_openers_iff.mpr ⟨_, _, _, rfl, opens, rfl⟩, ?_, ?_⟩
    · simp only [closes, Option.isSome_some]
    · simp only [closes, Option.toList_some, List.length_singleton]
  · rintro ⟨member, closed, next⟩
    obtain ⟨before, token, after, rfl, opens, rfl⟩ := Token.mem_openers_iff.mp member
    rw [GroupSpan.resolve_eq] at closed next
    obtain ⟨found, closes⟩ := Option.isSome_iff_exists.mp closed
    refine ⟨before, token, after, rfl, opens, (Nat.zero_add _).symm, ?_⟩
    rw [closing?, closes, Option.map_some, Option.some.injEq]
    simpa [closes] using next

/-- The resolver gives an opener the closer with which the pass pairs it, and none if the pass pairs
it with none. So no closer belongs to two openers, and two groups stand apart or one of them in the
content of the other. -/
theorem resolved_eq_paired (tokens : List Token) :
    let span := GroupSpan.resolve tokens
    (∀ opener closer, opener ∈ Token.openers tokens ∧ (span opener).closed ∧
        (span opener).next = closer + 1 ↔ (opener, closer) ∈ (ofTokens tokens).pairs) ∧
      (∀ first ∈ Token.openers tokens, ∀ second ∈ Token.openers tokens,
        (span first).closed → (span second).closed → (span first).next = (span second).next →
          first = second) ∧
      ∀ first ∈ Token.openers tokens, ∀ second ∈ Token.openers tokens, first ≠ second →
        (span first).next ≤ second ∨ (span second).next ≤ first ∨
          (span first).start ≤ second ∧ (span second).next ≤ (span first).stop ∨
          (span second).start ≤ first ∧ (span first).next ≤ (span second).stop := by
  intro span
  refine ⟨fun opener closer => ?_, ?_, ?_⟩
  · rw [ofTokens, mem_pairs_run, closes_iff_resolve]
    simp [span]
  · intro first opensFirst second opensSecond closedFirst closedSecond same
    rcases Nat.lt_trichotomy first second with order | rfl | order
    · exact absurd same (next_ne_next opensFirst opensSecond closedFirst order)
    · rfl
    · exact absurd same.symm (next_ne_next opensSecond opensFirst closedSecond order)
  · intro first opensFirst second opensSecond different
    rcases Nat.lt_or_gt_of_ne different with order | order
    · rcases next_le_or_inside opensFirst opensSecond order with apart | inside
      · exact .inl apart
      · exact .inr (.inr (.inl inside))
    · rcases next_le_or_inside opensSecond opensFirst order with apart | inside
      · exact .inr (.inl apart)
      · exact .inr (.inr (.inr inside))

end GroupMatching

end RegexProse
