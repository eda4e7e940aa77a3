import Mathlib.Order.Bounds.Basic
import RegexProse.Proofs.Group.Resolution

/-!
# Depth of groups

Where a group ends, by counting: at the first token up to which there are more closers than openers
behind the one that the group begins with. The resolver of groups finds this token from any index,
and all indices that it gives lie in the token list.
-/

set_option autoImplicit false

namespace RegexProse

namespace Token

def closesGroup (token : Token) : Bool := token.kind = .groupClose

def openings (tokens : List Token) : Nat := tokens.countP opensGroup

def closings (tokens : List Token) : Nat := tokens.countP closesGroup

/-- The tokens behind the first index, up to the last one. -/
def between (first last : Nat) (tokens : List Token) : List Token :=
  (tokens.take (last + 1)).drop (first + 1)

/-- The last index is that of a token, and up to it the closers outnumber the openers. -/
def Outnumbered (tokens : List Token) (first last : Nat) : Prop :=
  first < last ∧ last < tokens.length ∧
    openings (between first last tokens) < closings (between first last tokens)

variable {token : Token}

theorem count_open {kind : GroupKind} (opens : token.kind = .groupOpen kind) (rest : List Token) :
    openings (token :: rest) = openings rest + 1 ∧ closings (token :: rest) = closings rest := by
  simp [openings, closings, opensGroup, closesGroup, opens]

theorem count_close (closes : token.kind = .groupClose) (rest : List Token) :
    openings (token :: rest) = openings rest ∧ closings (token :: rest) = closings rest + 1 := by
  simp [openings, closings, opensGroup, closesGroup, closes]

theorem count_other (notOpen : ∀ kind, token.kind ≠ .groupOpen kind)
    (notClose : token.kind ≠ .groupClose) (rest : List Token) :
    openings (token :: rest) = openings rest ∧ closings (token :: rest) = closings rest := by
  simp [openings, closings, opensGroup_eq_false_iff.mpr notOpen, closesGroup, notClose]

private theorem between_eq (first last : Nat) (tokens : List Token) :
    between first last tokens = (tokens.drop (first + 1)).take (last - first) := by
  rw [between, List.drop_take, Nat.add_sub_add_right]

end Token

namespace GroupBody

open Token (openings closings)

/-- Inside a group there come no more closers than groups were open before it or were opened. -/
private theorem closings_le_of_prefix {depth : Nat} {input front : List Token}
    (within : front <+: (split depth input).inner) : closings front ≤ openings front + depth := by
  fun_induction split depth input generalizing front with
  | case1 | case3 =>
      obtain rfl := List.prefix_nil.mp within
      exact Nat.zero_le _
  | case2 depth token rest kind opens ih =>
      rcases List.prefix_cons_iff.mp within with rfl | ⟨tail, rfl, inside⟩
      · exact Nat.zero_le _
      · obtain ⟨opened, closed⟩ := Token.count_open opens tail
        have bound := ih inside
        omega
  | case4 token rest closes depth ih =>
      rcases List.prefix_cons_iff.mp within with rfl | ⟨tail, rfl, inside⟩
      · exact Nat.zero_le _
      · obtain ⟨opened, closed⟩ := Token.count_close closes tail
        have bound := ih inside
        omega
  | case5 depth token rest notOpen notClose ih =>
      rcases List.prefix_cons_iff.mp within with rfl | ⟨tail, rfl, inside⟩
      · exact Nat.zero_le _
      · obtain ⟨opened, closed⟩ := Token.count_other notOpen notClose tail
        have bound := ih inside
        omega

private theorem closings_inner {depth : Nat} {input : List Token}
    (closed : (split depth input).closer.isSome) :
    closings (split depth input).inner = openings (split depth input).inner + depth := by
  fun_induction split depth input with
  | case1 => cases closed
  | case2 depth token rest kind opens ih =>
      obtain ⟨opened, closing⟩ := Token.count_open opens (split (depth + 1) rest).inner
      have inside := ih closed
      rw [push, opened, closing]
      omega
  | case3 token rest closes => rfl
  | case4 token rest closes depth ih =>
      obtain ⟨opened, closing⟩ := Token.count_close closes (split depth rest).inner
      have inside := ih closed
      rw [push, opened, closing]
      omega
  | case5 depth token rest notOpen notClose ih =>
      obtain ⟨opened, closing⟩ := Token.count_other notOpen notClose (split depth rest).inner
      rw [push, opened, closing]
      exact ih closed

private theorem closings_take_le (depth : Nat) {count : Nat} {input : List Token}
    (within : count ≤ (split depth input).inner.length) :
    closings (input.take count) ≤ openings (input.take count) + depth := by
  have inner := (List.prefix_append _ _).trans (prefix_split depth input)
  apply closings_le_of_prefix
  apply List.prefix_of_prefix_length_le (List.take_prefix count input) inner
  exact (List.length_take_le count input).trans within

/-- The closer of a group is the one closer more. -/
private theorem closings_take_closer {depth : Nat} {input : List Token}
    (closed : (split depth input).closer.isSome) :
    let covered := input.take ((split depth input).inner.length + 1)
    closings covered = openings covered + depth + 1 := by
  obtain ⟨closer, found⟩ := Option.isSome_iff_exists.mp closed
  have front := prefix_split depth input
  rw [found, Option.toList_some, List.prefix_iff_eq_take, List.length_append,
    List.length_singleton] at front
  have closing : Token.closesGroup closer := by simp [Token.closesGroup, kind_closer found]
  have notOpening : Token.opensGroup closer = false :=
    Token.opensGroup_eq_false_iff.mpr (by simp [kind_closer found])
  have inside := closings_inner closed
  intro covered
  rw [show covered = (split depth input).inner ++ [closer] from front.symm]
  simp only [openings, closings, List.countP_append, List.countP_singleton, closing, notOpening]
    at inside ⊢
  simp [inside]

end GroupBody

namespace GroupSpan

open GroupBody (split)
open Token (openings closings between Outnumbered)

private theorem length_behind (tokens : List Token) (index : Nat) :
    let body := split 0 (tokens.drop (index + 1))
    body.inner.length + body.closer.toList.length + body.after.length =
      tokens.length - (index + 1) := by
  intro body
  rw [GroupBody.length_split, List.length_drop]

variable {tokens : List Token} {index : Nat}

private theorem resolve_of_closed (closed : (resolve tokens index).closed) :
    let span := resolve tokens index
    span.start = index + 1 ∧ span.next = span.stop + 1 ∧ span.next ≤ tokens.length ∧
      span.stop = index + 1 + (split 0 (tokens.drop (index + 1))).inner.length := by
  have within := length_behind tokens index
  obtain ⟨closer, found⟩ := Option.isSome_iff_exists.mp closed
  simp only [found, Option.toList_some, List.length_singleton] at within
  have first : min (index + 1) tokens.length = index + 1 := by omega
  simp only [resolve, first, found, Option.toList_some, List.length_singleton]
  refine ⟨trivial, trivial, ?_, trivial⟩
  omega

private theorem resolve_of_unclosed (unclosed : (resolve tokens index).closed = false) :
    let span := resolve tokens index
    span.start = min (index + 1) tokens.length ∧ span.stop = tokens.length ∧
      span.next = tokens.length := by
  have nothing : (split 0 (tokens.drop (index + 1))).closer = none :=
    Option.isNone_iff_eq_none.mp (Option.isSome_eq_false_iff.mp unclosed)
  have whole := GroupBody.inner_eq nothing
  simp only [resolve, nothing, whole, Option.toList_none, List.length_nil, List.length_drop]
  refine ⟨trivial, ?_, ?_⟩ <;> omega

/-- Before its closer a group has at most as many closers as openers. -/
theorem closings_le {last : Nat} (before : last < (resolve tokens index).stop) :
    closings (between index last tokens) ≤ openings (between index last tokens) := by
  rw [Token.between_eq]
  apply GroupBody.closings_take_le 0
  simp only [resolve] at before
  omega

private theorem outnumbered_closer (closed : (resolve tokens index).closed) :
    closings (between index (resolve tokens index).stop tokens) =
      openings (between index (resolve tokens index).stop tokens) + 1 := by
  obtain ⟨-, -, -, stop⟩ := resolve_of_closed closed
  have length : (resolve tokens index).stop - index =
      (split 0 (tokens.drop (index + 1))).inner.length + 1 := by omega
  rw [Token.between_eq, length]
  exact GroupBody.closings_take_closer closed

theorem isLeast_stop (closed : (resolve tokens index).closed) :
    IsLeast {last | Outnumbered tokens index last} (resolve tokens index).stop := by
  obtain ⟨first, next, within, stop⟩ := resolve_of_closed closed
  have surplus := outnumbered_closer closed
  constructor
  · refine ⟨?_, ?_, ?_⟩ <;> omega
  · rintro last ⟨-, -, more⟩
    apply Nat.le_of_not_lt
    intro before
    exact absurd (closings_le before) (Nat.not_le_of_lt more)

private theorem not_outnumbered (unclosed : (resolve tokens index).closed = false) (last : Nat) :
    ¬ Outnumbered tokens index last := by
  obtain ⟨-, stop, -⟩ := resolve_of_unclosed unclosed
  rintro ⟨-, within, more⟩
  exact absurd (closings_le (stop ▸ within)) (Nat.not_le_of_lt more)

theorem closed_iff_outnumbered :
    (resolve tokens index).closed ↔ ∃ last, Outnumbered tokens index last := by
  constructor
  · intro closed
    exact ⟨_, (isLeast_stop closed).1⟩
  · rintro ⟨last, outnumbered⟩
    by_contra unclosed
    exact not_outnumbered (Bool.eq_false_of_not_eq_true unclosed) last outnumbered

theorem bounds_resolve (tokens : List Token) (index : Nat) :
    let span := resolve tokens index
    span.start ≤ span.stop ∧ span.stop ≤ span.next ∧ span.next ≤ tokens.length := by
  have whole := length_behind tokens index
  refine ⟨Nat.le_add_right _ _, Nat.le_add_right _ _, ?_⟩
  simp only [resolve]
  omega

/-- Up to its closer, and with it, a group has at most one closer more than openers. -/
private theorem closings_le_succ {last : Nat} (covered : last < (resolve tokens index).next) :
    closings (between index last tokens) ≤ openings (between index last tokens) + 1 := by
  rcases Nat.lt_or_ge last (resolve tokens index).stop with before | after
  · exact Nat.le_succ_of_le (closings_le before)
  · cases closed : (resolve tokens index).closed with
    | true =>
        obtain ⟨-, next, -, -⟩ := resolve_of_closed closed
        obtain rfl : last = (resolve tokens index).stop := by omega
        exact (outnumbered_closer closed).le
    | false =>
        obtain ⟨-, stop, next⟩ := resolve_of_unclosed closed
        omega

end GroupSpan

end RegexProse
