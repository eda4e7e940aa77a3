import RegexProse.Group.Span

/-!
# Nesting of groups

How the bodies of nested groups relate. Tokens in which all groups are closed do not move the closer
of a group around them, and a group that is closed holds no group that is not: so a group has the
same body in the content of the group around it as in the whole token list.
-/

set_option autoImplicit false

namespace RegexProse.GroupBody

theorem split_open {token : Token} {kind : GroupKind} (opens : token.kind = .groupOpen kind)
    (depth : Nat) (rest : List Token) :
    split depth (token :: rest) = (split (depth + 1) rest).push token := by
  rw [split.eq_def]
  simp only [opens]

theorem split_close {token : Token} (closes : token.kind = .groupClose) (rest : List Token) :
    split 0 (token :: rest) = ⟨[], some token, rest⟩ := by
  rw [split, closes]

theorem split_close_succ {token : Token} (closes : token.kind = .groupClose) (depth : Nat)
    (rest : List Token) : split (depth + 1) (token :: rest) = (split depth rest).push token := by
  rw [split, closes]

theorem split_other {token : Token} (notOpen : ∀ kind, token.kind ≠ .groupOpen kind)
    (notClose : token.kind ≠ .groupClose) (depth : Nat) (rest : List Token) :
    split depth (token :: rest) = (split depth rest).push token := by
  rw [split.eq_def]
  dsimp only
  split
  case h_1 kind opens => exact absurd opens (notOpen kind)
  case h_2 closes => exact absurd closes notClose
  case h_3 => rfl

theorem kind_closer {depth : Nat} {input : List Token} {token : Token}
    (closed : (split depth input).closer = some token) : token.kind = .groupClose := by
  fun_induction split depth input with
  | case1 => cases closed
  | case2 depth opener rest kind opens ih => exact ih closed
  | case3 closer rest closes => exact Option.some.inj closed ▸ closes
  | case4 closer rest closes depth ih => exact ih closed
  | case5 depth other rest notOpen notClose ih => exact ih closed

theorem inner_eq {depth : Nat} {input : List Token} (unclosed : (split depth input).closer = none) :
    (split depth input).inner = input := by
  have whole := tokens_split depth input
  rw [tokens, unclosed, after_eq_nil_of_closer_eq_none unclosed] at whole
  simpa using whole

theorem prefix_split (depth : Nat) (input : List Token) :
    (split depth input).inner ++ (split depth input).closer.toList <+: input :=
  ⟨(split depth input).after, tokens_split depth input⟩

/-- The content of a group has no further closer for it. -/
theorem closer_inner (depth : Nat) (input : List Token) :
    (split depth (split depth input).inner).closer = none := by
  fun_induction split depth input with
  | case1 => rfl
  | case2 depth token rest kind opens ih => rw [push, split_open opens]; exact ih
  | case3 token rest closes => rfl
  | case4 token rest closes depth ih => rw [push, split_close_succ closes]; exact ih
  | case5 depth token rest notOpen notClose ih => rw [push, split_other notOpen notClose]; exact ih

theorem split_append {depth : Nat} {input : List Token}
    (closed : (split depth input).closer.isSome) (more : List Token) :
    split depth (input ++ more) =
      { split depth input with after := (split depth input).after ++ more } := by
  fun_induction split depth input with
  | case1 => simp at closed
  | case2 depth token rest kind opens ih =>
      rw [List.cons_append, split_open opens, ih closed]
      rfl
  | case3 token rest closes => rw [List.cons_append, split_close closes]
  | case4 token rest closes depth ih =>
      rw [List.cons_append, split_close_succ closes, ih closed]
      rfl
  | case5 depth token rest notOpen notClose ih =>
      rw [List.cons_append, split_other notOpen notClose, ih closed]
      rfl

/-- The content of a closed group closes each group in which it begins. -/
private theorem isSome_closer_inner {depth inside : Nat} {input : List Token}
    (within : inside < depth)
    (closed : (split depth input).closer.isSome) :
    (split inside (split depth input).inner).closer.isSome := by
  fun_induction split depth input generalizing inside with
  | case1 => simp at closed
  | case2 depth token rest kind opens ih =>
      rw [push, split_open opens]
      exact ih (Nat.succ_lt_succ within) closed
  | case3 token rest closes => simp at within
  | case4 token rest closes depth ih =>
      rw [push]
      cases inside with
      | zero => rw [split_close closes]; rfl
      | succ inside =>
          rw [split_close_succ closes]
          exact ih (Nat.lt_of_succ_lt_succ within) closed
  | case5 depth token rest notOpen notClose ih =>
      rw [push, split_other notOpen notClose]
      exact ih within closed

/-- A closed group holds no group that is not closed. -/
theorem isSome_closer_of_inner {depth : Nat} {input before after : List Token} {opener : Token}
    {kind : GroupKind} (closed : (split depth input).closer.isSome)
    (holds : (split depth input).inner = before ++ opener :: after)
    (opens : opener.kind = .groupOpen kind) : (split 0 after).closer.isSome := by
  fun_induction split depth input generalizing before with
  | case1 | case3 => simp at holds
  | case2 depth token rest tokenKind tokenOpens ih =>
      cases before with
      | nil =>
          obtain ⟨rfl, rfl⟩ := List.cons.inj holds
          exact isSome_closer_inner (Nat.succ_pos depth) closed
      | cons first before => exact ih closed (List.cons.inj holds).2
  | case4 token rest closes depth ih =>
      cases before with
      | nil =>
          obtain ⟨rfl, -⟩ := List.cons.inj holds
          rw [opens] at closes
          cases closes
      | cons first before => exact ih closed (List.cons.inj holds).2
  | case5 depth token rest notOpen notClose ih =>
      cases before with
      | nil =>
          obtain ⟨rfl, -⟩ := List.cons.inj holds
          exact absurd opens (notOpen kind)
      | cons first before => exact ih closed (List.cons.inj holds).2

/-- A group has the same content and the same closer inside the group around it as outside. -/
theorem split_inner {depth : Nat} {input before after : List Token} {opener : Token}
    {kind : GroupKind} (holds : (split depth input).inner = before ++ opener :: after)
    (opens : opener.kind = .groupOpen kind) :
    let behind := (split depth input).closer.toList ++ (split depth input).after
    (split 0 (after ++ behind)).inner = (split 0 after).inner ∧
      (split 0 (after ++ behind)).closer = (split 0 after).closer := by
  intro behind
  cases closer : (split depth input).closer with
  | none =>
      have nothing : behind = [] := by
        simp [behind, closer, after_eq_nil_of_closer_eq_none closer]
      rw [nothing, List.append_nil]
      exact ⟨rfl, rfl⟩
  | some token =>
      have closed := isSome_closer_of_inner (by rw [closer]; rfl) holds opens
      rw [split_append closed]
      exact ⟨rfl, rfl⟩

/-- The tokens close each group that they open, and no other. -/
def Balanced (tokens : List Token) : Prop :=
  ∀ depth rest, split depth (tokens ++ rest) =
    { split depth rest with inner := tokens ++ (split depth rest).inner }

namespace Balanced

theorem nil : Balanced [] := fun _ _ => rfl

theorem append {left right : List Token} (first : Balanced left) (second : Balanced right) :
    Balanced (left ++ right) := by
  intro depth rest
  rw [List.append_assoc, first, second, List.append_assoc]

theorem cons {token : Token} {behind : List Token} (notOpen : ∀ kind, token.kind ≠ .groupOpen kind)
    (notClose : token.kind ≠ .groupClose) (balanced : Balanced behind) :
    Balanced (token :: behind) := by
  intro depth rest
  rw [List.cons_append, split_other notOpen notClose, balanced]
  rfl

theorem group {opener closer : Token} {kind : GroupKind} {content behind : List Token}
    (opens : opener.kind = .groupOpen kind) (inside : Balanced content)
    (closes : closer.kind = .groupClose) (balanced : Balanced behind) :
    Balanced (opener :: (content ++ closer :: behind)) := by
  intro depth rest
  rw [List.cons_append, split_open opens, List.append_assoc, inside, List.cons_append,
    split_close_succ closes, balanced]
  simp [push]

theorem split_eq {content : List Token} (inside : Balanced content) {closer : Token}
    (closes : closer.kind = .groupClose) (after : List Token) :
    split 0 (content ++ closer :: after) = ⟨content, some closer, after⟩ := by
  rw [inside, split_close closes, List.append_nil]

end Balanced

end RegexProse.GroupBody
