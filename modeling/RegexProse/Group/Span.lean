import RegexProse.Token.Basic

/-!
# Group spans

Which tokens a group holds. The closer of a group is the first one that leaves no group open which
was opened after it; a group without closer holds all that follows.
-/

set_option autoImplicit false

namespace RegexProse

/-- What follows a group opener: the tokens of the group, its closer if there is one, and the tokens
after the group. -/
structure GroupBody where
  inner : List Token
  closer : Option Token
  after : List Token

namespace GroupBody

def push (token : Token) (body : GroupBody) : GroupBody :=
  { body with inner := token :: body.inner }

/-- Splits the tokens at the closer of the group around them, inside which `depth` groups are open.
-/
def split (depth : Nat) : List Token → GroupBody
  | [] => ⟨[], none, []⟩
  | token :: rest =>
    match token.kind with
    | .groupOpen _ => (split (depth + 1) rest).push token
    | .groupClose =>
      match depth with
      | 0 => ⟨[], some token, rest⟩
      | outer + 1 => (split outer rest).push token
    | _ => (split depth rest).push token

def tokens (body : GroupBody) : List Token := body.inner ++ body.closer.toList ++ body.after

@[simp] theorem tokens_push (token : Token) (body : GroupBody) :
    (body.push token).tokens = token :: body.tokens := rfl

@[simp] theorem tokens_split (depth : Nat) (input : List Token) :
    (split depth input).tokens = input := by
  fun_induction split depth input with
  | case1 | case3 => rfl
  | case2 _ _ _ _ _ ih | case4 _ _ _ _ ih | case5 _ _ _ _ _ ih => rw [tokens_push, ih]

theorem length_split (depth : Nat) (input : List Token) :
    (split depth input).inner.length + (split depth input).closer.toList.length +
      (split depth input).after.length = input.length := by
  simpa [tokens, Nat.add_assoc] using congrArg List.length (tokens_split depth input)

theorem after_eq_nil_of_closer_eq_none {depth : Nat} {input : List Token}
    (unclosed : (split depth input).closer = none) : (split depth input).after = [] := by
  fun_induction split depth input <;> simp_all [push]

end GroupBody

/-- A group within a token list: the indices of its content and of the token after it, the text of
its content, and whether it is closed. -/
structure GroupSpan where
  content : Text
  start : Nat
  stop : Nat
  next : Nat
  closed : Bool
  deriving DecidableEq, Repr

/-- The span of the group that the token at the index opens. -/
def GroupSpan.resolve (tokens : List Token) (opener : Nat) : GroupSpan :=
  let body := GroupBody.split 0 (tokens.drop (opener + 1))
  let start := min (opener + 1) tokens.length
  let stop := start + body.inner.length
  ⟨Token.texts body.inner, start, stop, stop + body.closer.toList.length, body.closer.isSome⟩

namespace GroupSpan

theorem resolve_eq (before : List Token) (opener : Token) (after : List Token) :
    resolve (before ++ opener :: after) before.length =
      let body := GroupBody.split 0 after
      let stop := before.length + 1 + body.inner.length
      ⟨Token.texts body.inner, before.length + 1, stop, stop + body.closer.toList.length,
        body.closer.isSome⟩ := by
  have behind : (before ++ opener :: after).drop (before.length + 1) = after := by simp
  have first : min (before.length + 1) (before ++ opener :: after).length = before.length + 1 := by
    simp
  simp only [resolve, behind, first]

variable (tokens : List Token) (index : Nat)

theorem drop_start_resolve :
    tokens.drop (resolve tokens index).start = tokens.drop (index + 1) := by
  simp only [resolve]
  rcases Nat.le_total (index + 1) tokens.length with within | beyond
  · rw [Nat.min_eq_left within]
  · rw [Nat.min_eq_right beyond, List.drop_length, List.drop_of_length_le beyond]

theorem drop_resolve (count : Nat) :
    tokens.drop ((resolve tokens index).start + count) =
      (GroupBody.split 0 (tokens.drop (index + 1))).tokens.drop count := by
  rw [← List.drop_drop, drop_start_resolve, GroupBody.tokens_split]

/-- The tokens between the indices of the content, also where no opener has the index. -/
theorem slice_resolve :
    let span := resolve tokens index
    (tokens.take span.stop).drop span.start =
      (GroupBody.split 0 (tokens.drop (index + 1))).inner := by
  intro span
  have length : span.stop - span.start =
      (GroupBody.split 0 (tokens.drop (index + 1))).inner.length := Nat.add_sub_cancel_left ..
  rw [List.drop_take, length, ← Nat.add_zero span.start, drop_resolve, List.drop_zero,
    GroupBody.tokens, List.append_assoc, List.take_left]

theorem getElem?_stop_resolve :
    tokens[(resolve tokens index).stop]? =
      (GroupBody.split 0 (tokens.drop (index + 1))).closer := by
  rw [← List.head?_drop]
  show (tokens.drop ((resolve tokens index).start + _)).head? = _
  rw [drop_resolve, GroupBody.tokens, List.append_assoc, List.drop_left]
  cases closer : (GroupBody.split 0 (tokens.drop (index + 1))).closer with
  | none =>
      rw [GroupBody.after_eq_nil_of_closer_eq_none closer]
      rfl
  | some last => rfl

theorem drop_next_resolve :
    tokens.drop (resolve tokens index).next =
      (GroupBody.split 0 (tokens.drop (index + 1))).after := by
  have next : (resolve tokens index).next = (resolve tokens index).start +
      ((GroupBody.split 0 (tokens.drop (index + 1))).inner ++
        (GroupBody.split 0 (tokens.drop (index + 1))).closer.toList).length := by
    rw [List.length_append, ← Nat.add_assoc]
    rfl
  rw [next, drop_resolve, GroupBody.tokens, List.drop_left]

end GroupSpan

end RegexProse
