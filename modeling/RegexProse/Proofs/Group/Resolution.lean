import Mathlib.Data.List.Basic
import RegexProse.Proofs.Piece.Openings

/-!
# Resolved groups

How the groups that two openers begin lie to each other, and the token lists in which every group is
closed. Such a list can be cut anywhere: what is behind the cut closes its groups too.
-/

set_option autoImplicit false

namespace RegexProse

namespace Token

/-- The indices of the tokens that open a group. -/
def openers (tokens : List Token) : List Nat := tokens.findIdxs opensGroup

theorem mem_openers_iff {tokens : List Token} {index : Nat} :
    index ∈ openers tokens ↔ ∃ before opener after, tokens = before ++ opener :: after ∧
      opener.opensGroup ∧ index = before.length := by
  rw [openers, List.mem_findIdxs_iff_exists_getElem_pos]
  constructor
  · rintro ⟨within, opens⟩
    refine ⟨tokens.take index, tokens[index], tokens.drop (index + 1), by simp, opens, ?_⟩
    rw [List.length_take, Nat.min_eq_left (Nat.le_of_lt within)]
  · rintro ⟨before, opener, after, rfl, opens, rfl⟩
    exact ⟨by simp, by simpa using opens⟩

end Token

namespace GroupBody

/-- An opener that does not stand behind the closer of a group stands in its content. -/
private theorem inner_of_within {left right : List Token} {opener : Token}
    (opens : opener.opensGroup)
    {body : GroupBody} (splits : split 0 (left ++ opener :: right) = body)
    (within : left.length < body.inner.length + body.closer.toList.length) :
    ∃ behind, body.inner = left ++ opener :: behind := by
  have front : left ++ [opener] <+: left ++ opener :: right := ⟨right, by simp⟩
  have covered : body.inner ++ body.closer.toList <+: left ++ opener :: right :=
    splits ▸ prefix_split 0 _
  obtain ⟨behind, same⟩ := List.prefix_of_prefix_length_le front covered (by
    rw [List.length_append, List.length_append]
    exact within)
  cases closer : body.closer with
  | none => exact ⟨behind, by simpa [closer] using same.symm⟩
  | some last =>
      rw [closer, Option.toList_some] at same
      rcases List.eq_nil_or_concat behind with rfl | ⟨behind, final, rfl⟩
      · rw [List.append_nil] at same
        obtain rfl : opener = last := by simpa using (List.append_inj' same rfl).2
        obtain ⟨kind, opens⟩ := Token.opensGroup_iff.mp opens
        have closes := kind_closer (splits ▸ closer)
        rw [opens] at closes
        cases closes
      · have ends : (left ++ opener :: behind) ++ [final] = body.inner ++ [last] := by
          simpa using same
        exact ⟨behind, (List.append_inj' ends rfl).1.symm⟩

end GroupBody

namespace GroupSpan

private theorem lt_next {tokens : List Token} {index : Nat} (opens : index ∈ Token.openers tokens) :
    index < (resolve tokens index).next := by
  obtain ⟨before, opener, after, rfl, -, rfl⟩ := Token.mem_openers_iff.mp opens
  rw [resolve_eq]
  dsimp only
  omega

private theorem next_of_closed {tokens : List Token} {index : Nat}
    (opens : index ∈ Token.openers tokens)
    (closed : (resolve tokens index).closed) :
    (resolve tokens index).next = (resolve tokens index).stop + 1 := by
  obtain ⟨before, opener, after, rfl, -, rfl⟩ := Token.mem_openers_iff.mp opens
  rw [resolve_eq] at closed ⊢
  obtain ⟨closer, found⟩ := Option.isSome_iff_exists.mp closed
  simp only [found, Option.toList_some, List.length_singleton]

/-- Of two groups the later one begins behind the earlier one or stands in its content. -/
theorem next_le_or_inside {tokens : List Token} {first second : Nat}
    (opensFirst : first ∈ Token.openers tokens) (opensSecond : second ∈ Token.openers tokens)
    (order : first < second) :
    (resolve tokens first).next ≤ second ∨
      (resolve tokens first).start ≤ second ∧
        (resolve tokens second).next ≤ (resolve tokens first).stop := by
  obtain ⟨before, opener, after, rfl, -, rfl⟩ := Token.mem_openers_iff.mp opensFirst
  obtain ⟨left, other, right, whole, opens, rfl⟩ := Token.mem_openers_iff.mp opensSecond
  obtain ⟨middle, rfl, rfl⟩ : ∃ middle, left = before ++ opener :: middle ∧
      after = middle ++ other :: right := by
    rcases List.append_eq_append_iff.mp whole with ⟨middle, rfl, later⟩ | ⟨middle, rfl, later⟩
    · cases middle with
      | nil => simp at order
      | cons first middle =>
          obtain ⟨rfl, rfl⟩ := List.cons.inj later
          exact ⟨middle, rfl, rfl⟩
    · rw [List.length_append] at order
      omega
  have later : before ++ opener :: (middle ++ other :: right) =
      (before ++ opener :: middle) ++ other :: right := by simp
  rw [resolve_eq, later, resolve_eq]
  generalize splits : GroupBody.split 0 (middle ++ other :: right) = body
  by_cases within : middle.length < body.inner.length + body.closer.toList.length
  · obtain ⟨behind, inner⟩ := GroupBody.inner_of_within opens splits within
    obtain ⟨kind, opens⟩ := Token.opensGroup_iff.mp opens
    have whole := GroupBody.tokens_split 0 (middle ++ other :: right)
    subst splits
    obtain ⟨content, closer⟩ := GroupBody.split_inner inner opens
    rw [GroupBody.tokens, inner, List.append_assoc, List.append_assoc, List.append_cancel_left_eq,
      List.cons_append, List.cons.injEq] at whole
    rw [whole.2] at content closer
    have length := GroupBody.length_split 0 behind
    refine .inr ⟨?_, ?_⟩
    · simp
    · simp only [content, closer, inner, List.length_append, List.length_cons]
      omega
  · refine .inl ?_
    simp only [List.length_append, List.length_cons]
    omega

theorem next_ne_next {tokens : List Token} {first second : Nat}
    (opensFirst : first ∈ Token.openers tokens) (opensSecond : second ∈ Token.openers tokens)
    (closed : (resolve tokens first).closed) (order : first < second) :
    (resolve tokens first).next ≠ (resolve tokens second).next := by
  have behind := lt_next opensSecond
  have closer := next_of_closed opensFirst closed
  have place := next_le_or_inside opensFirst opensSecond order
  omega

end GroupSpan

namespace Token

/-- Every group that the tokens open is closed among them. -/
def GroupsClose (tokens : List Token) : Prop :=
  ∀ index ∈ openers tokens, (GroupSpan.resolve tokens index).closed

instance (tokens : List Token) : Decidable (GroupsClose tokens) :=
  inferInstanceAs (Decidable (∀ index ∈ openers tokens, _))

theorem groupsClose_iff {tokens : List Token} :
    GroupsClose tokens ↔ ∀ before opener after, tokens = before ++ opener :: after →
      opener.opensGroup → (GroupBody.split 0 after).closer.isSome := by
  constructor
  · intro closed before opener after whole opens
    have found := closed before.length (mem_openers_iff.mpr ⟨_, _, _, whole, opens, rfl⟩)
    rwa [whole, GroupSpan.resolve_eq] at found
  · intro closed index member
    obtain ⟨before, opener, after, whole, opens, rfl⟩ := mem_openers_iff.mp member
    rw [whole, GroupSpan.resolve_eq]
    exact closed before opener after whole opens

theorem GroupsClose.of_append {front back : List Token} (closed : GroupsClose (front ++ back)) :
    GroupsClose back := by
  rw [groupsClose_iff] at closed ⊢
  intro before opener after whole opens
  exact closed (front ++ before) opener after (by rw [whole, List.append_assoc]) opens

theorem GroupsClose.of_cons {token : Token} {rest : List Token}
    (closed : GroupsClose (token :: rest)) : GroupsClose rest :=
  @of_append [token] rest closed

theorem GroupsClose.drop {tokens : List Token} (closed : GroupsClose tokens) :
    GroupsClose (QuantifierRun.drop tokens) := by
  rw [← QuantifierRun.take_append_drop tokens] at closed
  exact closed.of_append

theorem GroupsClose.isSome_closer {opener : Token} {kind : GroupKind} {rest : List Token}
    (closed : GroupsClose (opener :: rest)) (opens : opener.kind = .groupOpen kind) :
    (GroupBody.split 0 rest).closer.isSome :=
  groupsClose_iff.mp closed [] opener rest rfl (opensGroup_iff.mpr ⟨kind, opens⟩)

end Token

end RegexProse
