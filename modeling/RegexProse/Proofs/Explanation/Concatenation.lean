import RegexProse.Explanation
import RegexProse.Proofs.Group.Resolution
import RegexProse.Proofs.Piece.Shift
import RegexProse.Proofs.Token.Append

/-!
# Explanations of concatenations

Two patterns in a row are explained one after the other where nothing in the first one reaches for
the second: no token is completed by it, no group is closed by it, and no quantifier in front of it
repeats what stands last.
-/

set_option autoImplicit false

namespace RegexProse

open Token (GroupsClose)

section Seam

variable {back : List Token} (noQuantifier : ∀ first ∈ back.head?, ¬ first.isQuantifier)

include noQuantifier

private theorem QuantifierRun.take_drop_append (front : List Token) :
    take (front ++ back) = take front ∧ drop (front ++ back) = drop front ++ back := by
  induction front with
  | nil =>
      cases back with
      | nil => exact ⟨rfl, rfl⟩
      | cons first back =>
          have stops := noQuantifier first rfl
          exact ⟨List.takeWhile_cons_of_neg stops, List.dropWhile_cons_of_neg stops⟩
  | cons token front ih =>
      by_cases repeats : token.isQuantifier
      · simp only [take, drop, List.cons_append, List.takeWhile_cons_of_pos repeats,
          List.dropWhile_cons_of_pos repeats] at ih ⊢
        exact ⟨congrArg _ ih.1, ih.2⟩
      · simp only [take, drop, List.cons_append, List.takeWhile_cons_of_neg repeats,
          List.dropWhile_cons_of_neg repeats, and_self]

theorem Piece.ofTokens_append {front : List Token} (closed : GroupsClose front) :
    ofTokens (front ++ back) = ofTokens front ++ ofTokens back := by
  fun_induction ofTokens front with
  | case1 => rfl
  | case2 token rest kind opens body inside outside =>
      have closer := closed.isSome_closer opens
      have later : GroupsClose (QuantifierRun.drop body.after) := by
        have behind := closed.of_cons
        rw [← GroupBody.tokens_split 0 rest] at behind
        exact behind.of_append.drop
      obtain ⟨run, remaining⟩ := QuantifierRun.take_drop_append noQuantifier body.after
      rw [List.cons_append, ofTokens_open opens, GroupBody.split_append closer, run, remaining,
        outside later]
      rfl
  | case3 token rest quantifier repeats ih =>
      rw [List.cons_append, ofTokens_quantifier repeats, ih closed.of_cons]
      rfl
  | case4 token rest notOpen notQuantifier ih =>
      obtain ⟨run, remaining⟩ := QuantifierRun.take_drop_append noQuantifier rest
      rw [List.cons_append, ofTokens_single notOpen notQuantifier, run, remaining,
        ih closed.of_cons.drop]
      rfl

end Seam

theorem Piece.components_append (left right : List Piece) :
    components (left ++ right) = components left ++ components right := by
  simp only [components_eq_map, List.map_append]

namespace Explanation

section Patterns

variable (left right : Text)

/-- The tokens of the patterns in a row are those of each, only that the second ones stand later. -/
def TokensAppend : Prop :=
  Token.tokenize (left ++ right) =
    Token.tokenize left ++ (Token.tokenize right).map (Token.shift left.byteLength)

def ComponentsAppend : Prop :=
  (ofPattern (left ++ right)).components =
    (ofPattern left).components ++ (ofPattern right).components

end Patterns

variable {left right : Text}

private theorem tokensAppend_of_complete (complete : Token.Complete (Token.tokenize left))
    (right : Text) : TokensAppend left right := by
  rw [TokensAppend, Token.tokenize, Token.tokenizeFrom_append complete, Nat.zero_add,
    Token.tokenizeFrom_eq_shift left.byteLength]
  rfl

private theorem componentsAppend_of_tokensAppend (tokens : TokensAppend left right)
    (closed : GroupsClose (Token.tokenize left))
    (noQuantifier : ∀ first ∈ (Token.tokenize right).head?, ¬ first.isQuantifier) :
    ComponentsAppend left right := by
  have behind : ∀ first ∈ ((Token.tokenize right).map (Token.shift left.byteLength)).head?,
      ¬ first.isQuantifier := by
    intro first member
    rw [List.head?_map, Option.mem_def, Option.map_eq_some_iff] at member
    obtain ⟨original, member, rfl⟩ := member
    exact noQuantifier original member
  simp only [ComponentsAppend, ofPattern]
  rw [tokens, Piece.ofTokens_append behind closed, Piece.components_append,
    Piece.components_map_shift]

/-- For each way in which tokens may be unfinished there is a text that finishes them. -/
theorem exists_not_tokensAppend (way : Token.Unfinished) :
    ∃ left right : Text, (∀ other, other.Occurs (Token.tokenize left) → other = way) ∧
      ¬ TokensAppend left right := by
  unfold TokensAppend
  cases way with
  | bracket => exact ⟨"[", "a]", by decide +kernel, by decide +kernel⟩
  | brace => exact ⟨"a\x7b", "2\x7d", by decide +kernel, by decide +kernel⟩
  | escape => exact ⟨"\\", "a", by decide +kernel, by decide +kernel⟩
  | lastParenthesis => exact ⟨"(", "?:a)", by decide +kernel, by decide +kernel⟩
  | questionedParenthesis => exact ⟨"(?", ":a)", by decide +kernel, by decide +kernel⟩

theorem not_componentsAppend
    (different : (ofPattern (left ++ right)).components.map Component.raw ≠
      (ofPattern left).components.map Component.raw ++
        (ofPattern right).components.map Component.raw) :
    ¬ ComponentsAppend left right := by
  intro same
  rw [same, List.map_append] at different
  exact different rfl

/-- Behind complete tokens a further pattern has its own tokens, only later; and if the groups
before it are closed and it begins with no quantifier, it has its own components. None of these
conditions can be left out. -/
theorem explanation_append :
    (∀ left right : Text, Token.Complete (Token.tokenize left) → TokensAppend left right ∧
      (GroupsClose (Token.tokenize left) →
        (∀ first ∈ (Token.tokenize right).head?, ¬ first.isQuantifier) →
          ComponentsAppend left right)) ∧
      (∀ way : Token.Unfinished, ∃ left right : Text,
        (∀ other, other.Occurs (Token.tokenize left) → other = way) ∧ ¬ TokensAppend left right) ∧
      (∃ left right : Text, Token.Complete (Token.tokenize left) ∧
        (∀ first ∈ (Token.tokenize right).head?, ¬ first.isQuantifier) ∧
          ¬ ComponentsAppend left right) ∧
      ∃ left right : Text, Token.Complete (Token.tokenize left) ∧
        GroupsClose (Token.tokenize left) ∧ ¬ ComponentsAppend left right := by
  refine ⟨fun left right complete => ?_, exists_not_tokensAppend, ?_, ?_⟩
  · have tokens := tokensAppend_of_complete complete right
    exact ⟨tokens, componentsAppend_of_tokensAppend tokens⟩
  · exact ⟨"(a", ")", by decide +kernel, by decide +kernel,
      not_componentsAppend (by decide +kernel)⟩
  · exact ⟨"a", "*", by decide +kernel, by decide +kernel,
      not_componentsAppend (by decide +kernel)⟩

end Explanation

end RegexProse
