import RegexProse.Proofs.Token.Slice

/-!
# Partition of the pattern

The tokens of a pattern cover it without gap and without overlap, in the order in which they are
listed: each one begins at the byte at which the one before it ends.
-/

set_option autoImplicit false

namespace RegexProse.Token

/-- The tokens stand one behind the other, the first of them at the given byte. -/
inductive Contiguous : Nat → List Token → Prop where
  | nil {offset : Nat} : Contiguous offset []
  | cons {offset : Nat} {kind : TokenKind} {text : Text} {rest : List Token} :
      Contiguous (offset + text.byteLength) rest → Contiguous offset (⟨kind, text, offset⟩ :: rest)

theorem contiguous_tokenizeFrom (offset : Nat) (input : Text) :
    Contiguous offset (tokenizeFrom offset input) := by
  fun_induction tokenizeFrom offset input with
  | case1 => exact .nil
  | case2 offset char input scan ih => exact .cons ih

theorem Contiguous.offset_eq {first : Nat} {tokens : List Token}
    (contiguous : Contiguous first tokens) {index : Nat} {token : Token}
    (found : tokens[index]? = some token) :
    token.offset = first + (texts (tokens.take index)).byteLength := by
  induction contiguous generalizing index with
  | nil => simp at found
  | cons behind ih =>
      cases index with
      | zero =>
          obtain rfl := Option.some.inj found
          rfl
      | succ index =>
          rw [ih (by simpa using found)]
          simp [Nat.add_assoc]

theorem text_ne_nil_of_mem_tokenizeFrom {offset : Nat} {input : Text} {token : Token}
    (member : token ∈ tokenizeFrom offset input) : token.text ≠ [] := by
  fun_induction tokenizeFrom offset input with
  | case1 => cases member
  | case2 offset char input scan ih =>
      rcases List.mem_cons.mp member with rfl | member
      · exact (TokenKind.scan_splits char input).ne_nil
      · exact ih member

/-- The tokens partition the pattern: together they are the pattern, none of them is empty, and
each one begins behind all the bytes of those before it. -/
theorem tokenize_partition (pattern : Text) :
    texts (tokenize pattern) = pattern ∧ (∀ token ∈ tokenize pattern, token.text ≠ []) ∧
      ∀ (index : Nat) (token : Token), (tokenize pattern)[index]? = some token →
        token.offset = (texts ((tokenize pattern).take index)).byteLength := by
  refine ⟨texts_tokenizeFrom 0 pattern, fun token => text_ne_nil_of_mem_tokenizeFrom, ?_⟩
  intro index token found
  have behind := (contiguous_tokenizeFrom 0 pattern).offset_eq found
  rwa [Nat.zero_add] at behind

end RegexProse.Token
