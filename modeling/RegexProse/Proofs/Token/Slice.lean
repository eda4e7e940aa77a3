import RegexProse.Proofs.Token.Construct

/-!
# Slices of a token list

A token list can be cut between any two tokens: the text of each part has the tokens of that part.
-/

set_option autoImplicit false

namespace RegexProse.Token

/-- The token at a later place of the pattern. -/
def shift (distance : Nat) (token : Token) : Token :=
  { token with offset := token.offset + distance }

/-- The byte at which the tokens begin. -/
def start : List Token → Nat
  | [] => 0
  | token :: _ => token.offset

theorem tokenizeFrom_cons (offset : Nat) (char : Char) (input : Text) :
    tokenizeFrom offset (char :: input) =
      ⟨(TokenKind.scan char input).value, (TokenKind.scan char input).text, offset⟩ ::
        tokenizeFrom (offset + (TokenKind.scan char input).text.byteLength)
          (TokenKind.scan char input).rest := by
  rw [tokenizeFrom]

theorem spelled_of_mem_tokenizeFrom {offset : Nat} {input : Text} {token : Token}
    (member : token ∈ tokenizeFrom offset input) : token.kind.Spelled token.text := by
  fun_induction tokenizeFrom offset input with
  | case1 => cases member
  | case2 offset char input scan ih =>
      rcases List.mem_cons.mp member with rfl | member
      · exact TokenKind.scan_spelled char input
      · exact ih member

theorem spelled_of_mem_tokenize {pattern : Text} {token : Token}
    (member : token ∈ tokenize pattern) : token.kind.Spelled token.text :=
  spelled_of_mem_tokenizeFrom member

/-- Tokens know of the text before them only how long it is. -/
theorem tokenizeFrom_add (offset distance : Nat) (input : Text) :
    tokenizeFrom (offset + distance) input = (tokenizeFrom offset input).map (shift distance) := by
  fun_induction tokenizeFrom offset input with
  | case1 => simp only [tokenizeFrom, List.map_nil]
  | case2 offset char input scan ih =>
      rw [tokenizeFrom_cons, List.map_cons, ← ih, Nat.add_right_comm]
      rfl

theorem tokenizeFrom_eq_shift (offset : Nat) (input : Text) :
    tokenizeFrom offset input = (tokenize input).map (shift offset) := by
  rw [tokenize, ← tokenizeFrom_add, Nat.zero_add]

/-- The tokens behind a cut are those of the text behind it. -/
theorem tokenizeFrom_behind {offset : Nat} {input : Text} {before after : List Token}
    (whole : tokenizeFrom offset input = before ++ after) :
    tokenizeFrom (offset + (texts before).byteLength) (texts after) = after := by
  induction before generalizing offset input with
  | nil =>
      rw [List.nil_append] at whole
      rw [← whole, texts_tokenizeFrom]
      rfl
  | cons token before ih =>
      cases input with
      | nil => simp [tokenizeFrom] at whole
      | cons char input =>
          rw [tokenizeFrom_cons, List.cons_append] at whole
          obtain ⟨rfl, later⟩ := List.cons.inj whole
          rw [texts_cons, Text.byteLength_append, ← Nat.add_assoc]
          exact ih later

/-- The tokens before a cut are those of the text before it. -/
private theorem tokenizeFrom_before {offset : Nat} {input : Text} {before after : List Token}
    (whole : tokenizeFrom offset input = before ++ after) :
    tokenizeFrom offset (texts before) = before := by
  induction before generalizing offset input with
  | nil => simp [tokenizeFrom]
  | cons token before ih =>
      cases input with
      | nil => simp [tokenizeFrom] at whole
      | cons char input =>
          rw [tokenizeFrom_cons, List.cons_append] at whole
          obtain ⟨rfl, later⟩ := List.cons.inj whole
          obtain ⟨covered, covers, rest⟩ := TokenKind.scan_begins char input
          have remaining : (TokenKind.scan char input).rest = texts before ++ texts after := by
            rw [← texts_append, ← later, texts_tokenizeFrom]
          rw [remaining, ← List.append_assoc] at rest
          have cut := TokenKind.scan_cut (texts after) (rest ▸ covers) rfl
          rw [← rest, ← covers] at cut
          rw [texts_cons, covers, List.cons_append, tokenizeFrom_cons, cut, ih later,
            ← covers]

/-- The tokens between two cuts are, but for their place, those of the text between them. -/
theorem map_shift_tokenize {pattern : Text} {before slice after : List Token}
    (whole : tokenize pattern = before ++ slice ++ after) :
    (tokenize (texts slice)).map (shift (texts before).byteLength) = slice := by
  have inside := tokenizeFrom_behind (tokenizeFrom_before whole)
  rwa [Nat.zero_add, tokenizeFrom_eq_shift] at inside

private theorem start_map_shift (distance : Nat) {input : Text} (inhabited : input ≠ []) :
    start ((tokenize input).map (shift distance)) = distance := by
  cases input with
  | nil => exact absurd rfl inhabited
  | cons char input =>
      rw [tokenize, tokenizeFrom_cons, List.map_cons]
      exact Nat.zero_add distance

/-- A slice of a token list is, at its place, the tokens of its own text. -/
theorem tokenize_texts_slice (pattern : Text) (first last : Nat) :
    let slice := ((tokenize pattern).take last).drop first
    (tokenize (texts slice)).map (shift (start slice)) = slice := by
  intro slice
  have whole : tokenize pattern =
      ((tokenize pattern).take last).take first ++ slice ++ (tokenize pattern).drop last := by
    rw [List.take_append_drop, List.take_append_drop]
  have same := map_shift_tokenize whole
  by_cases inhabited : texts slice = []
  · rw [inhabited] at same ⊢
    simpa [tokenize, tokenizeFrom] using same
  · have begins := start_map_shift
      (texts (((tokenize pattern).take last).take first)).byteLength inhabited
    rw [same] at begins
    rwa [begins]

end RegexProse.Token
