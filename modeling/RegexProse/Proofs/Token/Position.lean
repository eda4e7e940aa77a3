import RegexProse.Proofs.Bracket.Position
import RegexProse.Proofs.Group.OpenerPosition
import RegexProse.Proofs.Quantifier.BracePosition
import RegexProse.Token.Tokenize

/-!
# Tokenization by byte positions

The tokens of a pattern, found by going from one byte position to the next. Every cut on the way is
proper, so the position never leaves the pattern and never falls inside a character; it grows with
each token until the pattern is read, and the tokens are those of the pattern.
-/

set_option autoImplicit false

namespace RegexProse

open Cutting

namespace TokenKind

/-- The kind and the bytes of the token that begins with the character and goes on with the
input. -/
def measure (char : Char) (input : Text) : Cutting (TokenKind × Nat) :=
  match char with
  | '\\' => do
    match (← behind ('\\' :: input) 1).head? with
    | some escaped => return (.escape escaped, 1 + escaped.utf8Size)
    | none => return (.literal '\\', 1)
  | '[' => do
    match ← Text.measureBracket ('[' :: input) with
    | some length => return (.bracket, length)
    | none => return (.literal '[', 1)
  | '(' => do
    let (opener, length) ← Opener.measure ('(' :: input)
    return (ofOpener opener, length)
  | ')' => return (.groupClose, 1)
  | '{' => do
    match ← Quantifier.measureBrace ('{' :: input) with
    | some (operator, length) => return (.quantifier operator, length)
    | none => return (.literal '{', 1)
  | '.' => return (.anyChar, 1)
  | '^' => return (.startAnchor, 1)
  | '$' => return (.endAnchor, 1)
  | char =>
    match Quantifier.ofChar? char with
    | some operator => return (.quantifier operator, 1)
    | none => return (.literal char, char.utf8Size)

private theorem utf8Size_of_ofChar? {char : Char} {operator : Quantifier}
    (found : Quantifier.ofChar? char = some operator) : char.utf8Size = 1 := by
  unfold Quantifier.ofChar? at found
  split at found
  case h_4 => cases found
  all_goals rfl

/-- All the cuts on the way are proper, and what is found is what the scanner reads. -/
theorem yields_measure (char : Char) (input : Text) :
    Yields (measure char input) (scan char input).extent := by
  unfold measure
  split
  case h_1 =>
    refine (yields_behind ['\\'] input).bind ?_
    cases input with
    | nil => exact yields_pure _
    | cons escaped rest => exact yields_pure _
  case h_2 =>
    refine (Bracket.yields_measure input).bind ?_
    simp only [scan, scanBracket, Bracket.length?]
    cases Bracket.scan? ('[' :: input) with
    | none => exact yields_pure _
    | some scan => exact yields_pure _
  case h_3 => exact (Opener.yields_measure input).bind (yields_pure _)
  case h_5 =>
    refine (Quantifier.yields_measureBrace ('{' :: input)).bind ?_
    simp only [scan, scanBrace]
    cases Quantifier.scanBrace? ('{' :: input) with
    | none => exact yields_pure _
    | some scan => exact yields_pure _
  case h_4 | h_6 | h_7 | h_8 => exact yields_pure _
  case h_9 =>
    have alone : (scan char input).extent = (ofChar char, char.utf8Size) := by
      simp_all [scan, Scan.extent, Scan.one]
    rw [alone]
    cases found : Quantifier.ofChar? char with
    | none =>
        have kind : ofChar char = .literal char := by simp_all [ofChar]
        rw [kind]
        exact yields_pure _
    | some operator =>
        have kind : ofChar char = .quantifier operator := by simp_all [ofChar]
        rw [kind, utf8Size_of_ofChar? found]
        exact yields_pure _

end TokenKind

namespace Token

/-- The token at a byte position of the pattern and the position behind it. There is none at the end
of the pattern. -/
def next (pattern : Text) (position : Nat) : Cutting (Option (Token × Nat)) := do
  match ← behind pattern position with
  | [] => return none
  | char :: input =>
    let (kind, length) ← TokenKind.measure char input
    let text ← before (char :: input) length
    return some (⟨kind, text, position⟩, position + length)

end Token

/-- The tokens from a byte position on, and the position at which there are no more. -/
def Text.readTokens (pattern : Text) (position : Nat) : Cutting (List Token × Nat) := do
  match ← Token.next pattern position with
  | none => return ([], position)
  | some (token, behind) =>
    let (tokens, last) ← pattern |>.readTokens behind
    return (token :: tokens, last)
partial_fixpoint

namespace Token

theorem yields_next_end (pattern : Text) : Yields (next pattern pattern.byteLength) none := by
  have behind := yields_behind pattern []
  rw [List.append_nil] at behind
  exact behind.bind (yields_pure none)

theorem yields_next (front : Text) (char : Char) (input : Text) :
    let scan := TokenKind.scan char input
    Yields (next (front ++ char :: input) front.byteLength)
      (some (⟨scan.value, scan.text, front.byteLength⟩,
        (front ++ scan.text).byteLength)) := by
  intro scan
  have splits := TokenKind.scan_splits char input
  have text := yields_before scan.text scan.rest
  rw [splits.append] at text
  refine (yields_behind front (char :: input)).bind ?_
  refine (TokenKind.yields_measure char input).bind ?_
  refine text.bind ?_
  rw [Text.byteLength_append]
  exact yields_pure _

/-- By induction on the tokens: each step takes the next one and leaves what follows it. -/
theorem yields_readTokens (front later : Text) :
    Yields (Text.readTokens (front ++ later) front.byteLength)
      (tokenizeFrom front.byteLength later, (front ++ later).byteLength) := by
  generalize first : front.byteLength = offset
  fun_induction tokenizeFrom offset later generalizing front with
  | case1 =>
      subst first
      rw [Text.readTokens, List.append_nil]
      exact (yields_next_end front).bind (yields_pure _)
  | case2 offset char input scan ih =>
      subst first
      have further := ih (front ++ scan.text) (Text.byteLength_append front scan.text)
      rw [List.append_assoc, (TokenKind.scan_splits char input).append] at further
      rw [Text.readTokens]
      refine (yields_next front char input).bind ?_
      dsimp only
      rw [Text.byteLength_append]
      exact further.bind (yields_pure _)

/-- From every position between two characters the next one is further on, or the pattern is
read. -/
theorem next_progresses {pattern : Text} {position : Nat}
    (between : Text.Covers 0 position pattern) :
    position = pattern.byteLength ∧ Yields (next pattern position) none ∨
      ∃ token behind, Yields (next pattern position) (some (token, behind)) ∧
        position < behind ∧ Text.Covers 0 behind pattern := by
  obtain ⟨front, ⟨later, rfl⟩, -, rfl⟩ := between
  cases later with
  | nil =>
      rw [List.append_nil]
      exact .inl ⟨rfl, yields_next_end front⟩
  | cons char input =>
      have splits := TokenKind.scan_splits char input
      have grows := Text.byteLength_pos splits.ne_nil
      refine .inr ⟨_, _, yields_next front char input, ?_, ?_⟩
      · rw [Text.byteLength_append]
        omega
      · refine ⟨_, ⟨(TokenKind.scan char input).rest, ?_⟩, Nat.zero_le _, rfl⟩
        rw [List.append_assoc, splits.append]

theorem le_of_mem_positions {offset : Nat} {input : Text} {position : Nat}
    (member : position ∈
      (tokenizeFrom offset input).map Token.offset ++ [offset + input.byteLength]) :
    offset ≤ position := by
  fun_induction tokenizeFrom offset input with
  | case1 => simp_all
  | case2 offset char input scan ih =>
      have whole := congrArg Text.byteLength (TokenKind.scan_splits char input).append
      rw [Text.byteLength_append] at whole
      rw [← whole, ← Nat.add_assoc, List.map_cons, List.cons_append] at member
      rcases List.mem_cons.mp member with rfl | later
      · exact Nat.le_refl _
      · exact Nat.le_trans (Nat.le_add_right offset _) (ih later)

theorem pairwise_positions (offset : Nat) (input : Text) :
    ((tokenizeFrom offset input).map Token.offset ++
      [offset + input.byteLength]).Pairwise (· < ·) := by
  fun_induction tokenizeFrom offset input with
  | case1 => exact List.pairwise_singleton _ _
  | case2 offset char input scan ih =>
      have splits := TokenKind.scan_splits char input
      have grows := Text.byteLength_pos splits.ne_nil
      have whole := congrArg Text.byteLength splits.append
      rw [Text.byteLength_append] at whole
      rw [← whole, ← Nat.add_assoc, List.map_cons, List.cons_append, List.pairwise_cons]
      refine ⟨?_, ih⟩
      intro position later
      have behind := le_of_mem_positions later
      exact Nat.lt_of_lt_of_le (Nat.lt_add_of_pos_right grows) behind

/-- Whatever the characters of the pattern are, the bytes of a bracket expression, of a group opener
and of a brace quantifier are found by proper cuts, and so is the next token from each position
between two characters. The positions of the tokens grow up to the end of the pattern. -/
theorem cuts_proper :
    (∀ rest, Yields (Text.measureBracket ('[' :: rest)) (Bracket.length? ('[' :: rest)) ∧
      ∀ length, Bracket.length? ('[' :: rest) = some length →
        Text.Covers 3 length ('[' :: rest)) ∧
    (∀ rest, Yields (Opener.measure ('(' :: rest)) (Opener.scan rest).extent ∧
      Text.Covers 1 (Opener.scan rest).extent.2 ('(' :: rest)) ∧
    (∀ input, Yields (Quantifier.measureBrace input)
        ((Quantifier.scanBrace? input).map Scan.extent) ∧
      ∀ quantifier length,
        (Quantifier.scanBrace? input).map Scan.extent = some (quantifier, length) →
          Text.Covers 1 length input) ∧
    (∀ pattern position, Text.Covers 0 position pattern →
      position = pattern.byteLength ∧ Yields (next pattern position) none ∨
        ∃ token behind, Yields (next pattern position) (some (token, behind)) ∧
          position < behind ∧ Text.Covers 0 behind pattern) ∧
    ∀ pattern, Yields (Text.readTokens pattern 0) (tokenize pattern, pattern.byteLength) ∧
      ((tokenize pattern).map Token.offset ++ [pattern.byteLength]).Pairwise (· < ·) := by
  refine ⟨?_, ?_, ?_, ?_, ?_⟩
  · intro rest
    exact ⟨Bracket.yields_measure rest, fun _ => Bracket.covers_of_length?⟩
  · intro rest
    exact ⟨Opener.yields_measure rest, (Opener.scan_splits rest).covers⟩
  · intro input
    refine ⟨Quantifier.yields_measureBrace input, ?_⟩
    intro quantifier length found
    obtain ⟨scan, scanned, extent⟩ := Option.map_eq_some_iff.mp found
    obtain ⟨-, rfl⟩ := Prod.mk.inj extent
    exact (Quantifier.scanBrace?_splits scanned).covers
  · intro pattern position between
    exact next_progresses between
  · intro pattern
    have positions := pairwise_positions 0 pattern
    rw [Nat.zero_add] at positions
    exact ⟨yields_readTokens [] pattern, positions⟩

/-- Characters of two and of three bytes stand inside the constructs and in front of them. -/
theorem cuts_proper_wide :
    Text.Covers 3 13 ('[' :: "]é[ß]\\€]b") ∧ Text.Covers 1 5 "{2 ,}é" ∧
      ∃ token behind, Yields (next "é(" 2) (some (token, behind)) ∧
        2 < behind ∧ Text.Covers 0 behind "é(" := by
  obtain ⟨brackets, -, braces, steps, -⟩ := cuts_proper
  have between : Text.Covers 0 2 "é(" := ⟨"é", ⟨"(", rfl⟩, Nat.zero_le _, rfl⟩
  refine ⟨(brackets "]é[ß]\\€]b").2 13 (by decide), ?_, ?_⟩
  · exact (braces "{2 ,}é").2 (.atLeast 2) 5 (by decide)
  · exact (steps "é(" 2 between).resolve_left fun ended => absurd ended.1 (by decide)

end Token

end RegexProse
