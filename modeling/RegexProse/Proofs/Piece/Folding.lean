import RegexProse.Proofs.Piece.Binding

/-!
# Folding of quantifiers

The quantifiers on an atom or a group are all that follow it in a row, up to the first token that is
none. Each adds its phrase to the description, but for a question mark behind a quantifier: it makes
that one lazy, unless it stands behind such a mark itself.
-/

set_option autoImplicit false

namespace RegexProse

namespace QuantifierRun

/-- Whether the token at the index of a run makes the one before it lazy. -/
def isMark (run : List Token) : Nat → Bool
  | 0 => false
  | index + 1 => run[index + 1]?.any Token.isLazyMarker && !isMark run index

/-- What the token at the index of a run adds to a description. -/
def part (run : List Token) (index : Nat) (token : Token) : Text :=
  if isMark run index then " (lazy)"
  else
    match token.quantifier? with
    | some quantifier => ' ' :: quantifier.phrase
    | none => []

/-- Whether a question mark at the index would make the token before it lazy. -/
def isAwaited (run : List Token) (index : Nat) : Bool := 0 < index && !isMark run (index - 1)

theorem isMark_eq {run : List Token} {index : Nat} {token : Token}
    (found : run[index]? = some token) :
    isMark run index = (isAwaited run index && token.isLazyMarker) := by
  cases index with
  | zero => simp [isMark, isAwaited]
  | succ index => simp [isMark, isAwaited, found, Bool.and_comm]

theorem wordsAfter_eq (front : List Token) {rest : List Token}
    (quantifiers : ∀ token ∈ rest, token.isQuantifier) :
    wordsAfter (isAwaited (front ++ rest) front.length) rest =
      (rest.mapIdx fun index => part (front ++ rest) (front.length + index)).flatten := by
  induction rest generalizing front with
  | nil => rfl
  | cons token rest ih =>
      obtain ⟨head, tail⟩ := List.forall_mem_cons.mp quantifiers
      obtain ⟨quantifier, kind⟩ := Token.isQuantifier_iff.mp head
      have found : (front ++ token :: rest)[front.length]? = some token := by simp
      have later := ih (front ++ [token]) tail
      have awaited (run : List Token) :
          isAwaited run (front.length + 1) = !isMark run front.length := by simp [isAwaited]
      simp only [List.append_assoc, List.singleton_append, List.length_append,
        List.length_singleton, awaited] at later
      have shifted (run : List Token) :
          (fun index => part run (front.length + (index + 1))) =
            fun index => part run (front.length + 1 + index) := by
        funext index
        rw [Nat.add_assoc, Nat.add_comm 1]
      simp only [List.mapIdx_cons, List.flatten_cons, Nat.add_zero]
      rw [shifted, ← later, wordsAfter, part, isMark_eq found, Token.quantifier?_of_kind kind]
      by_cases mark : isAwaited (front ++ token :: rest) front.length && token.isLazyMarker
      · simp [mark]
      · simp [mark]

/-- A run of quantifiers adds what each of its tokens adds. -/
theorem words_eq {run : List Token} (quantifiers : ∀ token ∈ run, token.isQuantifier) :
    words run = (run.mapIdx (part run)).flatten := by
  have whole := wordsAfter_eq [] quantifiers
  simp only [List.nil_append, List.length_nil, Nat.zero_add] at whole
  exact whole

end QuantifierRun

namespace Piece

/-- The tokens of the atom or group, without the quantifiers on it. -/
def atom : Piece → List Token
  | .single token _ => [token]
  | .group opener _ content closer _ => opener :: (tokensOf content ++ closer.toList)

def run : Piece → List Token
  | .single _ run => run
  | .group _ _ _ _ run => run

/-- The words for the atom or group alone. -/
def words : Piece → Text
  | .single token _ => (Description.ofToken token).words
  | .group _ kind content _ _ => Description.groupWords kind (Token.texts (tokensOf content))

theorem tokens_eq (piece : Piece) : piece.tokens = piece.atom ++ piece.run := by
  cases piece with
  | single token run => rfl
  | group opener kind content closer run => simp [tokens, atom, Piece.run]

theorem description_component (piece : Piece) :
    (component piece).description = piece.words ++ QuantifierRun.words piece.run := by
  cases piece with
  | single token run => rfl
  | group opener kind content closer run => rfl

/-- Behind an atom or a group in a row, its quantifiers come first, and then the rest of the row. -/
private theorem exists_behind {tokens : List Token} {before after : List Piece} {piece : Piece}
    (row : ofTokens tokens = before ++ piece :: after) (repeatable : ¬ piece.isQuantifier) :
    ∃ rest, piece.run = QuantifierRun.take rest ∧ tokensOf after = QuantifierRun.drop rest := by
  fun_induction ofTokens tokens generalizing before with
  | case1 => cases before <;> cases row
  | case2 token rest kind opens body inside =>
      rename_i outside
      cases before with
      | nil =>
          obtain ⟨rfl, rfl⟩ := List.cons.inj row
          exact ⟨body.after, rfl, tokensOf_ofTokens _⟩
      | cons first before => exact outside (List.cons.inj row).2
  | case3 token rest quantifier repeats ih =>
      cases before with
      | nil =>
          obtain ⟨rfl, rfl⟩ := List.cons.inj row
          exact absurd (Token.isQuantifier_iff.mpr ⟨quantifier, repeats⟩) repeatable
      | cons first before => exact ih (List.cons.inj row).2
  | case4 token rest notOpen notQuantifier ih =>
      cases before with
      | nil =>
          obtain ⟨rfl, rfl⟩ := List.cons.inj row
          exact ⟨rest, rfl, tokensOf_ofTokens _⟩
      | cons first before => exact ih (List.cons.inj row).2

/-- The quantifiers on an atom or a group are exactly those that follow it in a row, and the
description tells them one by one. No quantifier stands behind the piece. -/
theorem run_folded {tokens : List Token} {before after : List Piece} {piece : Piece}
    (row : ofTokens tokens = before ++ piece :: after) (repeatable : ¬ piece.isQuantifier) :
    let stop := (tokensOf before ++ piece.atom).length
    (components (ofTokens tokens))[before.length]? = some (component piece) ∧
      tokens.take stop = tokensOf before ++ piece.atom ∧
      tokens.drop stop = piece.run ++ tokensOf after ∧
      (∀ token ∈ piece.run, token.isQuantifier) ∧
      (∀ next ∈ (tokensOf after).head?, ¬ next.isQuantifier) ∧
      (component piece).raw = Token.texts (piece.atom ++ piece.run) ∧
      (component piece).description =
        piece.words ++ (piece.run.mapIdx (QuantifierRun.part piece.run)).flatten := by
  intro stop
  have whole : tokens = (tokensOf before ++ piece.atom) ++ (piece.run ++ tokensOf after) := by
    have covers := tokensOf_ofTokens tokens
    rw [row, tokensOf_append, tokensOf, tokens_eq] at covers
    simpa using covers.symm
  obtain ⟨rest, taken, dropped⟩ := exists_behind row repeatable
  have quantifiers : ∀ token ∈ piece.run, token.isQuantifier := by
    rw [taken]
    exact fun token => QuantifierRun.isQuantifier_of_mem_take
  refine ⟨?_, ?_, ?_, quantifiers, ?_, ?_, ?_⟩
  · rw [row, components_eq_map]
    simp
  · rw [whole, List.take_left' rfl]
  · rw [whole, List.drop_left' rfl]
  · rw [dropped]
    exact head?_drop_not_quantifier rest
  · rw [raw_component, text, tokens_eq]
  · rw [description_component, QuantifierRun.words_eq quantifiers]

/-- A question mark behind a lazy quantifier is a quantifier again. -/
theorem run_folded_lazy :
    let letter : Token := ⟨.literal 'a', "a", 0⟩
    let run : List Token :=
      [⟨.quantifier .oneOrMore, "+", 1⟩, ⟨.quantifier .zeroOrOne, "?", 2⟩,
        ⟨.quantifier .zeroOrOne, "?", 3⟩, ⟨.quantifier (.exactly 2), "{2}", 4⟩,
        ⟨.quantifier .zeroOrOne, "?", 7⟩]
    let piece := single letter run
    ofTokens (letter :: run) = [] ++ piece :: [] ∧ ¬ piece.isQuantifier ∧
      (component piece).description =
        "\"a\" one or more times (lazy) zero or one time exactly 2 times (lazy)" := by
  intro letter run piece
  have row : ofTokens (letter :: run) = [] ++ piece :: [] := by
    rw [ofTokens_single (fun _ => TokenKind.noConfusion) (fun _ => TokenKind.noConfusion)]
    have nothing : QuantifierRun.drop run = [] := rfl
    rw [nothing, ofTokens]
    rfl
  have repeatable : ¬ piece.isQuantifier := by decide
  obtain ⟨-, -, -, -, -, -, description⟩ := run_folded row repeatable
  refine ⟨row, repeatable, description.trans ?_⟩
  decide +kernel

end Piece

end RegexProse
