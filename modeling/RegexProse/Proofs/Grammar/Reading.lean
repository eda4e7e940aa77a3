import RegexProse.Proofs.Grammar.Quantity
import RegexProse.Proofs.Token.Slice

/-!
# Reading of syntax trees

The written form of a syntax tree has the tokens of the tree, whatever is written behind it.
-/

set_option autoImplicit false

namespace RegexProse.Grammar

namespace Lexeme

/-- The lexemes as tokens, each at the byte at which the one before it ends. -/
def place (offset : Nat) : List Lexeme → List Token
  | [] => []
  | (kind, text) :: rest => ⟨kind, text, offset⟩ :: place (offset + text.byteLength) rest

@[simp] theorem texts_cons (kind : TokenKind) (text : Text) (rest : List Lexeme) :
    texts ((kind, text) :: rest) = text ++ texts rest := rfl

@[simp] theorem texts_append (left right : List Lexeme) :
    texts (left ++ right) = texts left ++ texts right := by
  simp [texts]

theorem place_append (offset : Nat) (left right : List Lexeme) :
    place offset (left ++ right) =
      place offset left ++ place (offset + (texts left).byteLength) right := by
  induction left generalizing offset with
  | nil => rfl
  | cons lexeme left ih =>
      obtain ⟨kind, text⟩ := lexeme
      simp only [List.cons_append, place, texts_cons, Text.byteLength_append, ih, Nat.add_assoc]

@[simp] theorem texts_place (offset : Nat) (lexemes : List Lexeme) :
    Token.texts (place offset lexemes) = texts lexemes := by
  induction lexemes generalizing offset with
  | nil => rfl
  | cons lexeme lexemes ih =>
      obtain ⟨kind, text⟩ := lexeme
      rw [place, Token.texts_cons, ih, texts_cons]

end Lexeme

/-- The tokenizer takes the lexemes from the front of a text that goes on with the rest. -/
def Lexes (lexemes : List Lexeme) (rest : Text) : Prop :=
  ∀ offset, Token.tokenizeFrom offset (Lexeme.texts lexemes ++ rest) =
    Lexeme.place offset lexemes ++
      Token.tokenizeFrom (offset + (Lexeme.texts lexemes).byteLength) rest

theorem Lexes.nil (rest : Text) : Lexes [] rest := fun _ => rfl

theorem Lexes.append {left right : List Lexeme} {rest : Text}
    (first : Lexes left (Lexeme.texts right ++ rest)) (second : Lexes right rest) :
    Lexes (left ++ right) rest := by
  intro offset
  rw [Lexeme.texts_append, List.append_assoc, first, second, Lexeme.place_append,
    Text.byteLength_append, List.append_assoc, Nat.add_assoc]

private theorem lexes_construct {kind : TokenKind} {text : Text} (construct : kind.Construct text)
    (rest : Text) : Lexes [(kind, text)] rest := by
  intro offset
  cases text with
  | nil => exact absurd rfl construct.ne_nil
  | cons char covered =>
      simp [Token.tokenizeFrom_cons, Lexeme.texts, Lexeme.place,
        TokenKind.scan_of_construct construct]

private theorem lexes_bare {char : Char} {rest : Text}
    (incomplete : ¬ TokenKind.Completes char rest) :
    Lexes [(TokenKind.bare char, [char])] rest := by
  intro offset
  simp [Token.tokenizeFrom_cons, Lexeme.texts, Lexeme.place, TokenKind.scan_of_bare incomplete,
    Scan.one]

private theorem lexes_char {char : Char} {kind : TokenKind} (plain : char ∉ ['\\', '[', '(', '{'])
    (meaning : TokenKind.ofChar char = kind) (rest : Text) : Lexes [(kind, [char])] rest := by
  have bare : TokenKind.bare char = kind := by
    rw [← meaning, TokenKind.bare]
    rintro rfl
    exact plain (by simp)
  rw [← bare]
  exact lexes_bare (TokenKind.not_completes plain rest)

private theorem Quantity.lexes (quantity : Quantity) (rest : Text) :
    Lexes [(.quantifier quantity.meaning, quantity.text)] rest := by
  cases quantity with
  | star => exact lexes_char (by decide) rfl rest
  | plus => exact lexes_char (by decide) rfl rest
  | optional => exact lexes_char (by decide) rfl rest
  | exactly | atLeast | atMost | between =>
      exact lexes_construct (.brace (Quantity.braced rfl)) rest

private theorem Repetition.lexes (repetition : Repetition) (rest : Text) :
    Lexes repetition.lexemes rest := by
  refine .append (repetition.quantity.lexes _) ?_
  cases repetition.lazy with
  | false => exact .nil rest
  | true => exact lexes_char (by decide) rfl rest

private theorem Repetitions.lexes (repetitions : Repetitions) (rest : Text) :
    Lexes repetitions.lexemes rest := by
  unfold Repetitions.lexemes
  induction repetitions.list with
  | nil => exact .nil rest
  | cons repetition later ih => exact (repetition.lexes _).append ih

private theorem Leaf.lexes (leaf : Leaf) (rest : Text) : Lexes [(leaf.kind, leaf.text)] rest := by
  cases leaf with
  | literal char plain =>
      simp only [reserved, List.mem_cons, List.not_mem_nil, or_false, not_or] at plain
      have noConstruct : char ∉ ['\\', '[', '(', '{'] := by simp [plain]
      have meaning : TokenKind.ofChar char = .literal char := by
        simp [TokenKind.ofChar, Quantifier.ofChar?, plain]
      exact lexes_char noConstruct meaning rest
  | escape char => exact lexes_construct (.escape char) rest
  | anyChar => exact lexes_char (by decide) rfl rest
  | startAnchor => exact lexes_char (by decide) rfl rest
  | endAnchor => exact lexes_char (by decide) rfl rest
  | bracket text expression => exact lexes_construct (.bracket expression) rest
  | setFlags flags valid => exact lexes_construct (.opener (.setFlags valid)) rest

private theorem Opening.lexes (opening : Opening) {rest : Text}
    (noQuestion : rest.head? ≠ some '?') :
    Lexes [(.groupOpen opening.kind, opening.text)] rest := by
  cases opening with
  | capturing => exact lexes_bare (TokenKind.not_completes_paren noQuestion)
  | nonCapturing => exact lexes_construct (.opener .nonCapturing) rest
  | underFlags flags valid => exact lexes_construct (.opener (.underFlags valid)) rest
  | positiveLookahead => exact lexes_construct (.opener .positiveLookahead) rest
  | negativeLookahead => exact lexes_construct (.opener .negativeLookahead) rest
  | positiveLookbehind => exact lexes_construct (.opener .positiveLookbehind) rest
  | negativeLookbehind => exact lexes_construct (.opener .negativeLookbehind) rest
  | named name valid => exact lexes_construct (.opener (.named valid)) rest
  | namedWithP name valid => exact lexes_construct (.opener (.namedWithP valid)) rest

theorem Repetition.texts_lexemes (repetition : Repetition) :
    Lexeme.texts repetition.lexemes = repetition.text := by
  unfold lexemes text
  cases repetition.lazy <;> simp [Lexeme.texts]

theorem Repetitions.texts_lexemes (repetitions : Repetitions) :
    Lexeme.texts repetitions.lexemes = repetitions.text := by
  unfold lexemes text
  induction repetitions.list with
  | nil => rfl
  | cons repetition later ih =>
      rw [List.flatMap_cons, List.flatMap_cons, Lexeme.texts_append, ih, repetition.texts_lexemes]

theorem Leaf.exists_text (leaf : Leaf) : ∃ first more, leaf.text = first :: more ∧ first ≠ '?' := by
  cases leaf with
  | literal char plain => exact ⟨char, [], rfl, fun same => plain (by simp [same, reserved])⟩
  | bracket text expression =>
      cases text with
      | nil => simpa using expression.head?_eq
      | cons first more =>
          have opens : first = '[' := by simpa using expression.head?_eq
          exact ⟨first, more, rfl, by simp [opens]⟩
  | escape | anyChar | startAnchor | endAnchor | setFlags => exact ⟨_, _, rfl, by decide⟩

theorem Opening.exists_text (opening : Opening) : ∃ more, opening.text = '(' :: more := by
  cases opening <;> exact ⟨_, rfl⟩

namespace Sequence

theorem texts_lexemes (sequence : Sequence) : Lexeme.texts sequence.lexemes = sequence.text := by
  induction sequence with
  | empty => rfl
  | leaf atom repetitions rest ih =>
      simp [lexemes, text, ih, repetitions.texts_lexemes]
  | group opening content repetitions rest inside behind =>
      simp [lexemes, text, inside, behind, repetitions.texts_lexemes]

private theorem head?_text_append (sequence : Sequence) (rest : Text) :
    (sequence.text ++ ')' :: rest).head? ≠ some '?' := by
  cases sequence with
  | empty => simp [text]
  | leaf atom repetitions later =>
      obtain ⟨first, more, written, noQuestion⟩ := atom.exists_text
      simp [text, written, noQuestion]
  | group opening content repetitions later =>
      obtain ⟨more, written⟩ := opening.exists_text
      simp [text, written]

/-- A sequence has the same lexemes whatever follows it. -/
theorem lexes (sequence : Sequence) (rest : Text) : Lexes sequence.lexemes rest := by
  induction sequence generalizing rest with
  | empty => exact .nil rest
  | leaf atom repetitions later ih =>
      exact .append (atom.lexes _) (.append (repetitions.lexes _) (ih rest))
  | group opening content repetitions later inside behind =>
      have closes : ∀ text, Lexes [(.groupClose, [')'])] text := lexes_char (by decide) rfl
      have noQuestion : (Lexeme.texts (content.lexemes ++
          (TokenKind.groupClose, [')']) :: (repetitions.lexemes ++ later.lexemes)) ++
          rest).head? ≠ some '?' := by
        rw [Lexeme.texts_append, texts_lexemes, List.append_assoc]
        exact content.head?_text_append _
      have behindContent := (closes _).append ((repetitions.lexes _).append (behind rest))
      exact .append (opening.lexes noQuestion) ((inside _).append behindContent)

theorem tokenize_text (sequence : Sequence) :
    Token.tokenize sequence.text = Lexeme.place 0 sequence.lexemes := by
  have read := sequence.lexes [] 0
  rw [texts_lexemes, List.append_nil, Token.tokenizeFrom, List.append_nil] at read
  exact read

end Sequence

end RegexProse.Grammar
