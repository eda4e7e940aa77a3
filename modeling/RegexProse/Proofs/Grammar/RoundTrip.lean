import RegexProse.Proofs.Grammar.Reading
import RegexProse.Proofs.Piece.Nodes

/-!
# Explanations of syntax trees

The explanation of the written form of a syntax tree is the one that the tree gives itself. The
resolver finds the groups of the tree, and each quantifier joins the atom that it belongs to.
-/

set_option autoImplicit false

namespace RegexProse.Grammar

section Runs

open QuantifierRun

private theorem Quantity.eq_optional {quantity : Quantity}
    (meaning : quantity.meaning = .zeroOrOne) :
    quantity = .optional := by
  cases quantity with
  | optional => rfl
  | star | plus | exactly | atLeast | atMost | between => cases meaning

/-- A quantifier that cannot be mistaken for a lazy marker adds its own words to a run. -/
private theorem Repetition.wordsAfter_append (repetition : Repetition) {greedyBefore : Bool}
    (separate : greedyBefore = true → repetition.quantity ≠ .optional) (offset : Nat)
    (run : List Token) :
    wordsAfter greedyBefore (Lexeme.place offset repetition.lexemes ++ run) =
      repetition.words ++ wordsAfter (!repetition.lazy) run := by
  obtain ⟨quantity, lazy⟩ := repetition
  have notMarker : (greedyBefore &&
      Token.isLazyMarker ⟨.quantifier quantity.meaning, quantity.text, offset⟩) = false := by
    cases greedyBefore with
    | false => rfl
    | true =>
        have notOptional : TokenKind.quantifier quantity.meaning ≠ .quantifier .zeroOrOne :=
          fun same => separate rfl (Quantity.eq_optional (TokenKind.quantifier.inj same))
        simp [Token.isLazyMarker, notOptional]
  cases lazy with
  | false => simp [lexemes, words, Lexeme.place, wordsAfter, notMarker, Token.quantifier?]
  | true =>
      have marker (later : Nat) :
          Token.isLazyMarker ⟨.quantifier .zeroOrOne, ['?'], later⟩ = true := rfl
      simp [lexemes, words, Lexeme.place, wordsAfter, notMarker, marker, Token.quantifier?]

private theorem wordsAfter_place {repetitions : List Repetition}
    (separate : repetitions.IsChain Repetition.Separate) {greedyBefore : Bool}
    (first : greedyBefore = true → ∀ repetition ∈ repetitions.head?,
      repetition.quantity ≠ .optional) (offset : Nat) :
    wordsAfter greedyBefore (Lexeme.place offset (repetitions.flatMap Repetition.lexemes)) =
      repetitions.flatMap Repetition.words := by
  induction repetitions generalizing greedyBefore offset with
  | nil => rfl
  | cons repetition later ih =>
      have nextSeparate : (!repetition.lazy) = true → ∀ next ∈ later.head?,
          next.quantity ≠ .optional := by
        intro greedy next member optional
        cases later with
        | nil => cases member
        | cons next later =>
            obtain rfl := Option.some.inj member
            simp [separate.rel optional] at greedy
      rw [List.flatMap_cons, List.flatMap_cons, Lexeme.place_append,
        repetition.wordsAfter_append (fun greedy => first greedy _ rfl),
        ih separate.of_cons nextSeparate]

private theorem Repetitions.words_place (repetitions : Repetitions) (offset : Nat) :
    QuantifierRun.words (Lexeme.place offset repetitions.lexemes) = repetitions.words :=
  wordsAfter_place repetitions.separate (fun greedy => by cases greedy) offset

private theorem Lexeme.mem_of_mem_place {offset : Nat} {lexemes : List Lexeme} {token : Token}
    (member : token ∈ place offset lexemes) : (token.kind, token.text) ∈ lexemes := by
  induction lexemes generalizing offset with
  | nil => cases member
  | cons lexeme lexemes ih =>
      obtain ⟨kind, text⟩ := lexeme
      rcases List.mem_cons.mp member with rfl | member
      · exact List.mem_cons_self
      · exact List.mem_cons_of_mem _ (ih member)

private theorem Repetitions.exists_quantifier (repetitions : Repetitions) (offset : Nat) :
    ∀ token ∈ Lexeme.place offset repetitions.lexemes,
      ∃ quantifier, token.kind = .quantifier quantifier := by
  intro token member
  obtain ⟨⟨quantity, lazy⟩, -, among⟩ := List.mem_flatMap.mp (Lexeme.mem_of_mem_place member)
  rcases List.mem_cons.mp among with same | among
  · exact ⟨_, congrArg Prod.fst same⟩
  · cases lazy with
    | false => cases among
    | true => exact ⟨_, congrArg Prod.fst (List.mem_singleton.mp among)⟩

private theorem Repetitions.isQuantifier_of_mem (repetitions : Repetitions) (offset : Nat) :
    ∀ token ∈ Lexeme.place offset repetitions.lexemes, token.isQuantifier := by
  intro token member
  obtain ⟨quantifier, kind⟩ := repetitions.exists_quantifier offset token member
  simp [Token.isQuantifier, Token.quantifier?, kind]

end Runs

private theorem Leaf.kind_ne_quantifier (leaf : Leaf) (quantifier : Quantifier) :
    leaf.kind ≠ .quantifier quantifier := by
  cases leaf <;> exact TokenKind.noConfusion

private theorem Leaf.kind_ne_groupOpen (leaf : Leaf) (kind : GroupKind) :
    leaf.kind ≠ .groupOpen kind := by
  cases leaf <;> exact TokenKind.noConfusion

private theorem Leaf.kind_ne_groupClose (leaf : Leaf) : leaf.kind ≠ .groupClose := by
  cases leaf <;> exact TokenKind.noConfusion

private theorem flagsWords_setFlags (flags : Text) :
    Description.flagsWords ('(' :: '?' :: (flags ++ [')'])) =
      ("(set flags: " : Text) ++ flags ++ [')'] := by
  have within : Text.enclosed? "(?" ')' ('(' :: '?' :: (flags ++ [')'])) = some flags :=
    Text.enclosed?_eq_some_iff.mpr rfl
  unfold Description.flagsWords
  rw [within, Option.getD_some]

private theorem Leaf.ofToken_eq (leaf : Leaf) (offset : Nat) :
    Description.ofToken ⟨leaf.kind, leaf.text, offset⟩ = leaf.description := by
  cases leaf with
  | literal | escape | anyChar | startAnchor | endAnchor | bracket => rfl
  | setFlags flags valid =>
      exact congrArg (Description.mk .group) (flagsWords_setFlags flags)

section Groups

open GroupBody QuantifierRun

private theorem balanced_run {run : List Token}
    (repeats : ∀ token ∈ run, ∃ quantifier, token.kind = .quantifier quantifier) :
    Balanced run := by
  induction run with
  | nil => exact .nil
  | cons token run ih =>
      obtain ⟨quantifier, kind⟩ := repeats token List.mem_cons_self
      have behind := ih fun token member => repeats token (List.mem_cons_of_mem _ member)
      exact .cons (by simp [kind]) (by simp [kind]) behind

private theorem Repetitions.balanced_place (repetitions : Repetitions) (offset : Nat) :
    Balanced (Lexeme.place offset repetitions.lexemes) :=
  balanced_run (repetitions.exists_quantifier offset)

namespace Sequence

theorem balanced_place (sequence : Sequence) (offset : Nat) :
    Balanced (Lexeme.place offset sequence.lexemes) := by
  induction sequence generalizing offset with
  | empty => exact .nil
  | leaf atom repetitions later ih =>
      rw [lexemes, Lexeme.place, Lexeme.place_append]
      exact .cons atom.kind_ne_groupOpen atom.kind_ne_groupClose
        (.append (repetitions.balanced_place _) (ih _))
  | group opening content repetitions later inside behind =>
      rw [lexemes, Lexeme.place, Lexeme.place_append, Lexeme.place, Lexeme.place_append]
      exact .group rfl (inside _) rfl (.append (repetitions.balanced_place _) (behind _))

/-- A sequence does not begin with a quantifier. -/
private theorem take_drop_place (sequence : Sequence) (offset : Nat) :
    take (Lexeme.place offset sequence.lexemes) = [] ∧
      drop (Lexeme.place offset sequence.lexemes) = Lexeme.place offset sequence.lexemes := by
  cases sequence with
  | empty => exact ⟨rfl, rfl⟩
  | leaf atom repetitions later =>
      have notQuantifier : Token.isQuantifier ⟨atom.kind, atom.text, offset⟩ = false := by
        cases atom <;> rfl
      simp [take, drop, lexemes, Lexeme.place, notQuantifier]
  | group opening content repetitions later => exact ⟨rfl, rfl⟩

private theorem take_append (repetitions : Repetitions) (sequence : Sequence)
    (offset behind : Nat) :
    take (Lexeme.place offset repetitions.lexemes ++ Lexeme.place behind sequence.lexemes) =
      Lexeme.place offset repetitions.lexemes := by
  rw [take, List.takeWhile_append_of_pos (repetitions.isQuantifier_of_mem offset), ← take,
    (sequence.take_drop_place behind).1, List.append_nil]

private theorem drop_append (repetitions : Repetitions) (sequence : Sequence)
    (offset behind : Nat) :
    drop (Lexeme.place offset repetitions.lexemes ++ Lexeme.place behind sequence.lexemes) =
      Lexeme.place behind sequence.lexemes := by
  rw [drop, List.dropWhile_append_of_pos (repetitions.isQuantifier_of_mem offset), ← drop,
    (sequence.take_drop_place behind).2]

theorem components_place (sequence : Sequence) (offset : Nat) :
    Piece.components (Piece.ofTokens (Lexeme.place offset sequence.lexemes)) =
      sequence.components := by
  induction sequence generalizing offset with
  | empty => simp [lexemes, Lexeme.place, Piece.ofTokens, Piece.components, components]
  | leaf atom repetitions later ih =>
      rw [lexemes, Lexeme.place, Lexeme.place_append,
        Piece.ofTokens_single atom.kind_ne_groupOpen atom.kind_ne_quantifier, take_append,
        drop_append, Piece.components, ih, components]
      simp only [Piece.component, Piece.text_single, Lexeme.texts_place, atom.ofToken_eq,
        repetitions.texts_lexemes, repetitions.words_place]
  | group opening content repetitions later inside behind =>
      rw [lexemes, Lexeme.place, Lexeme.place_append, Lexeme.place, Lexeme.place_append,
        Piece.ofTokens_open rfl, (content.balanced_place _).split_eq rfl, take_append,
        drop_append, Piece.components, behind, components]
      simp only [Piece.component, Piece.text_group, Piece.tokensOf_ofTokens, Lexeme.texts_place,
        content.texts_lexemes, repetitions.texts_lexemes, repetitions.words_place, inside]
      simp [Description.groupWords]

/-- Every tree is read back from its written form: the tokens are those of the tree, and the
explanation has one component for each atom and each group, with all of its quantifiers. -/
theorem explanation_text (sequence : Sequence) :
    Token.tokenize sequence.text = Lexeme.place 0 sequence.lexemes ∧
      Explanation.ofPattern sequence.text =
        ⟨sequence.components, Explanation.sentence sequence.components⟩ := by
  have read := sequence.tokenize_text
  refine ⟨read, ?_⟩
  rw [Explanation.ofPattern, read, sequence.components_place]

end Sequence

end Groups

end RegexProse.Grammar
