import RegexProse.Proofs.Piece.Nodes
import RegexProse.Proofs.Token.Slice

/-!
# Explanations at another place

What tokens mean does not depend on where in the pattern they stand.
-/

set_option autoImplicit false

namespace RegexProse

variable (distance : Nat)

@[simp] theorem Token.kind_shift (token : Token) : (token.shift distance).kind = token.kind := rfl

@[simp] theorem Token.text_shift (token : Token) : (token.shift distance).text = token.text := rfl

@[simp] theorem Token.texts_map_shift (tokens : List Token) :
    texts (tokens.map (shift distance)) = texts tokens := by
  rw [texts, List.flatMap_map]
  rfl

namespace QuantifierRun

@[simp] theorem take_map_shift (tokens : List Token) :
    take (tokens.map (Token.shift distance)) = (take tokens).map (Token.shift distance) := by
  rw [take, List.takeWhile_map]
  rfl

@[simp] theorem drop_map_shift (tokens : List Token) :
    drop (tokens.map (Token.shift distance)) = (drop tokens).map (Token.shift distance) := by
  rw [drop, List.dropWhile_map]
  rfl

theorem wordsAfter_map_shift (greedyBefore : Bool) (run : List Token) :
    wordsAfter greedyBefore (run.map (Token.shift distance)) = wordsAfter greedyBefore run := by
  induction run generalizing greedyBefore with
  | nil => rfl
  | cons token rest ih =>
      simp only [List.map_cons, wordsAfter, ih]
      rfl

@[simp] theorem words_map_shift (run : List Token) :
    words (run.map (Token.shift distance)) = words run :=
  wordsAfter_map_shift distance false run

end QuantifierRun

namespace GroupBody

def shift (body : GroupBody) : GroupBody :=
  ⟨body.inner.map (Token.shift distance), body.closer.map (Token.shift distance),
    body.after.map (Token.shift distance)⟩

theorem split_map_shift (depth : Nat) (tokens : List Token) :
    split depth (tokens.map (Token.shift distance)) = (split depth tokens).shift distance := by
  fun_induction split depth tokens with
  | case1 => rfl
  | case2 depth token rest kind opens ih =>
      have later : (token.shift distance).kind = .groupOpen kind := opens
      rw [List.map_cons, split_open later, ih]
      rfl
  | case3 token rest closes =>
      have later : (token.shift distance).kind = .groupClose := closes
      rw [List.map_cons, split_close later]
      rfl
  | case4 token rest closes depth ih =>
      have later : (token.shift distance).kind = .groupClose := closes
      rw [List.map_cons, split_close_succ later, ih]
      rfl
  | case5 depth token rest notOpen notClose ih =>
      have laterOpen : ∀ kind, (token.shift distance).kind ≠ .groupOpen kind := notOpen
      have laterClose : (token.shift distance).kind ≠ .groupClose := notClose
      rw [List.map_cons, split_other laterOpen laterClose, ih]
      rfl

end GroupBody

namespace Piece

/-- Tokens have the same explanation at every place. -/
theorem components_map_shift (tokens : List Token) :
    components (ofTokens (tokens.map (Token.shift distance))) = components (ofTokens tokens) := by
  fun_induction ofTokens tokens with
  | case1 => rw [List.map_nil, ofTokens]
  | case2 token rest kind opens body inside outside =>
      have later : (token.shift distance).kind = .groupOpen kind := opens
      rw [List.map_cons, ofTokens_open later, GroupBody.split_map_shift]
      have closer : Token.texts (body.closer.map (Token.shift distance)).toList =
          Token.texts body.closer.toList := by
        rw [Option.toList_map, Token.texts_map_shift]
      simp only [GroupBody.shift, QuantifierRun.take_map_shift, QuantifierRun.drop_map_shift,
        components, component, text_group, tokensOf_ofTokens, Token.texts_map_shift,
        Token.text_shift, QuantifierRun.words_map_shift, Option.isNone_map, body]
        at closer inside outside ⊢
      rw [closer, inside, outside]
  | case3 token rest quantifier repeats ih =>
      have later : (token.shift distance).kind = .quantifier quantifier := repeats
      rw [List.map_cons, ofTokens_quantifier later]
      simp only [components, ih]
      rfl
  | case4 token rest notOpen notQuantifier ih =>
      have laterOpen : ∀ kind, (token.shift distance).kind ≠ .groupOpen kind := notOpen
      have laterQuantifier : ∀ quantifier, (token.shift distance).kind ≠ .quantifier quantifier :=
        notQuantifier
      rw [List.map_cons, ofTokens_single laterOpen laterQuantifier]
      simp only [components, component, text_single, QuantifierRun.take_map_shift,
        QuantifierRun.drop_map_shift, Token.text_shift, Token.texts_map_shift,
        QuantifierRun.words_map_shift, ih]
      rfl

end Piece

end RegexProse
