import RegexProse.Description
import RegexProse.Proofs.Group.OpenerKinds
import RegexProse.Proofs.Token.Slice
import RegexProse.Quantifier.Run

/-!
# Kinds and characters of tokens

What the kind of a token says about its characters, and what a character alone says about those
behind it: one that might begin more stands alone only where nothing behind it makes it more. So a
description finds the marks that it takes away from a token.
-/

set_option autoImplicit false

namespace RegexProse

namespace TokenKind

/-- The characters of a token of each kind. Those behind the token matter to a literal that might
have begun more. -/
def Agrees (text behind : Text) : TokenKind → Prop
  | .escape char => text = ['\\', char]
  | .bracket =>
      3 ≤ text.length ∧ ∃ caret body : Text, text = '[' :: (caret ++ body ++ [']']) ∧
        (caret = ['^'] ∨ caret = [] ∧ body.head? ≠ some '^') ∧ body ≠ []
  | .groupOpen kind => Opener.Spelling (.group kind) text ∨ kind = .capturing ∧ text = ['(']
  | .groupClose => text = [')']
  | .setFlags => Opener.Spelling .setFlags text
  | .quantifier operator =>
      ((∃ char, text = [char] ∧ Quantifier.ofChar? char = some operator) ∨
          (Quantifier.scanBrace? text).map Scan.extent = some (operator, text.byteLength)) ∧
        (operator = .zeroOrOne ↔ text = ['?'])
  | .anyChar => text = ['.']
  | .startAnchor => text = ['^']
  | .endAnchor => text = ['$']
  | .literal char =>
      text = [char] ∧ char ∉ ['(', ')', '.', '^', '$', '*', '+', '?'] ∧
        (char = '\\' → behind = []) ∧
        (char = '[' → ∀ whole, Bracket.Expression whole → ¬ whole <+: char :: behind) ∧
        (char = '{' → ∀ quantifier body, Quantifier.Bounds quantifier body →
          ¬ '{' :: (body ++ ['}']) <+: char :: behind)

private theorem agrees_bracket {text : Text} (expression : Bracket.Expression text)
    (behind : Text) :
    Agrees text behind .bracket := by
  cases expression with
  | @intro caret leading inner carets leadings members =>
      have inhabited : leading ++ inner ≠ [] := by
        rcases leadings with rfl | ⟨rfl, inhabited⟩
        · exact List.cons_ne_nil _ _
        · exact inhabited
      have positive := List.length_pos_iff.mpr inhabited
      refine ⟨?_, caret, leading ++ inner, by simp, carets, inhabited⟩
      simp only [List.length_append, List.length_cons, List.length_nil] at positive ⊢
      omega

private theorem agrees_brace {quantifier : Quantifier} {text : Text}
    (braced : quantifier.Braced text)
    (behind : Text) : Agrees text behind (.quantifier quantifier) := by
  have extent := (Quantifier.reads_scanBrace?.extent_eq_some_iff quantifier text.byteLength).mpr
    ⟨text, braced, List.prefix_refl text, rfl⟩
  obtain ⟨body, bounds, rfl⟩ := Quantifier.braced_iff.mp braced
  refine ⟨.inr extent, ?_⟩
  cases bounds <;> simp

theorem Construct.agrees {kind : TokenKind} {text : Text} (construct : Construct kind text)
    (behind : Text) : kind.Agrees text behind := by
  cases construct with
  | escape char => rfl
  | bracket expression => exact agrees_bracket expression behind
  | @opener opener text special =>
      have spelling := Opener.spelling_iff_special.mpr special
      cases opener with
      | group kind => exact .inl spelling
      | setFlags => exact spelling
  | brace braced => exact agrees_brace braced behind

private theorem ofChar?_zeroOrOne {char : Char} {operator : Quantifier}
    (denotes : Quantifier.ofChar? char = some operator) :
    operator = .zeroOrOne ↔ [char] = ['?'] := by
  unfold Quantifier.ofChar? at denotes
  split at denotes <;> cases denotes <;> decide

private theorem not_mem_of_ofChar? {char : Char} (literal : Quantifier.ofChar? char = none) :
    char ∉ ['*', '+', '?'] := by
  intro member
  simp only [List.mem_cons, List.not_mem_nil, or_false] at member
  rcases member with rfl | rfl | rfl <;> cases literal

private theorem agrees_literal {char : Char} {behind : Text} (incomplete : ¬ Completes char behind)
    (plain : char ∉ ['(', ')', '.', '^', '$', '*', '+', '?']) :
    (TokenKind.literal char).Agrees [char] behind := by
  refine ⟨rfl, plain, ?_, ?_, ?_⟩
  · rintro rfl
    cases behind with
    | nil => rfl
    | cons escaped rest => exact absurd ((Construct.escape escaped).completes rfl) incomplete
  · rintro rfl whole expression ⟨rest, covers⟩
    exact incomplete ((Construct.bracket expression).completes covers)
  · rintro rfl operator body bounds ⟨rest, covers⟩
    have braced := Quantifier.braced_iff.mpr ⟨body, bounds, rfl⟩
    exact incomplete ((Construct.brace braced).completes covers)

private theorem agrees_bare {char : Char} {behind : Text} (incomplete : ¬ Completes char behind) :
    (bare char).Agrees [char] behind := by
  unfold bare ofChar
  split
  case h_1 => exact .inr ⟨rfl, rfl⟩
  case h_2 notOpen =>
    split
    case h_1 | h_2 | h_3 | h_4 => rfl
    case h_5 notClose notAny notStart notEnd =>
      cases denotes : Quantifier.ofChar? char with
      | some operator => exact ⟨.inl ⟨char, rfl, denotes⟩, ofChar?_zeroOrOne denotes⟩
      | none =>
          refine agrees_literal incomplete ?_
          have noOperator := not_mem_of_ofChar? denotes
          simp_all

/-- What is read at the front of a text agrees with what the reading leaves. -/
theorem scan_agrees (char : Char) (input : Text) :
    (scan char input).value.Agrees (scan char input).text (scan char input).rest := by
  by_cases complete : Completes char input
  · obtain ⟨kind, covered, rest, construct, rfl⟩ := complete
    rw [scan_of_construct construct]
    exact construct.agrees rest
  · rw [scan_of_bare complete]
    exact agrees_bare complete

private theorem Agrees.enclosed?_bracket {text behind : Text}
    (agrees : Agrees text behind .bracket) :
    ∃ body, Text.enclosed? ['['] ']' text = some body := by
  obtain ⟨-, caret, body, rfl, -, -⟩ := agrees
  exact ⟨_, Text.enclosed?_eq_some_iff.mpr rfl⟩

private theorem Agrees.enclosed?_setFlags {text behind : Text}
    (agrees : Agrees text behind .setFlags) :
    ∃ flags, Text.enclosed? "(?" ')' text = some flags := by
  obtain ⟨flags, -, rfl⟩ := agrees
  exact ⟨_, Text.enclosed?_eq_some_iff.mpr rfl⟩

end TokenKind

namespace Token

theorem agrees_of_tokenizeFrom {offset : Nat} {input : Text} {before after : List Token}
    {token : Token} (whole : tokenizeFrom offset input = before ++ token :: after) :
    token.kind.Agrees token.text (texts after) := by
  have behind := tokenizeFrom_behind whole
  cases remaining : texts (token :: after) with
  | nil =>
      rw [remaining, tokenizeFrom] at behind
      cases behind
  | cons char input =>
      rw [remaining, tokenizeFrom_cons] at behind
      obtain ⟨rfl, rfl⟩ := List.cons.inj behind
      rw [texts_tokenizeFrom]
      exact TokenKind.scan_agrees char input

theorem agrees_of_mem_tokenize {pattern : Text} {token : Token} (member : token ∈ tokenize pattern) :
    ∃ behind, token.kind.Agrees token.text behind := by
  obtain ⟨before, after, whole⟩ := List.append_of_mem member
  exact ⟨texts after, agrees_of_tokenizeFrom whole⟩

private theorem isLazyMarker_of_agrees {token : Token} {behind : Text}
    (agrees : token.kind.Agrees token.text behind) :
    token.isLazyMarker = decide (token.kind = .quantifier .zeroOrOne) := by
  by_cases kind : token.kind = .quantifier .zeroOrOne
  · rw [kind] at agrees
    have question : token.text = ['?'] := agrees.2.mp rfl
    simp [isLazyMarker, kind, question]
  · simp [isLazyMarker, kind]

/-- The kind of a token agrees with its characters and those behind it. A description never meets a
bracket expression or a flag setting without the marks around it, and a quantifier for none or one is
always the question mark that may make another one lazy. -/
theorem kind_agrees {pattern : Text} {before after : List Token} {token : Token}
    (whole : tokenize pattern = before ++ token :: after) :
    pattern = texts before ++ token.text ++ texts after ∧
      token.kind.Agrees token.text (texts after) ∧
      (token.kind = .bracket → ∃ body, Text.enclosed? ['['] ']' token.text = some body) ∧
      (token.kind = .setFlags → ∃ flags, Text.enclosed? "(?" ')' token.text = some flags) ∧
      token.isLazyMarker = decide (token.kind = .quantifier .zeroOrOne) := by
  have agrees := agrees_of_tokenizeFrom whole
  refine ⟨?_, agrees, ?_, ?_, isLazyMarker_of_agrees agrees⟩
  · have covers := texts_tokenizeFrom 0 pattern
    rw [← tokenize, whole] at covers
    simpa using covers.symm
  · intro kind
    rw [kind] at agrees
    exact agrees.enclosed?_bracket
  · intro kind
    rw [kind] at agrees
    exact agrees.enclosed?_setFlags

/-- A brace begins no quantifier where another brace stands before the one that closes. -/
theorem kind_agrees_open_brace :
    let token : Token := ⟨.literal '{', ['{'], 1⟩
    let after : List Token :=
      [⟨.literal '1', "1", 2⟩, ⟨.literal ',', ",", 3⟩, ⟨.quantifier (.exactly 2), "{2}", 4⟩]
    tokenize "a\x7b1,\x7b2\x7d" = [⟨.literal 'a', "a", 0⟩] ++ token :: after ∧
      token.kind.Agrees token.text (texts after) ∧
      token.isLazyMarker = decide (token.kind = .quantifier .zeroOrOne) := by
  intro token after
  have whole : tokenize "a\x7b1,\x7b2\x7d" = [⟨.literal 'a', "a", 0⟩] ++ token :: after := by
    decide +kernel
  obtain ⟨-, agrees, -, -, marker⟩ := kind_agrees whole
  exact ⟨whole, agrees, marker⟩

end Token

end RegexProse
