import RegexProse.Token.Basic

/-!
# Quantifier runs

The quantifiers that directly follow an atom, and the words that they add to its description. A
question mark after a quantifier makes that quantifier lazy; after a lazy one it is a quantifier
again.
-/

set_option autoImplicit false

namespace RegexProse

namespace Token

def quantifier? (token : Token) : Option Quantifier :=
  match token.kind with
  | .quantifier quantifier => some quantifier
  | _ => none

def isQuantifier (token : Token) : Bool := token.quantifier?.isSome

theorem quantifier?_of_kind {token : Token} {quantifier : Quantifier}
    (kind : token.kind = .quantifier quantifier) : token.quantifier? = some quantifier := by
  rw [quantifier?, kind]

theorem isQuantifier_iff {token : Token} :
    token.isQuantifier ↔ ∃ quantifier, token.kind = .quantifier quantifier := by
  unfold isQuantifier quantifier?
  split
  case h_1 quantifier kind => simp [kind]
  case h_2 other => simpa using other

/-- The question mark that makes a quantifier lazy. -/
def isLazyMarker (token : Token) : Bool :=
  token.kind = .quantifier .zeroOrOne && token.text = ['?']

end Token

namespace QuantifierRun

def take (tokens : List Token) : List Token := tokens.takeWhile Token.isQuantifier

def drop (tokens : List Token) : List Token := tokens.dropWhile Token.isQuantifier

/-- The words for a run. The flag tells whether a quantifier stands before it that a question mark
makes lazy. A token that is no quantifier adds nothing. -/
def wordsAfter (greedyBefore : Bool) : List Token → Text
  | [] => []
  | token :: rest =>
    if greedyBefore && token.isLazyMarker then (" (lazy)" : Text) ++ wordsAfter false rest
    else
      match token.quantifier? with
      | some quantifier => ' ' :: quantifier.phrase ++ wordsAfter true rest
      | none => wordsAfter greedyBefore rest

def words (run : List Token) : Text := wordsAfter false run

theorem take_append_drop (tokens : List Token) : take tokens ++ drop tokens = tokens :=
  List.takeWhile_append_dropWhile

theorem length_drop_le (tokens : List Token) : (drop tokens).length ≤ tokens.length :=
  (List.dropWhile_suffix _).length_le

theorem isQuantifier_of_mem_take {tokens : List Token} {token : Token}
    (member : token ∈ take tokens) : token.isQuantifier :=
  List.all_eq_true.mp List.all_takeWhile token member

end QuantifierRun

end RegexProse
