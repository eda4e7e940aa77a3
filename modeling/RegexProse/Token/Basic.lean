import RegexProse.Group.Kind
import RegexProse.Quantifier.Basic

/-!
# Tokens

The units of a pattern. A token knows what it is, the characters it covers and the byte of the
pattern at which it begins.
-/

set_option autoImplicit false

namespace RegexProse

inductive TokenKind where
  /-- A backslash and one character. -/
  | escape (char : Char)
  /-- A whole bracket expression. -/
  | bracket
  /-- The opener of a group, up to its content. -/
  | groupOpen (kind : GroupKind)
  | groupClose
  /-- A whole flag setting. -/
  | setFlags
  | quantifier (quantifier : Quantifier)
  | anyChar
  | startAnchor
  | endAnchor
  | literal (char : Char)
  deriving DecidableEq, Repr

structure Token where
  kind : TokenKind
  text : Text
  offset : Nat
  deriving DecidableEq, Repr

namespace Token

/-- The characters that the tokens cover. -/
def texts (tokens : List Token) : Text := tokens.flatMap Token.text

@[simp] theorem texts_nil : texts [] = [] := rfl

@[simp] theorem texts_cons (token : Token) (tokens : List Token) :
    texts (token :: tokens) = token.text ++ texts tokens := rfl

@[simp] theorem texts_append (left right : List Token) :
    texts (left ++ right) = texts left ++ texts right := by
  simp [texts]

end Token

end RegexProse
