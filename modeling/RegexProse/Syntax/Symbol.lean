import RegexProse.Text.Decimal

/-!
# Symbols

The written form of plain expressions, as a list of symbols. In it all escapes are resolved: a
character either stands as it is, and may have a meaning there, or it stands for itself, and a set
or an assertion that has an escape is one symbol.
-/

set_option autoImplicit false

namespace RegexProse.Syntax

inductive Symbol where
  /-- A character as it is, which may have a meaning. -/
  | plain (char : Char)
  /-- A character that stands for itself. -/
  | escaped (char : Char)
  /-- A set that is written as one escape. The flag tells whether it holds ASCII characters only
  where Unicode is off. -/
  | set (ascii : Bool)
  /-- An assertion that is written as one escape. -/
  | assertion
  deriving DecidableEq, Repr

namespace Symbol

def ofText (text : Text) : List Symbol := text.map .plain

def plain? : Symbol → Option Char
  | .plain char => some char
  | _ => none

/-- The character that a symbol stands for, whether as it is or by itself. -/
def char? : Symbol → Option Char
  | .plain char => some char
  | .escaped char => some char
  | .set _ | .assertion => none

/-- Whether all characters that the symbol can stand for are ASCII characters. -/
def isAscii : Symbol → Bool
  | .plain char | .escaped char => char.toNat < 128
  | .set ascii => ascii
  | .assertion => true

/-- The characters that may have a meaning outside of brackets. -/
def operators : List Char :=
  ['\\', '.', '+', '*', '?', '(', ')', '|', '[', ']', '{', '}', '^', '$', '#']

/-- The characters that may have a meaning within brackets, in addition. -/
def bracketOperators : List Char := ['&', '-', '~']

def ofLiteral (char : Char) : Symbol :=
  if operators.contains char then .escaped char else .plain char

def ofMember (char : Char) : Symbol :=
  if bracketOperators.contains char then .escaped char else ofLiteral char

/-- The symbols in a group that sets the given flag for them. -/
def underFlag (flag : Char) (symbols : List Symbol) : List Symbol :=
  ofText ['(', '?', flag, ':'] ++ symbols ++ ofText [')']

def grouped (symbols : List Symbol) : List Symbol :=
  ofText ['(', '?', ':'] ++ symbols ++ ofText [')']

end Symbol

end RegexProse.Syntax
