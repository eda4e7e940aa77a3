import RegexProse.Syntax.Symbol
import RegexProse.Text.Blank

/-!
# Flags of the plain syntax

The flags that change how symbols are read: where spacing is free, blanks and comments have no
meaning, and where Unicode is off, sets may hold ASCII characters only.
-/

set_option autoImplicit false

namespace RegexProse.Syntax

structure PlainFlags where
  freeSpacing : Bool
  unicode : Bool
  deriving DecidableEq, Repr

namespace PlainFlags

def start : PlainFlags := ⟨false, true⟩

/-- The letters that may stand in a list of flags, and the hyphen. -/
def letters : List Char := ['i', 'm', 's', 'U', 'u', 'R', 'x', '-']

/-- Sets the flag that a letter is for, if it changes how symbols are read. -/
def set (letter : Char) (value : Bool) (flags : PlainFlags) : PlainFlags :=
  if letter = 'x' then { flags with freeSpacing := value }
  else if letter = 'u' then { flags with unicode := value }
  else flags

/-- The flags after a list of letters, of which a hyphen turns off those behind it. -/
def setAll (letters : Text) (flags : PlainFlags) : PlainFlags :=
  let on := (letters.takeWhile (· ≠ '-')).foldl (fun flags letter => flags.set letter true) flags
  (letters.dropWhile (· ≠ '-')).foldl (fun flags letter => flags.set letter false) on

/-- Whether a symbol has no meaning, and if so, whether a comment goes on behind it. A comment
begins with a number sign and ends with its line. -/
def passes? (inComment : Bool) (symbol : Symbol) (flags : PlainFlags) : Option Bool :=
  if !flags.freeSpacing then none
  else if inComment then some (symbol ≠ .plain '\n')
  else if symbol = .plain '#' then some true
  else if symbol.plain?.any Text.isBlank then some false
  else none

/-- The symbols from the first one on that has a meaning. -/
def skipFrom (inComment : Bool) (flags : PlainFlags) : List Symbol → List Symbol
  | [] => []
  | symbol :: rest =>
    match flags.passes? inComment symbol with
    | some inComment => skipFrom inComment flags rest
    | none => symbol :: rest

def skip (flags : PlainFlags) (symbols : List Symbol) : List Symbol :=
  skipFrom false flags symbols

theorem length_skipFrom_le (inComment : Bool) (flags : PlainFlags) (symbols : List Symbol) :
    (skipFrom inComment flags symbols).length ≤ symbols.length := by
  fun_induction skipFrom inComment flags symbols with
  | case1 => exact Nat.le_refl _
  | case2 _ _ _ _ _ ih => exact Nat.le_succ_of_le ih
  | case3 => exact Nat.le_refl _

theorem length_skip_le (flags : PlainFlags) (symbols : List Symbol) :
    (flags.skip symbols).length ≤ symbols.length := length_skipFrom_le false flags symbols

end PlainFlags

end RegexProse.Syntax
