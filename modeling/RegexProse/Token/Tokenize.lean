import RegexProse.Bracket
import RegexProse.Group.Opener
import RegexProse.Quantifier.Brace
import RegexProse.Token.Basic

/-!
# Tokenization

A pattern as a list of tokens, from left to right. Every pattern has one: a character that begins no
longer construct is a token of its own. The tokens cover the pattern without gap or overlap.
-/

set_option autoImplicit false

namespace RegexProse

namespace TokenKind

def ofOpener : Opener → TokenKind
  | .group kind => .groupOpen kind
  | .setFlags => .setFlags

/-- Reads an escape. A backslash at the end of the pattern stands for itself. -/
def scanEscape : Text → Scan TokenKind
  | [] => .one (.literal '\\') '\\' []
  | char :: rest => ⟨.escape char, ['\\', char], rest⟩

/-- Reads a bracket expression. A bracket that is never closed stands for itself. -/
def scanBracket (input : Text) : Scan TokenKind :=
  match Bracket.scan? ('[' :: input) with
  | some scan => scan.map fun _ => .bracket
  | none => .one (.literal '[') '[' input

/-- Reads a brace quantifier. A brace that begins none stands for itself. -/
def scanBrace (input : Text) : Scan TokenKind :=
  match Quantifier.scanBrace? ('{' :: input) with
  | some scan => scan.map .quantifier
  | none => .one (.literal '{') '{' input

/-- The meaning of a character that no longer construct begins with. -/
def ofChar (char : Char) : TokenKind :=
  match char with
  | ')' => .groupClose
  | '.' => .anyChar
  | '^' => .startAnchor
  | '$' => .endAnchor
  | char =>
    match Quantifier.ofChar? char with
    | some operator => .quantifier operator
    | none => .literal char

/-- Reads the token that begins with the character and goes on with the input. -/
def scan (char : Char) (input : Text) : Scan TokenKind :=
  match char with
  | '\\' => scanEscape input
  | '[' => scanBracket input
  | '(' => (Opener.scan input).map ofOpener
  | '{' => scanBrace input
  | char => .one (ofChar char) char input

theorem scan_splits (char : Char) (input : Text) : (scan char input).Splits (char :: input) := by
  unfold scan
  split
  · cases input <;> exact ⟨rfl, by simp [scanEscape, Scan.one]⟩
  · unfold scanBracket
    split
    case h_1 scanned => exact (Bracket.scan?_splits scanned).map _
    case h_2 => exact Scan.splits_one _ _ _
  · exact (Opener.scan_splits input).map _
  · unfold scanBrace
    split
    case h_1 scanned => exact (Quantifier.scanBrace?_splits scanned).map _
    case h_2 => exact Scan.splits_one _ _ _
  · exact Scan.splits_one _ _ _

end TokenKind

namespace Token

/-- The tokens of a text that begins at the given byte. -/
def tokenizeFrom (offset : Nat) : Text → List Token
  | [] => []
  | char :: input =>
    let scan := TokenKind.scan char input
    ⟨scan.value, scan.text, offset⟩ :: tokenizeFrom (offset + scan.text.byteLength) scan.rest
termination_by input => input.length
decreasing_by exact (TokenKind.scan_splits char input).length_rest_lt

def tokenize (pattern : Text) : List Token := tokenizeFrom 0 pattern

theorem texts_tokenizeFrom (offset : Nat) (input : Text) :
    texts (tokenizeFrom offset input) = input := by
  fun_induction tokenizeFrom offset input with
  | case1 => rfl
  | case2 offset char input scan ih =>
    rw [texts_cons, ih]
    exact (TokenKind.scan_splits char input).append

end Token

end RegexProse
