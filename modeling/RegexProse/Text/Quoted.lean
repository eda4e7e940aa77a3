import RegexProse.Text.Visible

/-!
# Quoted text

Characters and texts between quotes, for diagnostics. The quote that encloses, the backslash and all
characters that cannot be seen are written as escapes, those without a short name by code point.
-/

set_option autoImplicit false

namespace RegexProse.Text

/-- A character by its code point in hexadecimal digits. -/
def codePoint (char : Char) : Text := ['\\', 'u', '{'] ++ Nat.toDigits 16 char.toNat ++ ['}']

/-- A character between two marks. -/
def escaped (mark char : Char) : Text :=
  match char with
  | '\t' => "\\t"
  | '\n' => "\\n"
  | '\r' => "\\r"
  | '\x00' => "\\0"
  | '\\' => "\\\\"
  | char =>
    if char = mark then ['\\', char]
    else if isVisible char then [char]
    else codePoint char

def quotedChar (char : Char) : Text := ['\''] ++ escaped '\'' char ++ ['\'']

def quoted (text : Text) : Text := ['"'] ++ text.flatMap (escaped '"') ++ ['"']

end RegexProse.Text
