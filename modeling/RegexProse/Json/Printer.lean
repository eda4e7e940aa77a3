import RegexProse.Json.Basic

/-!
# Written JSON

A JSON value over several lines: each item and each field on a line of its own, two spaces deeper
than the brackets around it. Only quotes, backslashes and control characters are escaped.
-/

set_option autoImplicit false

namespace RegexProse.Json

def hexDigit (value : Nat) : Char := Char.ofNat (if value < 10 then 48 + value else 87 + value)

def escaped (char : Char) : Text :=
  match char with
  | '"' => "\\\""
  | '\\' => "\\\\"
  | '\x08' => "\\b"
  | '\t' => "\\t"
  | '\n' => "\\n"
  | '\x0c' => "\\f"
  | '\r' => "\\r"
  | char =>
    if char.toNat < 32 then
      ("\\u00" : Text) ++ [hexDigit (char.toNat / 16), hexDigit (char.toNat % 16)]
    else [char]

def quoted (text : Text) : Text := ['"'] ++ text.flatMap escaped ++ ['"']

/-- The beginning of a line at the given depth. -/
def newLine (depth : Nat) : Text := '\n' :: List.replicate (2 * depth) ' '

mutual

/-- The written form of a value whose brackets stand at the given depth. -/
def render (depth : Nat) : Json → Text
  | .string text => quoted text
  | .flag true => "true"
  | .flag false => "false"
  | .list [] => "[]"
  | .list (item :: items) =>
    ['['] ++ newLine (depth + 1) ++ render (depth + 1) item ++ renderItems (depth + 1) items ++
      newLine depth ++ [']']
  | .record [] => "\x7b\x7d"
  | .record ((key, value) :: fields) =>
    ['{'] ++ newLine (depth + 1) ++ quoted key ++ (": " : Text) ++ render (depth + 1) value ++
      renderFields (depth + 1) fields ++ newLine depth ++ ['}']

/-- The items after the first one, each with the comma before it. -/
def renderItems (depth : Nat) : List Json → Text
  | [] => []
  | item :: items => [','] ++ newLine depth ++ render depth item ++ renderItems depth items

/-- The fields after the first one, each with the comma before it. -/
def renderFields (depth : Nat) : List (Text × Json) → Text
  | [] => []
  | (key, value) :: fields =>
    [','] ++ newLine depth ++ quoted key ++ (": " : Text) ++ render depth value ++
      renderFields depth fields

end

def print (json : Json) : Text := render 0 json

end RegexProse.Json
