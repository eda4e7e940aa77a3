import RegexProse.Syntax.Escape
import RegexProse.Syntax.Symbol

/-!
# Text of bracket expressions

How far the text of a bracket expression reaches: up to the bracket that balances the first one. A
bracket that stands first closes nothing. Escapes are resolved on the way; whether the symbols are a
well-formed bracket expression is another question.
-/

set_option autoImplicit false

namespace RegexProse.Syntax

/-- The symbols of an escape. Hexadecimal digits are spelled out as a bracket expression. -/
def Escape.symbols : Escape → List Symbol
  | .character char => [.ofMember char]
  | .set ascii => [.set ascii]
  | .hexDigits false => Symbol.ofText "[0-9A-Fa-f]"
  | .hexDigits true => Symbol.ofText "[^0-9A-Fa-f]"

namespace BracketText

/-- The letters and marks that stand for themselves when escaped within brackets. -/
def inertEscapes : List Char := ['k', 'A', 'z', 'B', '<', '>', 'K', 'G']

/-- Reads what follows a backslash within brackets. -/
def readEscape? : Text → Option (Escape × Text)
  | [] => none
  | char :: rest =>
    if char = 'b' then some (.character '\x08', rest)
    else if inertEscapes.contains char then some (.character char, rest)
    else Escape.read? (char :: rest)

theorem readEscape?_length_lt {input rest : Text} {escape : Escape}
    (found : readEscape? input = some (escape, rest)) : rest.length < input.length := by
  cases input with
  | nil => simp [readEscape?] at found
  | cons char body =>
    simp only [readEscape?] at found
    split at found
    · obtain ⟨rfl, rfl⟩ := Prod.mk.inj (Option.some.inj found)
      exact Nat.lt_succ_self _
    split at found
    · obtain ⟨rfl, rfl⟩ := Prod.mk.inj (Option.some.inj found)
      exact Nat.lt_succ_self _
    · exact Escape.read?_length_lt found

def prepend (symbols : List Symbol) (found : Option (List Symbol × Text)) :
    Option (List Symbol × Text) :=
  found.map fun (more, rest) => (symbols ++ more, rest)

/-- Reads up to the bracket that balances the first one, where `depth` more are open. -/
def readFrom? (depth : Nat) : Text → Option (List Symbol × Text)
  | [] => none
  | '\\' :: input =>
    match found : readEscape? input with
    | none => none
    | some (escape, rest) =>
      have : rest.length < input.length + 1 :=
        Nat.lt_succ_of_lt (readEscape?_length_lt found)
      prepend escape.symbols (readFrom? depth rest)
  | '[' :: rest => prepend [.plain '['] (readFrom? (depth + 1) rest)
  | ']' :: rest =>
    match depth with
    | 0 => some ([.plain ']'], rest)
    | outer + 1 => prepend [.plain ']'] (readFrom? outer rest)
  | char :: rest => prepend [.plain char] (readFrom? depth rest)
termination_by input => input.length

/-- Reads the symbols of the text whose opening bracket stands in front of the input. -/
def read? (input : Text) : Option (List Symbol × Text) :=
  prepend [.plain '['] <|
    match input with
    | '^' :: ']' :: rest => prepend [.plain '^', .plain ']'] (readFrom? 0 rest)
    | ']' :: rest => prepend [.plain ']'] (readFrom? 0 rest)
    | rest => readFrom? 0 rest

end BracketText

end RegexProse.Syntax
