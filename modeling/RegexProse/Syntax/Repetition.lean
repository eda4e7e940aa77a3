import RegexProse.Syntax.Cursor
import RegexProse.Syntax.Expression

/-!
# Repetitions

The operators that repeat the atom before them, and the marks behind an operator: a question mark
asks for few repetitions, and a plus directly behind that keeps the repetition from being tried
again.
-/

set_option autoImplicit false

namespace RegexProse.Syntax

/-- Reads the bounds behind an opening brace. Blanks may stand around the numbers, and both may be
left out at a comma. -/
def braceBounds? (cursor : Cursor) : Option (Bounds × Cursor) := do
  let cursor ← cursor.skipBlanks?
  let (least, cursor) ←
    match cursor.rest with
    | ',' :: _ => some (0, cursor)
    | _ => cursor.number?
  let cursor ← cursor.skipBlanks?
  match cursor.rest with
  | '}' :: rest => some (⟨least, least⟩, cursor.goTo rest)
  | ',' :: rest =>
    let cursor ← (cursor.goTo rest).skipBlanks?
    let (most, cursor) := cursor.number?.getD (Bounds.unlimited, cursor)
    let cursor ← cursor.skipBlanks?
    let cursor ← cursor.expect? '}'
    some (⟨least, most⟩, cursor)
  | _ => none

/-- Reads an operator that repeats. Braces that state no bounds are none. -/
def operator? (cursor : Cursor) : Option (Bounds × Cursor) :=
  match cursor.rest with
  | '?' :: rest => some (⟨0, 1⟩, cursor.goTo rest)
  | '*' :: rest => some (⟨0, Bounds.unlimited⟩, cursor.goTo rest)
  | '+' :: rest => some (⟨1, Bounds.unlimited⟩, cursor.goTo rest)
  | '{' :: rest => braceBounds? (cursor.goTo rest)
  | _ => none

/-- The cursor behind the given character, if it comes next, and the same cursor if not. -/
def Cursor.skipOptional (expected : Char) (cursor : Cursor) : Cursor :=
  (cursor.expect? expected).getD cursor

/-- Reads what may follow an atom: blanks and a repetition with its marks. The atom without
repetition stays as it is; one with repetition has to be repeatable. -/
def repetition? (atom : Expression) (cursor : Cursor) : Option (Expression × Cursor) := do
  let cursor ← cursor.skipBlanks?
  match operator? cursor with
  | none => some (atom, cursor)
  | some (bounds, cursor) =>
    if atom.repeatable then
      let cursor ← cursor.skipBlanks?
      let cursor := cursor.skipOptional '?'
      match cursor.expect? '+' with
      | none => some (.repeated bounds atom, cursor)
      | some cursor => some (.atomic (.repeated bounds atom), cursor)
    else none

end RegexProse.Syntax
