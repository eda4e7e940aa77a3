import RegexProse.Text.Decimal

/-!
# Cursors

How far an expression has been read, and what the characters read so far mean for those to come:
the flags, the groups opened and their names, and whether a group was referred to by number.
-/

set_option autoImplicit false

namespace RegexProse.Syntax

/-- The flags that change how an expression is read or written. -/
structure Flags where
  ignoreCase : Bool
  multiLine : Bool
  acrossLines : Bool
  freeSpacing : Bool
  deriving DecidableEq, Repr

structure Cursor where
  rest : Text
  flags : Flags
  /-- The named groups with their numbers, the latest first. -/
  names : List (Text × Nat)
  groups : Nat
  /-- Whether a group was referred to by its number. -/
  numbered : Bool
  /-- Numbers of groups that are written out must stay below this. -/
  numberLimit : Nat

namespace Cursor

def start (pattern : Text) : Cursor :=
  ⟨pattern, ⟨false, false, false, false⟩, [], 0, false, pattern.byteLength / 2⟩

def goTo (rest : Text) (cursor : Cursor) : Cursor := { cursor with rest := rest }

def openGroup (cursor : Cursor) : Cursor := { cursor with groups := cursor.groups + 1 }

/-- Gives the group opened last a name. A later group takes a name over. -/
def nameGroup (name : Text) (cursor : Cursor) : Cursor :=
  { cursor with names := (name, cursor.groups) :: cursor.names }

@[simp] theorem rest_goTo (rest : Text) (cursor : Cursor) : (cursor.goTo rest).rest = rest := rfl

/-- Where in the skipped part of an expression one is. -/
inductive Skipping where
  | blanks
  | comment
  | lineComment
  deriving DecidableEq, Repr

/-- Skips comments in parentheses and, where blanks are free, blanks and comments up to the end of
the line. A comment in parentheses has to be closed. -/
def skip? (freeSpacing : Bool) : Skipping → Text → Option Text
  | .blanks, '(' :: '?' :: '#' :: rest => skip? freeSpacing .comment rest
  | .blanks, char :: rest =>
    if freeSpacing && char = '#' then skip? freeSpacing .lineComment rest
    else if freeSpacing && [' ', '\r', '\n', '\t'].contains char then
      skip? freeSpacing .blanks rest
    else some (char :: rest)
  | .comment, ')' :: rest => skip? freeSpacing .blanks rest
  | .comment, '\\' :: _ :: rest => skip? freeSpacing .comment rest
  | .comment, _ :: rest => skip? freeSpacing .comment rest
  | .lineComment, '\n' :: rest => skip? freeSpacing .blanks rest
  | .lineComment, _ :: rest => skip? freeSpacing .lineComment rest
  | .comment, [] => none
  | _, [] => some []

/-- The cursor behind blanks and comments. -/
def skipBlanks? (cursor : Cursor) : Option Cursor :=
  (skip? cursor.flags.freeSpacing .blanks cursor.rest).map cursor.goTo

def expect? (expected : Char) (cursor : Cursor) : Option Cursor :=
  match cursor.rest with
  | [] => none
  | char :: rest => if char = expected then some (cursor.goTo rest) else none

def close? (cursor : Cursor) : Option Cursor := cursor.skipBlanks?.bind (expect? ')')

/-- Reads a number of at most 64 bits. -/
def number? (cursor : Cursor) : Option (Nat × Cursor) := do
  let number ← Text.decimal? (cursor.rest.takeWhile Char.isDigit)
  if number ≤ 18446744073709551615 then
    some (number, cursor.goTo (cursor.rest.dropWhile Char.isDigit))
  else none

theorem length_le_of_skip? {freeSpacing : Bool} {skipping : Skipping} {input rest : Text}
    (skipped : skip? freeSpacing skipping input = some rest) : rest.length ≤ input.length := by
  fun_induction skip? freeSpacing skipping input <;> grind

theorem length_le_of_skipBlanks? {cursor next : Cursor}
    (skipped : cursor.skipBlanks? = some next) : next.rest.length ≤ cursor.rest.length := by
  obtain ⟨rest, found, rfl⟩ := Option.map_eq_some_iff.mp skipped
  exact length_le_of_skip? found

end Cursor

end RegexProse.Syntax
