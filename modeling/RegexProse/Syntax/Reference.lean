import RegexProse.Syntax.Cursor
import RegexProse.Syntax.Expression
import RegexProse.Text.Alphanumeric

/-!
# Names and references

Names of groups, and references to groups by name, by number or by distance. A reference has to be
to a group that has been opened before it; the number zero is the whole match.
-/

set_option autoImplicit false

namespace RegexProse.Syntax

def inName (char : Char) : Bool := Text.isAlphanumeric char || char = '_'

/-- Reads a name of at least one character and the character that ends it. -/
def name? (closing : Char) (cursor : Cursor) : Option (Text × Cursor) :=
  let name := cursor.rest.takeWhile inName
  if name.isEmpty then none
  else do
    let cursor ← (cursor.goTo (cursor.rest.dropWhile inName)).expect? closing
    some (name, cursor)

namespace Cursor

/-- The number of the group that a name or a number written as a name refers to. -/
def groupNamed? (name : Text) (cursor : Cursor) : Option Nat :=
  (cursor.names.lookup name).or (Text.decimal? name)

/-- The number of the group that many groups back, the one opened last being at distance one. -/
def groupBack? (distance : Nat) (cursor : Cursor) : Option Nat :=
  if distance = 0 then some 0
  else if distance ≤ cursor.groups + 1 then some (cursor.groups + 1 - distance)
  else none

def markNumbered (cursor : Cursor) : Cursor := { cursor with numbered := true }

/-- A reference to the group, which has to have been opened. -/
def referTo? (group : Nat) (cursor : Cursor) : Option (Expression × Cursor) :=
  if group ≤ cursor.groups then some (.reference group, cursor) else none

end Cursor

/-- Reads a name and the character that ends it, as a reference. -/
def namedReference? (closing : Char) (cursor : Cursor) : Option (Expression × Cursor) := do
  let (name, cursor) ← name? closing cursor
  let group ← cursor.groupNamed? name
  cursor.referTo? group

/-- Reads a name or a distance, which begins with a hyphen, as a reference. -/
def relativeReference? (closing : Char) (cursor : Cursor) : Option (Expression × Cursor) :=
  match cursor.rest with
  | '-' :: rest => do
    let distance ← Text.decimal? (rest.takeWhile Char.isDigit)
    let cursor ← (cursor.goTo (rest.dropWhile Char.isDigit)).expect? closing
    let group ← cursor.groupBack? distance
    cursor.referTo? group
  | _ => namedReference? closing cursor

/-- Reads a reference by number. Very large numbers are no references. -/
def numberedReference? (cursor : Cursor) : Option (Expression × Cursor) := do
  let (group, cursor) ← cursor.number?
  if group < cursor.numberLimit then cursor.markNumbered.referTo? group else none

end RegexProse.Syntax
