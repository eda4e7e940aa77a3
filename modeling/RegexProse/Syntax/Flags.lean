import RegexProse.Syntax.Cursor

/-!
# Flags

The letters between the question mark and the end of a flag setting. A hyphen turns the flags behind
it off.
-/

set_option autoImplicit false

namespace RegexProse.Syntax

/-- How a list of flags ends: with the setting itself, or at the expression that it is set for. -/
inductive FlagsEnd where
  | setting
  | scope
  deriving DecidableEq, Repr

def Flags.set? (letter : Char) (negated : Bool) (flags : Flags) : Option Flags :=
  match letter with
  | 'i' => some { flags with ignoreCase := !negated }
  | 'm' => some { flags with multiLine := !negated }
  | 's' => some { flags with acrossLines := !negated }
  | 'x' => some { flags with freeSpacing := !negated }
  | 'U' => some flags
  | 'u' => if negated then none else some flags
  | _ => none

def Cursor.setFlags (flags : Flags) (cursor : Cursor) : Cursor := { cursor with flags := flags }

/-- Reads flags up to their end. A setting needs more than a lone hyphen, and a scope may not have a
lone hyphen; `start` is how much text there was before the flags. -/
def flags? (start : Nat) (negated : Bool) (cursor : Cursor) : Option (FlagsEnd × Cursor) :=
  match skipped : cursor.skipBlanks? with
  | none => none
  | some here =>
    match unread : here.rest with
    | [] => none
    | char :: rest =>
      let taken := start - here.rest.length
      let loneHyphen := negated && taken = 1
      if char = ')' then
        if taken = 0 || loneHyphen then none else some (.setting, here.goTo rest)
      else if char = ':' then
        if loneHyphen then none else some (.scope, here.goTo rest)
      else
        have : rest.length < cursor.rest.length := by
          have fewer := Cursor.length_le_of_skipBlanks? skipped
          rw [unread] at fewer
          exact fewer
        if char = '-' then
          if negated then none else flags? start true (here.goTo rest)
        else
          match here.flags.set? char negated with
          | none => none
          | some flags => flags? start negated ((here.setFlags flags).goTo rest)
termination_by cursor.rest.length

end RegexProse.Syntax
