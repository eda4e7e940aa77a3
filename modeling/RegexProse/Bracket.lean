import RegexProse.Scan

/-!
# Bracket expressions

Where a bracket expression ends. Escapes are stepped over in pairs, further brackets nest, and a
closing bracket that stands first, or first after a caret, is a member and closes nothing.
-/

set_option autoImplicit false

namespace RegexProse.Bracket

/-- What the next character of a bracket expression may be. -/
inductive Position where
  /-- Directly after the opening bracket: a caret negates. -/
  | opening
  /-- Before the first member: a closing bracket is that member. -/
  | first
  /-- Among the members: a closing bracket closes. -/
  | members
  deriving DecidableEq, Repr

def prepend (chars : Text) (found : Option (Text × Text)) : Option (Text × Text) :=
  found.map fun (part, rest) => (chars ++ part, rest)

/-- The characters up to the bracket that closes the innermost expression and the `depth` ones
around it, and those after it. -/
def close? : Nat → Position → Text → Option (Text × Text)
  | _, _, [] => none
  | depth, .opening, '^' :: rest => prepend ['^'] (close? depth .first rest)
  | depth, .opening, ']' :: rest => prepend [']'] (close? depth .members rest)
  | depth, .first, ']' :: rest => prepend [']'] (close? depth .members rest)
  | _, _, ['\\'] => none
  | depth, _, '\\' :: char :: rest => prepend ['\\', char] (close? depth .members rest)
  | depth, _, '[' :: rest => prepend ['['] (close? (depth + 1) .opening rest)
  | 0, _, ']' :: rest => some ([']'], rest)
  | depth + 1, _, ']' :: rest => prepend [']'] (close? depth .members rest)
  | depth, _, char :: rest => prepend [char] (close? depth .members rest)

/-- Reads the bracket expression at the front of a text. There is none if it is never closed. -/
def scan? : Text → Option (Scan Unit)
  | '[' :: input => (close? 0 .opening input).map fun (body, rest) => ⟨(), '[' :: body, rest⟩
  | _ => none

theorem prepend_eq_some_iff {chars part rest : Text} {found : Option (Text × Text)} :
    prepend chars found = some (part, rest) ↔
      ∃ tail, found = some (tail, rest) ∧ chars ++ tail = part := by
  simp [prepend]

theorem close?_append {depth : Nat} {position : Position} {input body rest : Text}
    (closed : close? depth position input = some (body, rest)) : body ++ rest = input := by
  fun_induction close? depth position input generalizing body <;>
    grind [prepend_eq_some_iff]

theorem scan?_splits {input : Text} {scan : Scan Unit} (scanned : scan? input = some scan) :
    scan.Splits input := by
  unfold scan? at scanned
  split at scanned
  · obtain ⟨⟨body, rest⟩, closed, rfl⟩ := Option.map_eq_some_iff.mp scanned
    exact ⟨by simpa using close?_append closed, by simp⟩
  · simp at scanned

end RegexProse.Bracket
