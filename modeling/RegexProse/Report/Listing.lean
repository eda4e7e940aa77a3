import RegexProse.Component.Outline
import RegexProse.Text.Pad

/-!
# Listings

The components of an explanation, one on each line: two spaces for each level, the kind, the
characters and the description.
-/

set_option autoImplicit false

namespace RegexProse.Report

/-- What stands in the line of a component. -/
def listingRow (depth : Nat) (component : Component) : Text :=
  Text.spaces (2 * depth) ++ Text.pad .left 16 component.kind.name ++ [' '] ++
    Text.pad .left 12 component.raw ++ [' '] ++ component.description

/-- The lines of the components, the first of which stands at the given depth. -/
def listing (depth : Nat) (components : List Component) : Text :=
  (Component.outlineOf depth components).flatMap fun (depth, component) =>
    Text.line (listingRow depth component)

end RegexProse.Report
