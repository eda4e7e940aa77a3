import RegexProse.Component.Basic

/-!
# Outlines

The components of a tree in the order in which they begin, each with its depth: a component comes
before those of its content, and these before the component after it.
-/

set_option autoImplicit false

namespace RegexProse.Component

mutual

/-- The component at the given depth, and all below it. -/
def outline (depth : Nat) : Component → List (Nat × Component)
  | ⟨kind, raw, description, children, unterminated⟩ =>
    (depth, ⟨kind, raw, description, children, unterminated⟩) ::
      outlineOf (depth + 1) children

/-- The components of a list at the given depth, each followed by all below it. -/
def outlineOf (depth : Nat) : List Component → List (Nat × Component)
  | [] => []
  | component :: rest => outline depth component ++ outlineOf depth rest

end

theorem outline_eq (depth : Nat) (component : Component) :
    outline depth component = (depth, component) :: outlineOf (depth + 1) component.children := by
  cases component
  simp only [outline]

end RegexProse.Component
