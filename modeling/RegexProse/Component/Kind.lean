import RegexProse.Text.Basic

/-!
# Component kinds

The categories under which the parts of a pattern are explained.
-/

set_option autoImplicit false

namespace RegexProse

inductive ComponentKind where
  | literal
  | predefinedClass
  | characterClass
  | anchor
  | group
  /-- A quantifier with nothing before it to repeat. -/
  | quantifier
  deriving DecidableEq, Repr

def ComponentKind.name : ComponentKind → Text
  | .literal => "literal"
  | .predefinedClass => "predefined_class"
  | .characterClass => "character_class"
  | .anchor => "anchor"
  | .group => "group"
  | .quantifier => "quantifier"

theorem ComponentKind.name_injective {left right : ComponentKind}
    (same : left.name = right.name) : left = right := by
  cases left <;> cases right <;> first | rfl | exact absurd same (by decide)

end RegexProse
