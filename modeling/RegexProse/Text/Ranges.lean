import RegexProse.Text.Basic

/-!
# Runs of code points

Sets of characters as runs of code points, each given by its first and last one.
-/

set_option autoImplicit false

namespace RegexProse.Text

def inRanges (ranges : List (Nat × Nat)) (char : Char) : Bool :=
  ranges.any fun (first, last) => first ≤ char.toNat && char.toNat ≤ last

end RegexProse.Text
