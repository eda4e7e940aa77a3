import RegexProse.Text.Basic

/-!
# Columns

Padding of a text with spaces to a width in characters. A text that is as wide as its column or
wider is left as it is.
-/

set_option autoImplicit false

namespace RegexProse

inductive Alignment where
  | left
  | right
  | center
  deriving DecidableEq, Repr

namespace Text

def spaces (count : Nat) : Text := List.replicate count ' '

/-- Pads to the width. Around a centred text the odd space stands on the right. -/
def pad (alignment : Alignment) (width : Nat) (text : Text) : Text :=
  let missing := width - text.length
  match alignment with
  | .left => text ++ spaces missing
  | .right => spaces missing ++ text
  | .center => spaces (missing / 2) ++ text ++ spaces (missing - missing / 2)

end Text

end RegexProse
