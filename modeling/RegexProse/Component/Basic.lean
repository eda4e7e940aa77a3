import RegexProse.Component.Kind

/-!
# Components

The parts of an explained pattern. A component that explains a group holds the components of the
group's content.
-/

set_option autoImplicit false

namespace RegexProse

/-- A part of a pattern: its category, the characters that it covers with all quantifiers on it, its
description, the parts of its content, and whether it is a group that is never closed. -/
structure Component where
  kind : ComponentKind
  raw : Text
  description : Text
  children : List Component
  unterminated : Bool

end RegexProse
