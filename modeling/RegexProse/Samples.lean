import RegexProse.Text.Basic

/-!
# Samples

Patterns that everybody knows, with a title and a summary each.
-/

set_option autoImplicit false

namespace RegexProse

structure Sample where
  title : Text
  pattern : Text
  summary : Text
  deriving DecidableEq, Repr

/-- The samples, in the order in which they are shown. -/
def samples : List Sample :=
  [⟨"Email Validation", "^\\w+@[a-zA-Z_]+?\\.[a-zA-Z]\x7b2,3\x7d$",
      "Matches standard email addresses"⟩,
    ⟨"ID Number", "^[A-Z]\\d\x7b8\x7d$", "Matches ID format with 1 letter and 8 digits"⟩,
    ⟨"SSN Format", "\\d\x7b3\x7d-\\d\x7b2\x7d-\\d\x7b4\x7d",
      "Matches Social Security Number format"⟩,
    ⟨"Hex Color", "^#?([a-fA-F0-9]\x7b6\x7d|[a-fA-F0-9]\x7b3\x7d)$",
      "Matches hex color codes with or without #"⟩,
    ⟨"Password Strength", "^(?=.*[A-Za-z])(?=.*\\d)[A-Za-z\\d]\x7b8,\x7d$",
      "Matches passwords with letters and numbers"⟩]

end RegexProse
