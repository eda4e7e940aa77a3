import RegexProse.Explanation
import RegexProse.Syntax.WellFormed

/-!
# Validation

Which patterns are explained: those that are not empty, not too long and well formed. The first of
these that fails is the error.
-/

set_option autoImplicit false

namespace RegexProse

inductive PatternError where
  | emptyPattern
  | patternTooLong (length : Nat)
  /-- The pattern is not well formed; the detail says how. -/
  | invalidSyntax (detail : Text)
  deriving DecidableEq, Repr

/-- The length of the longest pattern that is explained, in characters. -/
def maxPatternLength : Nat := 1000

namespace PatternError

def kind : PatternError → Text
  | .emptyPattern => "empty_pattern"
  | .patternTooLong _ => "pattern_too_long"
  | .invalidSyntax _ => "invalid_syntax"

def message : PatternError → Text
  | .emptyPattern => "Pattern is empty"
  | .patternTooLong length =>
    ("Pattern is too long (" : Text) ++ Text.ofNat length ++ (" characters, limit " : Text) ++
      Text.ofNat maxPatternLength ++ [')']
  | .invalidSyntax detail => ("Invalid regular expression: " : Text) ++ detail

end PatternError

def validate (pattern : Text) : Except PatternError Unit :=
  if pattern.isEmpty then .error .emptyPattern
  else if maxPatternLength < pattern.length then .error (.patternTooLong pattern.length)
  else if Syntax.accepts pattern then .ok ()
  else .error (.invalidSyntax "the pattern is not well formed")

theorem validate_eq_ok_iff {pattern : Text} :
    validate pattern = .ok () ↔
      pattern ≠ [] ∧ pattern.length ≤ maxPatternLength ∧ Syntax.accepts pattern := by
  unfold validate
  split
  case isTrue empty => simp_all
  split
  case isTrue long => simp [Nat.not_le_of_lt long]
  split <;> simp_all

def explain (pattern : Text) : Except PatternError Explanation :=
  (validate pattern).map fun _ => Explanation.ofPattern pattern

theorem explain_of_accepted {pattern : Text} (accepted : validate pattern = .ok ()) :
    explain pattern = .ok (Explanation.ofPattern pattern) := by
  rw [explain, accepted]
  rfl

end RegexProse
