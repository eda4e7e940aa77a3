import RegexProse.Text.Decimal

/-!
# Quantifiers

How often an atom may repeat, the one-character operators that say so, and the English phrase for
each.
-/

set_option autoImplicit false

namespace RegexProse

inductive Quantifier where
  | zeroOrMore
  | oneOrMore
  | zeroOrOne
  | exactly (count : Nat)
  | atLeast (least : Nat)
  | between (least most : Nat)
  deriving DecidableEq, Repr

namespace Quantifier

/-- The quantifier that a single character denotes. -/
def ofChar? : Char → Option Quantifier
  | '*' => some .zeroOrMore
  | '+' => some .oneOrMore
  | '?' => some .zeroOrOne
  | _ => none

/-- The phrase that follows the description of the repeated atom. -/
def phrase : Quantifier → Text
  | .zeroOrMore => "zero or more times"
  | .oneOrMore => "one or more times"
  | .zeroOrOne => "zero or one time"
  | .exactly count => ("exactly " : Text) ++ Text.ofNat count ++ (" times" : Text)
  | .atLeast least => Text.ofNat least ++ (" or more times" : Text)
  | .between least most =>
    ("between " : Text) ++ Text.ofNat least ++ (" and " : Text) ++ Text.ofNat most ++
      (" times" : Text)

end Quantifier

end RegexProse
