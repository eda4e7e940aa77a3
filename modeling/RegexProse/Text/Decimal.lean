import RegexProse.Text.Basic

/-!
# Decimal numbers

Natural numbers in decimal digits. Writing uses no leading zero; reading accepts any. What is
written reads back as the same number.
-/

set_option autoImplicit false

namespace RegexProse.Text

def ofNat (number : Nat) : Text := Nat.toDigits 10 number

/-- The value of a run of ASCII digits. -/
def digitsValue (digits : Text) : Nat := Nat.ofDigitChars 10 digits 0

/-- Reads a text that consists of ASCII digits only, and of at least one. -/
def decimal? : Text → Option Nat
  | [] => none
  | digits => if digits.all Char.isDigit then some (digitsValue digits) else none

theorem decimal?_eq_some_iff {text : Text} {number : Nat} :
    decimal? text = some number ↔
      text ≠ [] ∧ text.all Char.isDigit ∧ digitsValue text = number := by
  cases text <;> simp [decimal?]

theorem isDigit_of_mem_ofNat {number : Nat} : ∀ char ∈ ofNat number, char.isDigit :=
  fun _ member => Nat.isDigit_of_mem_toDigits (by decide) (by decide) member

theorem decimal?_ofNat (number : Nat) : decimal? (ofNat number) = some number := by
  refine decimal?_eq_some_iff.mpr ⟨Nat.toDigits_ne_nil, ?_, Nat.ofDigitChars_ten_toDigits⟩
  exact List.all_eq_true.mpr isDigit_of_mem_ofNat

theorem ofNat_injective {left right : Nat} (same : ofNat left = ofNat right) : left = right := by
  have read := congrArg decimal? same
  simpa [decimal?_ofNat] using read

end RegexProse.Text
