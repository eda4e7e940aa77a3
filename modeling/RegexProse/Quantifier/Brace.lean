import RegexProse.Quantifier.Basic
import RegexProse.Scan
import RegexProse.Text.Blank

/-!
# Brace quantifiers

Quantifiers written between braces: one count, or two bounds around a comma of which one may be left
out. Blanks may stand around a bound, and a bound takes at most 32 bits.
-/

set_option autoImplicit false

namespace RegexProse.Quantifier

def maxBound : Nat := 4294967295

/-- Reads a bound that is given: digits, with blanks around them. -/
def bound? (text : Text) : Option Nat := do
  let number ← Text.decimal? (Text.trim text)
  if number ≤ maxBound then some number else none

/-- Reads a bound that may be left out. The outer level tells whether the text is well formed. -/
def optionalBound? (text : Text) : Option (Option Nat) :=
  match Text.trim text with
  | [] => some none
  | _ => (bound? text).map some

/-- Reads what stands between the braces. The first comma separates the bounds. -/
def ofBounds? (body : Text) : Option Quantifier :=
  match body.dropWhile (· ≠ ',') with
  | [] => (bound? body).map .exactly
  | _ :: upper =>
    match optionalBound? (body.takeWhile (· ≠ ',')), optionalBound? upper with
    | some (some least), some none => some (.atLeast least)
    | some none, some (some most) => some (.between 0 most)
    | some (some least), some (some most) => some (.between least most)
    | _, _ => none

/-- Reads a brace quantifier at the front of a text. The first closing brace ends it. -/
def scanBrace? : Text → Option (Scan Quantifier)
  | '{' :: input =>
    match input.dropWhile (· ≠ '}') with
    | [] => none
    | close :: rest =>
      let body := input.takeWhile (· ≠ '}')
      (ofBounds? body).map fun quantifier => ⟨quantifier, '{' :: (body ++ [close]), rest⟩
  | _ => none

theorem scanBrace?_splits {input : Text} {scan : Scan Quantifier}
    (scanned : scanBrace? input = some scan) : scan.Splits input := by
  unfold scanBrace? at scanned
  split at scanned
  case h_1 input =>
    split at scanned
    case h_1 => simp at scanned
    case h_2 close rest tail =>
      obtain ⟨quantifier, -, rfl⟩ := Option.map_eq_some_iff.mp scanned
      refine ⟨?_, by simp⟩
      have whole := List.takeWhile_append_dropWhile (p := (· ≠ '}')) (l := input)
      rw [tail] at whole
      simpa using whole
  case h_2 => simp at scanned

end RegexProse.Quantifier
