import Mathlib.Data.List.TakeWhile
import RegexProse.Proofs.Scan.Language
import RegexProse.Proofs.Text.Cutting
import RegexProse.Quantifier.Brace
import RegexProse.Text.Enclosed

/-!
# Brace quantifiers by byte positions

A brace quantifier and its length, found with byte positions only. The text between the braces is
cut out at the first closing brace, which is a proper cut, and what is found is the quantifier that
the scanner reads.
-/

set_option autoImplicit false

namespace RegexProse.Quantifier

open Cutting

/-- The quantifier behind an opening brace and its bytes, with those of the braces. -/
def measureBounds (rest : Text) : Cutting (Option (Quantifier × Nat)) :=
  match rest.position? (· = '}') with
  | none => return none
  | some stop => do
    let body ← before rest stop
    return (ofBounds? body).map fun quantifier => (quantifier, body.byteLength + 2)

/-- The brace quantifier at the front of the text and its bytes. -/
def measureBrace (input : Text) : Cutting (Option (Quantifier × Nat)) :=
  match Text.after? ['{'] input with
  | none => return none
  | some rest => measureBounds rest

private theorem extent_scanBrace?_append {body : Text} (absent : '}' ∉ body) (rest : Text) :
    (scanBrace? ('{' :: (body ++ '}' :: rest))).map Scan.extent =
      (ofBounds? body).map fun quantifier => (quantifier, body.byteLength + 2) := by
  have extent (quantifier : Quantifier) :
      Scan.extent ⟨quantifier, '{' :: (body ++ ['}']), rest⟩ =
        (quantifier, body.byteLength + 2) := by
    simp only [Scan.extent, Text.byteLength_cons, Text.byteLength_append, Text.byteLength_nil,
      show '{'.utf8Size = 1 from rfl, show '}'.utf8Size = 1 from rfl, Prod.mk.injEq, true_and]
    omega
  simp only [scanBrace?, Text.dropWhile_ne_append absent, Text.takeWhile_ne_append absent,
    Option.map_map]
  exact congrArg (Option.map · (ofBounds? body)) (funext extent)

private theorem scanBrace?_eq_none {rest : Text} (absent : '}' ∉ rest) :
    scanBrace? ('{' :: rest) = none := by
  have all : rest.dropWhile (· ≠ '}') = [] :=
    List.dropWhile_eq_nil_iff.mpr (Text.forall_ne_of_not_mem absent)
  simp only [scanBrace?, all]

private theorem yields_measureBounds (rest : Text) :
    Yields (measureBounds rest) ((scanBrace? ('{' :: rest)).map Scan.extent) := by
  unfold measureBounds
  by_cases closed : '}' ∈ rest
  · obtain ⟨body, more, rfl, absent⟩ := List.eq_append_cons_of_mem closed
    rw [Text.position?_append absent, extent_scanBrace?_append absent]
    exact (yields_before body ('}' :: more)).bind (yields_pure _)
  · rw [Text.position?_eq_none closed, scanBrace?_eq_none closed]
    exact yields_pure none

theorem yields_measureBrace (input : Text) :
    Yields (measureBrace input) ((scanBrace? input).map Scan.extent) := by
  unfold measureBrace
  cases opened : Text.after? ['{'] input with
  | some rest =>
      obtain rfl := Text.after?_eq_some_iff.mp opened
      exact yields_measureBounds rest
  | none =>
      have unread : scanBrace? input = none := by
        unfold scanBrace?
        split
        · exact absurd opened (by simp [Text.after?])
        · rfl
      rw [unread]
      exact yields_pure none

end RegexProse.Quantifier
