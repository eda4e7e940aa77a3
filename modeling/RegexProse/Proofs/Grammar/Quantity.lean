import RegexProse.Proofs.Grammar.Sequence
import RegexProse.Proofs.Quantifier.BraceLanguage

/-!
# Written quantifiers

A quantifier is read where its bounds stand between braces, and nowhere else. So what a syntax tree
writes with braces is read back.
-/

set_option autoImplicit false

namespace RegexProse.Grammar

open Quantifier

private theorem bound_of_word (word : UInt32) : Bound word.toNat (Text.ofNat word.toNat) := by
  have fits := word.toNat_lt
  apply Bound.ofNat
  simp only [maxBound]
  omega

theorem Quantity.braced {quantity : Quantity} (brace : quantity.text.head? = some '{') :
    quantity.meaning.Braced quantity.text := by
  apply braced_iff.mpr
  cases quantity with
  | star | plus | optional => cases brace
  | exactly count => exact ⟨_, .exactly (bound_of_word count), rfl⟩
  | atLeast least => exact ⟨_, .atLeast (bound_of_word least) Text.blank_nil, by simp [text]⟩
  | atMost most => exact ⟨_, .atMost Text.blank_nil (bound_of_word most), by simp [text]⟩
  | between least most =>
      exact ⟨_, .between (bound_of_word least) (bound_of_word most), by simp [text]⟩

/-- A brace quantifier is read exactly where its bounds stand between braces, with the bytes that it
takes; what is written with braces is read back. -/
theorem scanBrace?_spec :
    (∀ input quantifier length,
        (scanBrace? input).map Scan.extent = some (quantifier, length) ↔
          ∃ body rest, Bounds quantifier body ∧ input = '{' :: (body ++ '}' :: rest) ∧
            (String.ofList ('{' :: (body ++ ['}']))).utf8ByteSize = length) ∧
      (∀ input, scanBrace? input = none ↔
        ∀ quantifier body rest, Bounds quantifier body → input ≠ '{' :: (body ++ '}' :: rest)) ∧
      (∀ (quantity : Quantity) (rest : Text), quantity.text.head? = some '{' →
        (scanBrace? (quantity.text ++ rest)).map Scan.extent =
          some (quantity.meaning, (String.ofList quantity.text).utf8ByteSize)) := by
  simp only [Text.utf8ByteSize_ofList]
  refine ⟨?_, ?_, ?_⟩
  · intro input quantifier length
    exact extent_scanBrace?_iff
  · intro input
    exact scanBrace?_eq_none_iff
  · intro quantity rest brace
    exact (reads_scanBrace?.extent_eq_some_iff _ _).mpr
      ⟨quantity.text, Quantity.braced brace, List.prefix_append _ rest, rfl⟩

example : (scanBrace? "\x7b\u3000007 ,\x7dx").map Scan.extent = some (.atLeast 7, 10) := by decide
example : (scanBrace? "\x7b4294967296\x7d").map Scan.extent = none := by decide

end RegexProse.Grammar
