import RegexProse.Text.Basic

/-!
# Scans

A scan is what a reading took from the front of a text: its meaning, the characters it covers, and
the characters after them. A scan splits a text when the two together are that text.
-/

set_option autoImplicit false

namespace RegexProse

structure Scan (α : Type) where
  value : α
  text : Text
  rest : Text

namespace Scan

/-- The scan covers a part of the input that is not empty, and its rest is what follows. -/
structure Splits {α : Type} (scan : Scan α) (input : Text) : Prop where
  append : scan.text ++ scan.rest = input
  ne_nil : scan.text ≠ []

def map {α β : Type} (meaning : α → β) (scan : Scan α) : Scan β :=
  ⟨meaning scan.value, scan.text, scan.rest⟩

def one {α : Type} (value : α) (char : Char) (rest : Text) : Scan α := ⟨value, [char], rest⟩

variable {α β : Type}

@[simp] theorem map_value (meaning : α → β) (scan : Scan α) :
    (scan.map meaning).value = meaning scan.value := rfl

@[simp] theorem map_text (meaning : α → β) (scan : Scan α) : (scan.map meaning).text = scan.text :=
  rfl

@[simp] theorem map_rest (meaning : α → β) (scan : Scan α) : (scan.map meaning).rest = scan.rest :=
  rfl

theorem Splits.map {scan : Scan α} {input : Text} (splits : scan.Splits input)
    (meaning : α → β) : (scan.map meaning).Splits input := ⟨splits.append, splits.ne_nil⟩

theorem splits_one (value : α) (char : Char) (rest : Text) :
    (one value char rest).Splits (char :: rest) := ⟨rfl, by simp [one]⟩

theorem Splits.length_rest_lt {scan : Scan α} {input : Text} (splits : scan.Splits input) :
    scan.rest.length < input.length := by
  have positive := List.length_pos_iff.mpr splits.ne_nil
  rw [← splits.append, List.length_append]
  omega

end Scan

end RegexProse
