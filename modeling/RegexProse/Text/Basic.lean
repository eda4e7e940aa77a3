/-!
# Text

Patterns, token texts and descriptions are lists of characters, so that every reading of a pattern
is a recursion on its input. Positions in a pattern are counted in UTF-8 bytes: `byteLength`
measures them, and it adds up over concatenation.
-/

set_option autoImplicit false

namespace RegexProse

abbrev Text := List Char

/-- A string literal stands for its characters. -/
instance : Coe String Text := ⟨String.toList⟩

namespace Text

def byteLength : Text → Nat
  | [] => 0
  | char :: rest => char.utf8Size + byteLength rest

@[simp] theorem byteLength_nil : byteLength [] = 0 := rfl

@[simp] theorem byteLength_cons (char : Char) (rest : Text) :
    byteLength (char :: rest) = char.utf8Size + byteLength rest := rfl

@[simp] theorem byteLength_append (left right : Text) :
    byteLength (left ++ right) = byteLength left + byteLength right := by
  induction left with
  | nil => simp
  | cons char rest ih => simp [ih, Nat.add_assoc]

theorem utf8ByteSize_ofList (text : Text) :
    (String.ofList text).utf8ByteSize = text.byteLength := by
  induction text with
  | nil => rfl
  | cons char rest ih =>
    rw [String.ofList_cons, String.utf8ByteSize_append, String.utf8ByteSize_singleton, ih,
      byteLength_cons]

/-- The line that holds the text, with its line feed. -/
def line (text : Text) : Text := text ++ ['\n']

end Text

end RegexProse
