import RegexProse.Syntax.Property

/-!
# Escapes for characters

What a backslash may mean inside and outside of brackets alike: a character, a set of characters, or
a set of hexadecimal digits. A letter or digit without a meaning of its own may not be escaped.
-/

set_option autoImplicit false

namespace RegexProse.Syntax

inductive Escape where
  | character (char : Char)
  /-- A set of characters by class or property. The flag tells whether it holds ASCII characters
  only where Unicode is off. -/
  | set (ascii : Bool)
  /-- The hexadecimal digits, or all other characters. -/
  | hexDigits (negated : Bool)
  deriving DecidableEq, Repr

namespace Escape

def isHexDigit (char : Char) : Bool :=
  char.isDigit || ('a' ≤ char && char ≤ 'f') || ('A' ≤ char && char ≤ 'F')

def hexDigitValue (char : Char) : Nat :=
  if char.isDigit then char.toNat - '0'.toNat
  else if 'a' ≤ char then char.toNat - 'a'.toNat + 10
  else char.toNat - 'A'.toNat + 10

def scalar? (digits : Text) : Option Char :=
  let code := digits.foldl (fun value digit => 16 * value + hexDigitValue digit) 0
  if code.isValidChar then some (Char.ofNat code) else none

/-- Reads a code point: so many hexadecimal digits as given, or one to eight between braces. -/
def codePoint? (width : Nat) (input : Text) : Option (Escape × Text) :=
  match input with
  | '{' :: rest =>
    let digits := rest.takeWhile isHexDigit
    match rest.dropWhile isHexDigit with
    | '}' :: after =>
      if 1 ≤ digits.length && digits.length ≤ 8 then
        (scalar? digits).map (.character ·, after)
      else none
    | _ => none
  | input =>
    let digits := input.take width
    if digits.length = width && digits.all isHexDigit then
      (scalar? digits).map (.character ·, input.drop width)
    else none

/-- Reads the name of a property: one letter, or a name between braces. -/
def property? : Text → Option (Escape × Text)
  | [] => none
  | '{' :: rest =>
    match rest.dropWhile (· ≠ '}') with
    | [] => none
    | _ :: after =>
      if isPropertyName (rest.takeWhile (· ≠ '}')) then some (.set false, after) else none
  | letter :: rest => if isPropertyName [letter] then some (.set false, rest) else none

def control? : Char → Option Char
  | 'a' => some '\x07'
  | 'e' => some '\x1b'
  | 'f' => some '\x0c'
  | 'n' => some '\n'
  | 'r' => some '\r'
  | 't' => some '\t'
  | 'v' => some '\x0b'
  | _ => none

def read? : Text → Option (Escape × Text)
  | [] => none
  | char :: rest =>
    if ['d', 's', 'w'].contains char then some (.set true, rest)
    else if ['D', 'S', 'W'].contains char then some (.set false, rest)
    else if char = 'h' || char = 'H' then some (.hexDigits (char = 'H'), rest)
    else if char = 'x' then codePoint? 2 rest
    else if char = 'u' then codePoint? 4 rest
    else if char = 'U' then codePoint? 8 rest
    else if char = 'p' || char = 'P' then property? rest
    else
      match control? char with
      | some control => some (.character control, rest)
      | none => if char.isAlphanum then none else some (.character char, rest)

theorem codePoint?_length_le {width : Nat} {input rest : Text} {escape : Escape}
    (found : codePoint? width input = some (escape, rest)) : rest.length ≤ input.length := by
  unfold codePoint? at found
  split at found
  case h_1 body =>
    dsimp only at found
    have whole := congrArg List.length
      (List.takeWhile_append_dropWhile (p := isHexDigit) (l := body))
    split at found
    case h_1 after tail =>
      split at found
      · obtain ⟨code, -, same⟩ := Option.map_eq_some_iff.mp found
        obtain ⟨rfl, rfl⟩ := Prod.mk.inj same
        simp only [tail, List.length_append, List.length_cons] at whole ⊢
        omega
      · simp at found
    case h_2 => simp at found
  case h_2 =>
    dsimp only at found
    split at found
    · obtain ⟨code, -, same⟩ := Option.map_eq_some_iff.mp found
      obtain ⟨rfl, rfl⟩ := Prod.mk.inj same
      simp
    · simp at found

theorem property?_length_le {input rest : Text} {escape : Escape}
    (found : property? input = some (escape, rest)) : rest.length ≤ input.length := by
  unfold property? at found
  split at found
  case h_1 => simp at found
  case h_2 body =>
    have whole := congrArg List.length
      (List.takeWhile_append_dropWhile (p := (· ≠ '}')) (l := body))
    split at found
    case h_1 => simp at found
    case h_2 after tail =>
      split at found
      · obtain ⟨rfl, rfl⟩ := Prod.mk.inj (Option.some.inj found)
        simp only [tail, List.length_append, List.length_cons] at whole ⊢
        omega
      · simp at found
  case h_3 =>
    split at found
    · obtain ⟨rfl, rfl⟩ := Prod.mk.inj (Option.some.inj found)
      simp
    · simp at found

theorem read?_length_lt {input rest : Text} {escape : Escape}
    (found : read? input = some (escape, rest)) : rest.length < input.length := by
  cases input with
  | nil => simp [read?] at found
  | cons char body =>
    suffices rest.length ≤ body.length by simpa [Nat.lt_succ_iff] using this
    have taken : ∀ {value : Escape}, some (value, body) = some (escape, rest) →
        rest.length ≤ body.length := by
      intro value same
      obtain ⟨rfl, rfl⟩ := Prod.mk.inj (Option.some.inj same)
      exact Nat.le_refl _
    simp only [read?] at found
    split at found
    · exact taken found
    split at found
    · exact taken found
    split at found
    · exact taken found
    split at found
    · exact codePoint?_length_le found
    split at found
    · exact codePoint?_length_le found
    split at found
    · exact codePoint?_length_le found
    split at found
    · exact property?_length_le found
    split at found
    · exact taken found
    split at found
    · simp at found
    · exact taken found

end Escape

end RegexProse.Syntax
