import RegexProse.Group.Kind
import RegexProse.Scan

/-!
# Group openers

What an opening parenthesis begins: a group of some kind, whose opener may run up to the name or the
flags that it carries, or a complete flag setting. A parenthesis that begins nothing special opens a
capturing group.
-/

set_option autoImplicit false

namespace RegexProse

inductive Opener where
  | group (kind : GroupKind)
  | setFlags
  deriving DecidableEq, Repr

namespace Opener

def beginsName (char : Char) : Bool := char.isAlpha || char = '_'

def inName (char : Char) : Bool := char.isAlphanum || char = '_'

def inFlags (char : Char) : Bool := char.isAlpha || char = '-'

/-- A group name: it is not empty and begins with no digit. -/
def isName : Text → Bool
  | [] => false
  | char :: rest => beginsName char && rest.all inName

/-- Reads a name and the bracket that ends it, after the characters that announce a name. -/
def scanName? (announced input : Text) : Option (Scan Opener) :=
  let name := input.takeWhile inName
  match input.dropWhile inName with
  | '>' :: rest =>
    if isName name then
      some ⟨.group .namedCapturing, announced ++ name ++ ['>'], rest⟩
    else none
  | _ => none

/-- Reads flags and the character that ends them: a colon opens a group under these flags, a
parenthesis completes a flag setting. -/
def scanFlags? (input : Text) : Option (Scan Opener) :=
  let flags := input.takeWhile inFlags
  if flags.isEmpty then none
  else
    match input.dropWhile inFlags with
    | ':' :: rest => some ⟨.group .nonCapturing, '(' :: '?' :: flags ++ [':'], rest⟩
    | ')' :: rest => some ⟨.setFlags, '(' :: '?' :: flags ++ [')'], rest⟩
    | _ => none

/-- Reads what follows a parenthesis when it is more than a plain capturing group. -/
def scanSpecial? : Text → Option (Scan Opener)
  | '?' :: ':' :: rest => some ⟨.group .nonCapturing, "(?:", rest⟩
  | '?' :: '=' :: rest => some ⟨.group .positiveLookahead, "(?=", rest⟩
  | '?' :: '!' :: rest => some ⟨.group .negativeLookahead, "(?!", rest⟩
  | '?' :: '<' :: '=' :: rest => some ⟨.group .positiveLookbehind, "(?<=", rest⟩
  | '?' :: '<' :: '!' :: rest => some ⟨.group .negativeLookbehind, "(?<!", rest⟩
  | '?' :: '<' :: rest => scanName? "(?<" rest
  | '?' :: 'P' :: '<' :: rest => scanName? "(?P<" rest
  | '?' :: rest => scanFlags? rest
  | _ => none

/-- Reads the opener whose parenthesis stands in front of the input. -/
def scan (input : Text) : Scan Opener :=
  (scanSpecial? input).getD (.one (.group .capturing) '(' input)

theorem scanName?_splits {announced input : Text} {scan : Scan Opener}
    (scanned : scanName? announced input = some scan) : scan.Splits (announced ++ input) := by
  unfold scanName? at scanned
  have whole := List.takeWhile_append_dropWhile (p := inName) (l := input)
  split at scanned
  case h_1 rest tail =>
    dsimp only at scanned
    split at scanned
    · obtain rfl := Option.some.inj scanned
      rw [tail] at whole
      exact ⟨by simp [whole], by simp⟩
    · simp at scanned
  case h_2 => simp at scanned

theorem scanFlags?_splits {input : Text} {scan : Scan Opener}
    (scanned : scanFlags? input = some scan) : scan.Splits ('(' :: '?' :: input) := by
  unfold scanFlags? at scanned
  have whole := List.takeWhile_append_dropWhile (p := inFlags) (l := input)
  dsimp only at scanned
  split at scanned
  · simp at scanned
  split at scanned
  case h_3 => simp at scanned
  all_goals
    rename_i tail
    obtain rfl := Option.some.inj scanned
    rw [tail] at whole
    exact ⟨by simp [whole], by simp⟩

theorem scanSpecial?_splits {input : Text} {scan : Scan Opener}
    (scanned : scanSpecial? input = some scan) : scan.Splits ('(' :: input) := by
  unfold scanSpecial? at scanned
  split at scanned
  case h_6 => simpa using scanName?_splits scanned
  case h_7 => simpa using scanName?_splits scanned
  case h_8 => exact scanFlags?_splits scanned
  case h_9 => simp at scanned
  all_goals
    obtain rfl := Option.some.inj scanned
    exact ⟨rfl, by simp⟩

theorem scan_splits (input : Text) : (scan input).Splits ('(' :: input) := by
  unfold scan
  cases scanned : scanSpecial? input with
  | none => exact Scan.splits_one _ _ _
  | some found => exact scanSpecial?_splits scanned

end Opener

end RegexProse
