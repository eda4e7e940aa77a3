import RegexProse.Proofs.Group.OpenerLanguage
import RegexProse.Text.Enclosed

/-!
# Kinds of openers

Which opener stands at the front of a text, kind by kind. At most one special opener stands there,
so it makes no difference in which order the ways of spelling one are tried.
-/

set_option autoImplicit false

namespace RegexProse.Opener

/-- ASCII letters and minus signs, at least one of them. -/
def Flags (flags : Text) : Prop := flags ≠ [] ∧ ∀ char ∈ flags, char.isAlpha ∨ char = '-'

/-- ASCII letters, digits and underscores, of which a digit is not the first. -/
def Name (name : Text) : Prop :=
  ∃ first rest, name = first :: rest ∧ (first.isAlpha ∨ first = '_') ∧
    ∀ char ∈ rest, char.isAlpha ∨ char.isDigit ∨ char = '_'

/-- The texts that are special openers of each kind. A plain capturing group has none. -/
def Spelling : Opener → Text → Prop
  | .setFlags, text => ∃ flags, Flags flags ∧ text = "(?" ++ flags ++ [')']
  | .group .nonCapturing, text =>
      text = "(?:" ∨ ∃ flags, Flags flags ∧ text = "(?" ++ flags ++ [':']
  | .group .namedCapturing, text =>
      ∃ name, Name name ∧ (text = "(?<" ++ name ++ ['>'] ∨ text = "(?P<" ++ name ++ ['>'])
  | .group .positiveLookahead, text => text = "(?="
  | .group .negativeLookahead, text => text = "(?!"
  | .group .positiveLookbehind, text => text = "(?<="
  | .group .negativeLookbehind, text => text = "(?<!"
  | .group .capturing, _ => False

theorem flags_iff {flags : Text} : Flags flags ↔ isFlags flags := by
  rw [isFlags_iff]
  simp [Flags, inFlags]

theorem name_iff {name : Text} : Name name ↔ isName name := by
  rw [isName_iff]
  simp [Name, beginsName, inName, Char.isAlphanum, or_assoc]

theorem spelling_iff_special {opener : Opener} {text : Text} :
    Spelling opener text ↔ Special opener text := by
  constructor
  · intro spelling
    cases opener with
    | setFlags =>
        obtain ⟨flags, valid, rfl⟩ := spelling
        exact .setFlags (flags_iff.mp valid)
    | group kind =>
        cases kind with
        | capturing => cases spelling
        | namedCapturing =>
            obtain ⟨name, valid, rfl | rfl⟩ := spelling
            · exact .named (name_iff.mp valid)
            · exact .namedWithP (name_iff.mp valid)
        | nonCapturing =>
            obtain rfl | ⟨flags, valid, rfl⟩ := spelling
            · exact .nonCapturing
            · exact .underFlags (flags_iff.mp valid)
        | positiveLookahead => exact spelling ▸ .positiveLookahead
        | negativeLookahead => exact spelling ▸ .negativeLookahead
        | positiveLookbehind => exact spelling ▸ .positiveLookbehind
        | negativeLookbehind => exact spelling ▸ .negativeLookbehind
  · intro special
    cases special with
    | nonCapturing => exact .inl rfl
    | underFlags valid => exact .inr ⟨_, flags_iff.mpr valid, rfl⟩
    | named valid => exact ⟨_, name_iff.mpr valid, .inl rfl⟩
    | namedWithP valid => exact ⟨_, name_iff.mpr valid, .inr rfl⟩
    | setFlags valid => exact ⟨_, flags_iff.mpr valid, rfl⟩
    | positiveLookahead | negativeLookahead | positiveLookbehind | negativeLookbehind => rfl

/-- Reads an opener that is always spelled in the same way. -/
def fixed? (opener : Opener) (text input : Text) : Option (Scan Opener) :=
  (Text.after? text input).map fun rest => ⟨opener, text, rest⟩

def named? (announced input : Text) : Option (Scan Opener) :=
  (Text.after? announced input).bind (scanName? announced)

def flagged? (input : Text) : Option (Scan Opener) := (Text.after? "(?" input).bind scanFlags?

/-- The ways of spelling a special opener, each to be tried on its own. -/
def attempts : List (Text → Option (Scan Opener)) :=
  [fixed? (.group .positiveLookbehind) "(?<=", fixed? (.group .negativeLookbehind) "(?<!",
    fixed? (.group .nonCapturing) "(?:", fixed? (.group .positiveLookahead) "(?=",
    fixed? (.group .negativeLookahead) "(?!", named? "(?P<", named? "(?<", flagged?]

theorem fixed?_eq_some_iff {opener : Opener} {text input : Text} {scan : Scan Opener} :
    fixed? opener text input = some scan ↔
      scan.value = opener ∧ scan.text = text ∧ input = scan.text ++ scan.rest := by
  obtain ⟨value, covered, rest⟩ := scan
  simp only [fixed?, Option.map_eq_some_iff, Text.after?_eq_some_iff, Scan.mk.injEq]
  constructor
  · rintro ⟨_, rfl, rfl, rfl, rfl⟩
    exact ⟨rfl, rfl, rfl⟩
  · rintro ⟨rfl, rfl, rfl⟩
    exact ⟨rest, rfl, rfl, rfl, rfl⟩

theorem named?_eq_some_iff {announced input : Text} {scan : Scan Opener} :
    named? announced input = some scan ↔
      scan.value = .group .namedCapturing ∧ input = scan.text ++ scan.rest ∧
        ∃ name, isName name ∧ scan.text = announced ++ name ++ ['>'] := by
  obtain ⟨value, covered, rest⟩ := scan
  simp only [named?, Option.bind_eq_some_iff, Text.after?_eq_some_iff, scanName?_eq_some_iff,
    Scan.mk.injEq]
  constructor
  · rintro ⟨_, rfl, name, _, valid, rfl, rfl, rfl, rfl⟩
    exact ⟨rfl, by simp, name, valid, rfl⟩
  · rintro ⟨rfl, rfl, name, valid, rfl⟩
    exact ⟨name ++ '>' :: rest, by simp, name, rest, valid, rfl, rfl, rfl, rfl⟩

theorem flagged?_eq_some_iff {input : Text} {scan : Scan Opener} :
    flagged? input = some scan ↔ input = scan.text ++ scan.rest ∧
      ∃ flags, isFlags flags ∧
        (scan.value = .group .nonCapturing ∧ scan.text = "(?" ++ flags ++ [':'] ∨
          scan.value = .setFlags ∧ scan.text = "(?" ++ flags ++ [')']) := by
  obtain ⟨value, covered, rest⟩ := scan
  simp only [flagged?, Option.bind_eq_some_iff, Text.after?_eq_some_iff, scanFlags?_eq_some_iff,
    Scan.mk.injEq]
  constructor
  · rintro ⟨_, rfl, flags, _, valid, ⟨rfl, rfl, rfl, rfl⟩ | ⟨rfl, rfl, rfl, rfl⟩⟩
    · exact ⟨by simp, flags, valid, .inl ⟨rfl, rfl⟩⟩
    · exact ⟨by simp, flags, valid, .inr ⟨rfl, rfl⟩⟩
  · rintro ⟨rfl, flags, valid, ⟨rfl, rfl⟩ | ⟨rfl, rfl⟩⟩
    · exact ⟨flags ++ ':' :: rest, by simp, flags, rest, valid, .inl ⟨rfl, rfl, rfl, rfl⟩⟩
    · exact ⟨flags ++ ')' :: rest, by simp, flags, rest, valid, .inr ⟨rfl, rfl, rfl, rfl⟩⟩

private theorem special_of_fixed? {opener : Opener} {text input : Text} {scan : Scan Opener}
    (special : Special opener text) (found : fixed? opener text input = some scan) :
    Special scan.value scan.text ∧ input = scan.text ++ scan.rest := by
  obtain ⟨rfl, rfl, whole⟩ := fixed?_eq_some_iff.mp found
  exact ⟨special, whole⟩

/-- What is found in one of the ways is a special opener at the front of the text. -/
theorem special_of_attempt {attempt : Text → Option (Scan Opener)} (tried : attempt ∈ attempts)
    {input : Text} {scan : Scan Opener} (found : attempt input = some scan) :
    Special scan.value scan.text ∧ input = scan.text ++ scan.rest := by
  simp only [attempts, List.mem_cons, List.not_mem_nil, or_false] at tried
  rcases tried with rfl | rfl | rfl | rfl | rfl | rfl | rfl | rfl
  · exact special_of_fixed? .positiveLookbehind found
  · exact special_of_fixed? .negativeLookbehind found
  · exact special_of_fixed? .nonCapturing found
  · exact special_of_fixed? .positiveLookahead found
  · exact special_of_fixed? .negativeLookahead found
  · obtain ⟨value, whole, name, valid, text⟩ := named?_eq_some_iff.mp found
    exact ⟨value ▸ text ▸ .namedWithP valid, whole⟩
  · obtain ⟨value, whole, name, valid, text⟩ := named?_eq_some_iff.mp found
    exact ⟨value ▸ text ▸ .named valid, whole⟩
  · obtain ⟨whole, flags, valid, ⟨value, text⟩ | ⟨value, text⟩⟩ := flagged?_eq_some_iff.mp found
    · exact ⟨value ▸ text ▸ .underFlags valid, whole⟩
    · exact ⟨value ▸ text ▸ .setFlags valid, whole⟩

/-- A special opener at the front of a text is found in one of the ways. -/
private theorem exists_attempt {opener : Opener} {text : Text} (special : Special opener text)
    (rest : Text) : ∃ attempt ∈ attempts, attempt (text ++ rest) = some ⟨opener, text, rest⟩ := by
  have fixed (opener : Opener) (text : Text) :
      fixed? opener text (text ++ rest) = some ⟨opener, text, rest⟩ :=
    fixed?_eq_some_iff.mpr ⟨rfl, rfl, rfl⟩
  cases special with
  | positiveLookbehind | negativeLookbehind | nonCapturing | positiveLookahead
  | negativeLookahead => exact ⟨_, by simp [attempts], fixed _ _⟩
  | named valid =>
      exact ⟨named? "(?<", by simp [attempts], named?_eq_some_iff.mpr ⟨rfl, rfl, _, valid, rfl⟩⟩
  | namedWithP valid =>
      exact ⟨named? "(?P<", by simp [attempts], named?_eq_some_iff.mpr ⟨rfl, rfl, _, valid, rfl⟩⟩
  | underFlags valid =>
      refine ⟨flagged?, by simp [attempts], flagged?_eq_some_iff.mpr ?_⟩
      exact ⟨rfl, _, valid, .inl ⟨rfl, rfl⟩⟩
  | setFlags valid =>
      refine ⟨flagged?, by simp [attempts], flagged?_eq_some_iff.mpr ?_⟩
      exact ⟨rfl, _, valid, .inr ⟨rfl, rfl⟩⟩

/-- The first way that succeeds finds the same in whatever order they are tried. -/
theorem findSome?_attempts {order : List (Text → Option (Scan Opener))}
    (same : order.Perm attempts) (rest : Text) :
    order.findSome? (· ('(' :: rest)) = scanSpecial? rest := by
  have agrees {attempt : Text → Option (Scan Opener)} (tried : attempt ∈ order)
      {scan : Scan Opener} (found : attempt ('(' :: rest) = some scan) :
      scanSpecial? rest = some scan := by
    obtain ⟨special, whole⟩ := special_of_attempt (same.mem_iff.mp tried) found
    exact (reads_scanSpecial? rest scan).mpr ⟨special, whole.symm⟩
  cases read : scanSpecial? rest with
  | none =>
      rw [List.findSome?_eq_none_iff]
      intro attempt tried
      cases found : attempt ('(' :: rest) with
      | none => rfl
      | some scan => exact (agrees tried found).symm.trans read
  | some scan =>
      obtain ⟨special, whole⟩ := (reads_scanSpecial? rest scan).mp read
      obtain ⟨attempt, tried, found⟩ := exists_attempt special scan.rest
      rw [whole] at found
      cases first : order.findSome? (· ('(' :: rest)) with
      | none =>
          have nothing := List.findSome?_eq_none_iff.mp first attempt (same.mem_iff.mpr tried)
          exact absurd (found.symm.trans nothing) (Option.some_ne_none scan)
      | some chosen =>
          obtain ⟨other, otherTried, otherFound⟩ := List.exists_of_findSome?_eq_some first
          exact (agrees otherTried otherFound).symm.trans read

theorem extent_scan_eq_iff {rest : Text} {opener : Opener} {length : Nat} :
    (scan rest).extent = (opener, length) ↔
      (∃ text, Special opener text ∧ text <+: '(' :: rest ∧ text.byteLength = length) ∨
        (opener = .group .capturing ∧ length = 1) ∧
          ∀ other text, Special other text → ¬ text <+: '(' :: rest := by
  have spelled : (scanSpecial? rest).map Scan.extent = some (opener, length) ↔
      ∃ text, Special opener text ∧ text <+: '(' :: rest ∧ text.byteLength = length :=
    reads_scanSpecial?.extent_eq_some_iff opener length
  have plain : scanSpecial? rest = none ↔
      ∀ other text, Special other text → ¬ text <+: '(' :: rest := reads_scanSpecial?.eq_none_iff
  rw [← spelled, ← plain, scan]
  cases scanSpecial? rest with
  | none =>
      have alone : (Scan.one (group .capturing) '(' rest).extent = (group .capturing, 1) := rfl
      simp [alone, eq_comm]
  | some found => simp

/-- The opener that is read is the special one at the front of the text, or a parenthesis alone where
none stands there. No two special openers stand at the front of one text, and the ways of spelling
one find the same in any order. -/
theorem scan_classifies (rest : Text) :
    (∀ opener length, (scan rest).extent = (opener, length) ↔
        (∃ text, Spelling opener text ∧ text <+: '(' :: rest ∧
            (String.ofList text).utf8ByteSize = length) ∨
          (opener = .group .capturing ∧ length = 1) ∧
            ∀ other text, Spelling other text → ¬ text <+: '(' :: rest) ∧
      (∀ left right text other, Spelling left text → Spelling right other →
        text <+: '(' :: rest → other <+: '(' :: rest → left = right ∧ text = other) ∧
      ∀ order : List (Text → Option (Scan Opener)), order.Perm attempts →
        (order.findSome? (· ('(' :: rest))).getD (.one (.group .capturing) '(' rest) =
          scan rest := by
  simp only [spelling_iff_special, Text.utf8ByteSize_ofList]
  refine ⟨?_, ?_, ?_⟩
  · intro opener length
    exact extent_scan_eq_iff
  · intro left right text other special otherSpecial front otherFront
    exact reads_scanSpecial?.unique special otherSpecial front otherFront
  · intro order same
    rw [findSome?_attempts same, scan]

example : (scan "?P<n_1>a)").extent = (.group .namedCapturing, 8) := by decide
example : (scan "?s-i1:a)").extent = (.group .capturing, 1) := by decide

end RegexProse.Opener
