import RegexProse.Group.Opener
import RegexProse.Proofs.Scan.Language

/-!
# The language of group openers

The texts that begin a group or a flag setting and are more than a parenthesis alone. No text of the
language begins another one, so it makes no difference in which order they are tried.
-/

set_option autoImplicit false

namespace RegexProse.Opener

/-- Flags: letters and minus signs, at least one of them. -/
def isFlags (flags : Text) : Bool := !flags.isEmpty && flags.all inFlags

/-- How an opener other than a parenthesis alone is spelled. -/
inductive Special : Opener → Text → Prop where
  | nonCapturing : Special (.group .nonCapturing) "(?:"
  | positiveLookahead : Special (.group .positiveLookahead) "(?="
  | negativeLookahead : Special (.group .negativeLookahead) "(?!"
  | positiveLookbehind : Special (.group .positiveLookbehind) "(?<="
  | negativeLookbehind : Special (.group .negativeLookbehind) "(?<!"
  | named {name : Text} :
      isName name → Special (.group .namedCapturing) ("(?<" ++ name ++ ['>'])
  | namedWithP {name : Text} :
      isName name → Special (.group .namedCapturing) ("(?P<" ++ name ++ ['>'])
  | underFlags {flags : Text} :
      isFlags flags → Special (.group .nonCapturing) ("(?" ++ flags ++ [':'])
  | setFlags {flags : Text} : isFlags flags → Special .setFlags ("(?" ++ flags ++ [')'])

theorem Special.head?_eq {opener : Opener} {text : Text} (special : Special opener text) :
    text.head? = some '(' := by
  cases special <;> rfl

theorem isFlags_iff {flags : Text} : isFlags flags ↔ flags ≠ [] ∧ ∀ char ∈ flags, inFlags char := by
  simp [isFlags]

theorem isName_iff {name : Text} :
    isName name ↔ ∃ first rest, name = first :: rest ∧ beginsName first ∧
      ∀ char ∈ rest, inName char := by
  cases name with
  | nil => simp [isName]
  | cons first rest =>
      simp only [isName, Bool.and_eq_true, List.all_eq_true]
      constructor
      · intro valid
        exact ⟨first, rest, rfl, valid⟩
      · intro parts
        obtain ⟨_, _, same, valid⟩ := parts
        cases same
        exact valid

theorem inName_of_isName {name : Text} (valid : isName name) : ∀ char ∈ name, inName char := by
  obtain ⟨first, rest, rfl, begins, within⟩ := isName_iff.mp valid
  intro char member
  rcases List.mem_cons.mp member with rfl | member
  · simp only [beginsName, Bool.or_eq_true, inName, Char.isAlphanum] at begins ⊢
    exact begins.imp_left .inl
  · exact within char member

theorem scanName?_eq_some_iff {announced input : Text} {scan : Scan Opener} :
    scanName? announced input = some scan ↔ ∃ name rest, isName name ∧
      input = name ++ '>' :: rest ∧
      scan = ⟨.group .namedCapturing, announced ++ name ++ ['>'], rest⟩ := by
  unfold scanName?
  constructor
  · intro scanned
    split at scanned
    case h_1 rest stopped =>
      dsimp only at scanned
      split at scanned
      case isTrue valid =>
        obtain rfl := Option.some.inj scanned
        exact ⟨_, rest, valid, Text.eq_append_of_dropWhile stopped, rfl⟩
      case isFalse => cases scanned
    case h_2 => cases scanned
  · intro named
    obtain ⟨name, rest, valid, rfl, rfl⟩ := named
    have within := inName_of_isName valid
    rw [Text.takeWhile_append_stop within (by decide),
      Text.dropWhile_append_stop within (by decide)]
    simp only [valid, if_true]

theorem scanFlags?_eq_some_iff {input : Text} {scan : Scan Opener} :
    scanFlags? input = some scan ↔ ∃ flags rest, isFlags flags ∧
      (input = flags ++ ':' :: rest ∧
          scan = ⟨.group .nonCapturing, "(?" ++ flags ++ [':'], rest⟩ ∨
        input = flags ++ ')' :: rest ∧ scan = ⟨.setFlags, "(?" ++ flags ++ [')'], rest⟩) := by
  unfold scanFlags?
  constructor
  · intro scanned
    dsimp only at scanned
    split at scanned
    case isTrue => cases scanned
    case isFalse inhabited =>
      have valid : isFlags (input.takeWhile inFlags) := by
        refine isFlags_iff.mpr ⟨by simpa using inhabited, ?_⟩
        exact List.all_eq_true.mp List.all_takeWhile
      split at scanned
      case h_1 rest stopped =>
        obtain rfl := Option.some.inj scanned
        exact ⟨_, rest, valid, .inl ⟨Text.eq_append_of_dropWhile stopped, rfl⟩⟩
      case h_2 rest stopped =>
        obtain rfl := Option.some.inj scanned
        exact ⟨_, rest, valid, .inr ⟨Text.eq_append_of_dropWhile stopped, rfl⟩⟩
      case h_3 => cases scanned
  · intro flagged
    obtain ⟨flags, rest, valid, ends⟩ := flagged
    obtain ⟨inhabited, within⟩ := isFlags_iff.mp valid
    rcases ends with ⟨rfl, rfl⟩ | ⟨rfl, rfl⟩
    · rw [Text.takeWhile_append_stop within (by decide),
        Text.dropWhile_append_stop within (by decide)]
      simp only [List.isEmpty_iff, inhabited, if_false]
      rfl
    · rw [Text.takeWhile_append_stop within (by decide),
        Text.dropWhile_append_stop within (by decide)]
      simp only [List.isEmpty_iff, inhabited, if_false]
      rfl

private theorem scanSpecial?_name {name : Text} (valid : isName name) (rest : Text) :
    scanSpecial? ('?' :: '<' :: (name ++ rest)) = scanName? "(?<" (name ++ rest) := by
  obtain ⟨first, more, rfl, begins, -⟩ := isName_iff.mp valid
  have notAhead : first ≠ '=' := by
    rintro rfl
    exact absurd begins (by decide)
  have notNegated : first ≠ '!' := by
    rintro rfl
    exact absurd begins (by decide)
  simp [scanSpecial?, notAhead, notNegated]

private theorem scanSpecial?_flags {flags : Text} (valid : isFlags flags) {stop : Char}
    (stops : stop ≠ '<') (rest : Text) :
    scanSpecial? ('?' :: (flags ++ stop :: rest)) = scanFlags? (flags ++ stop :: rest) := by
  obtain ⟨inhabited, within⟩ := isFlags_iff.mp valid
  have noFlag : ∀ char ∈ flags, char ∉ [':', '=', '!', '<'] := by
    intro char member announces
    have flag := within char member
    simp only [List.mem_cons, List.not_mem_nil, or_false] at announces
    rcases announces with rfl | rfl | rfl | rfl <;> exact absurd flag (by decide)
  cases flags with
  | nil => exact absurd rfl inhabited
  | cons first more =>
      have noName : ∀ later, more ++ stop :: rest ≠ '<' :: later := by
        intro later same
        cases more with
        | nil => exact stops (List.cons.inj same).1
        | cons second more =>
            have second := noFlag second (by simp)
            simp_all
      have notAnnounced := noFlag first List.mem_cons_self
      simp only [List.mem_cons, List.not_mem_nil, or_false, not_or] at notAnnounced
      simp [scanSpecial?, notAnnounced, noName]

/-- The scanner takes exactly the special openers. -/
theorem reads_scanSpecial? : Scan.Reads ['('] scanSpecial? Special := by
  intro input scan
  constructor
  · intro scanned
    refine ⟨?_, (scanSpecial?_splits scanned).append⟩
    unfold scanSpecial? at scanned
    split at scanned
    case h_1 => exact Option.some.inj scanned ▸ .nonCapturing
    case h_2 => exact Option.some.inj scanned ▸ .positiveLookahead
    case h_3 => exact Option.some.inj scanned ▸ .negativeLookahead
    case h_4 => exact Option.some.inj scanned ▸ .positiveLookbehind
    case h_5 => exact Option.some.inj scanned ▸ .negativeLookbehind
    case h_6 =>
      obtain ⟨name, rest, valid, -, same⟩ := scanName?_eq_some_iff.mp scanned
      exact same ▸ .named valid
    case h_7 =>
      obtain ⟨name, rest, valid, -, same⟩ := scanName?_eq_some_iff.mp scanned
      exact same ▸ .namedWithP valid
    case h_8 =>
      obtain ⟨flags, rest, valid, ⟨-, same⟩ | ⟨-, same⟩⟩ := scanFlags?_eq_some_iff.mp scanned
      · exact same ▸ .underFlags valid
      · exact same ▸ .setFlags valid
    case h_9 => cases scanned
  · obtain ⟨value, text, rest⟩ := scan
    intro whole
    obtain ⟨spelled, split⟩ := whole
    dsimp only at spelled split
    cases spelled with
    | nonCapturing | positiveLookahead | negativeLookahead | positiveLookbehind
    | negativeLookbehind =>
        obtain rfl := (List.cons.inj split).2
        rfl
    | @named name valid =>
        obtain rfl : '?' :: '<' :: (name ++ '>' :: rest) = input := by simpa using split
        rw [scanSpecial?_name valid]
        exact scanName?_eq_some_iff.mpr ⟨name, rest, valid, rfl, rfl⟩
    | @namedWithP name valid =>
        obtain rfl : '?' :: 'P' :: '<' :: (name ++ '>' :: rest) = input := by simpa using split
        exact scanName?_eq_some_iff.mpr ⟨name, rest, valid, rfl, rfl⟩
    | @underFlags flags valid =>
        obtain rfl : '?' :: (flags ++ ':' :: rest) = input := by simpa using split
        rw [scanSpecial?_flags valid (by decide)]
        exact scanFlags?_eq_some_iff.mpr ⟨flags, rest, valid, .inl ⟨rfl, rfl⟩⟩
    | @setFlags flags valid =>
        obtain rfl : '?' :: (flags ++ ')' :: rest) = input := by simpa using split
        rw [scanSpecial?_flags valid (by decide)]
        exact scanFlags?_eq_some_iff.mpr ⟨flags, rest, valid, .inr ⟨rfl, rfl⟩⟩

end RegexProse.Opener
