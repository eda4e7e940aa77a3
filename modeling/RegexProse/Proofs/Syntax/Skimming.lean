import RegexProse.Proofs.Scan.Language
import RegexProse.Proofs.Syntax.Legible
import RegexProse.Syntax.Flags
import RegexProse.Syntax.Reference
import RegexProse.Syntax.Repetition

/-!
# Readings over quiet text

Numbers, names, references and repetitions are written in quiet characters, and so are flags up to
the character that ends them.
-/

set_option autoImplicit false

namespace RegexProse.Syntax

theorem quiet_of_inName {name : Text} (within : ∀ char ∈ name, inName char) : Quiet name :=
  Quiet.of_inside (by decide +kernel) within

namespace Cursor

variable {cursor next : Cursor} {expression : Expression} {closing : Char}

theorem expect?_eq_some_iff {expected : Char} :
    cursor.expect? expected = some next ↔
      ∃ rest, cursor.rest = expected :: rest ∧ next = cursor.goTo rest := by
  unfold expect?
  split
  case h_1 empty => simp [empty]
  case h_2 char rest whole =>
    rw [whole]
    constructor
    · intro taken
      split at taken
      case isTrue same => exact ⟨rest, by rw [same], (Option.some.inj taken).symm⟩
      case isFalse => cases taken
    · rintro ⟨more, same, rfl⟩
      obtain ⟨rfl, rfl⟩ := List.cons.inj same
      rw [if_pos rfl]

theorem skims_of_expect? (taken : cursor.expect? closing = some next)
    (quiet : closing ∉ ']' :: Closes.marks) : cursor.Skims next := by
  obtain ⟨rest, split, rfl⟩ := expect?_eq_some_iff.mp taken
  exact ⟨rfl, [closing], by simpa [Quiet] using quiet, split⟩

theorem skims_dropWhile {inside : Char → Bool}
    (outside : (']' :: Closes.marks).all (!inside ·)) :
    cursor.Skims (cursor.goTo (cursor.rest.dropWhile inside)) :=
  ⟨rfl, cursor.rest.takeWhile inside,
    Quiet.of_inside outside fun char => List.all_eq_true.mp List.all_takeWhile char,
    List.takeWhile_append_dropWhile.symm⟩

theorem number?_eq_some {number : Nat} (read : cursor.number? = some (number, next)) :
    next = cursor.goTo (cursor.rest.dropWhile Char.isDigit) := by
  simp only [number?, Option.bind_eq_bind, Option.bind_eq_some_iff] at read
  obtain ⟨value, -, read⟩ := read
  split at read
  case isTrue => exact (Prod.mk.inj (Option.some.inj read)).2.symm
  case isFalse => cases read

private theorem skims_of_number? {number : Nat} (read : cursor.number? = some (number, next)) :
    cursor.Skims next := by
  rw [number?_eq_some read]
  exact skims_dropWhile (by decide)

theorem name?_eq_some {name : Text} (read : name? closing cursor = some (name, next)) :
    (∀ char ∈ name, inName char) ∧ cursor.rest = name ++ closing :: next.rest ∧
      next.flags = cursor.flags := by
  unfold name? at read
  dsimp only at read
  split at read
  case isTrue => cases read
  case isFalse =>
    simp only [Option.bind_eq_bind, Option.bind_eq_some_iff] at read
    obtain ⟨after, taken, read⟩ := read
    obtain ⟨rfl, rfl⟩ := Prod.mk.inj (Option.some.inj read)
    obtain ⟨rest, stopped, rfl⟩ := expect?_eq_some_iff.mp taken
    exact ⟨fun char => List.all_eq_true.mp List.all_takeWhile char,
      Text.eq_append_of_dropWhile stopped, rfl⟩

theorem referTo?_eq_some {group : Nat} (read : cursor.referTo? group = some (expression, next)) :
    next = cursor := by
  unfold referTo? at read
  split at read
  case isTrue => exact (Prod.mk.inj (Option.some.inj read)).2.symm
  case isFalse => cases read

theorem namedReference?_eq_some
    (read : namedReference? closing cursor = some (expression, next)) :
    ∃ name, (∀ char ∈ name, inName char) ∧ cursor.rest = name ++ closing :: next.rest ∧
      next.flags = cursor.flags := by
  simp only [namedReference?, Option.bind_eq_bind, Option.bind_eq_some_iff] at read
  obtain ⟨⟨name, after⟩, named, group, -, read⟩ := read
  obtain rfl := referTo?_eq_some read
  exact ⟨name, name?_eq_some named⟩

theorem skims_of_relativeReference?
    (read : relativeReference? closing cursor = some (expression, next))
    (quiet : closing ∉ ']' :: Closes.marks) : cursor.Skims next := by
  unfold relativeReference? at read
  split at read
  case h_1 rest hyphen =>
    simp only [Option.bind_eq_bind, Option.bind_eq_some_iff] at read
    obtain ⟨distance, -, after, taken, group, -, read⟩ := read
    obtain rfl := referTo?_eq_some read
    have sign : cursor.Skims (cursor.goTo rest) :=
      skims_of_expect? (expect?_eq_some_iff.mpr ⟨rest, hyphen, rfl⟩) (by decide)
    have digits : (cursor.goTo rest).Skims (cursor.goTo (rest.dropWhile Char.isDigit)) :=
      skims_dropWhile (by decide)
    exact (sign.trans digits).trans (skims_of_expect? taken quiet)
  case h_2 =>
    obtain ⟨name, within, split, same⟩ := namedReference?_eq_some read
    have closes : Quiet [closing] := .cons quiet .nil
    exact ⟨same, name ++ [closing], (quiet_of_inName within).append closes, by simpa using split⟩

theorem numberedReference?_eq_some
    (read : numberedReference? cursor = some (expression, next)) :
    next = (cursor.goTo (cursor.rest.dropWhile Char.isDigit)).markNumbered := by
  simp only [numberedReference?, Option.bind_eq_bind, Option.bind_eq_some_iff] at read
  obtain ⟨⟨group, after⟩, number, read⟩ := read
  split at read
  case isTrue => rw [referTo?_eq_some read, number?_eq_some number]
  case isFalse => cases read

theorem skims_of_numberedReference? (read : numberedReference? cursor = some (expression, next)) :
    cursor.Skims next := by
  have digits : cursor.Skims (cursor.goTo (cursor.rest.dropWhile Char.isDigit)) :=
    skims_dropWhile (by decide)
  rw [numberedReference?_eq_some read]
  exact digits.trans (.refl rfl rfl)

private theorem skims_skipOptional (expected : Char) (quiet : expected ∉ ']' :: Closes.marks) :
    cursor.Skims (cursor.skipOptional expected) := by
  unfold skipOptional
  cases taken : cursor.expect? expected with
  | none => exact .refl rfl rfl
  | some next => exact skims_of_expect? taken quiet

private theorem skims_of_upperBound? {bounds : Bounds} {least : Nat}
    (read : (cursor.skipBlanks?.bind fun here =>
      (here.number?.getD (Bounds.unlimited, here)).2.skipBlanks?.bind fun there =>
        (there.expect? '}').bind fun last =>
          some (⟨least, (here.number?.getD (Bounds.unlimited, here)).1⟩, last)) =
      some (bounds, next)) (clear : cursor.Clear) : cursor.Skims next := by
  simp only [Option.bind_eq_some_iff] at read
  obtain ⟨here, skipped, there, skippedAgain, last, taken, read⟩ := read
  obtain ⟨-, rfl⟩ := Prod.mk.inj (Option.some.inj read)
  have toHere := skims_of_skipBlanks? skipped clear
  have upper : here.Skims (here.number?.getD (Bounds.unlimited, here)).2 := by
    cases number : here.number? with
    | none => exact .refl rfl rfl
    | some found => exact skims_of_number? number
  have toUpper := toHere.trans upper
  have toThere := toUpper.trans (skims_of_skipBlanks? skippedAgain (toUpper.clear clear))
  exact toThere.trans (skims_of_expect? taken (by decide))

private theorem skims_of_braceBounds? {bounds : Bounds}
    (read : braceBounds? cursor = some (bounds, next)) (clear : cursor.Clear) :
    cursor.Skims next := by
  simp only [braceBounds?, Option.bind_eq_bind, Option.bind_eq_some_iff] at read
  obtain ⟨first, skipped, read⟩ := read
  have toFirst := skims_of_skipBlanks? skipped clear
  split at read
  case' h_1 =>
    have toSecond : first.Skims first := .refl rfl rfl
    rw [Option.bind_some] at read
  case' h_2 =>
    obtain ⟨⟨least, second⟩, number, read⟩ := Option.bind_eq_some_iff.mp read
    have toSecond := skims_of_number? number
  all_goals
    obtain ⟨third, skipped, read⟩ := Option.bind_eq_some_iff.mp read
    have toThird := (toFirst.trans toSecond).trans
      (skims_of_skipBlanks? skipped (toSecond.clear (toFirst.clear clear)))
    split at read
    case h_1 rest closing =>
      obtain ⟨-, rfl⟩ := Prod.mk.inj (Option.some.inj read)
      exact toThird.trans
        (skims_of_expect? (expect?_eq_some_iff.mpr ⟨rest, closing, rfl⟩) (by decide))
    case h_2 rest comma =>
      have toComma := toThird.trans
        (skims_of_expect? (expect?_eq_some_iff.mpr ⟨rest, comma, rfl⟩) (by decide))
      exact toComma.trans (skims_of_upperBound? read (toComma.clear clear))
    case h_3 => cases read

private theorem skims_of_operator? {bounds : Bounds} (read : operator? cursor = some (bounds, next))
    (clear : cursor.Clear) : cursor.Skims next := by
  unfold operator? at read
  split at read
  case h_5 => cases read
  case h_4 rest opening =>
    have opened : cursor.Skims (cursor.goTo rest) :=
      skims_of_expect? (expect?_eq_some_iff.mpr ⟨rest, opening, rfl⟩) (by decide)
    exact opened.trans (skims_of_braceBounds? read (opened.clear clear))
  all_goals
    rename_i rest mark
    obtain ⟨-, rfl⟩ := Prod.mk.inj (Option.some.inj read)
    exact skims_of_expect? (expect?_eq_some_iff.mpr ⟨rest, mark, rfl⟩) (by decide)

theorem skims_of_repetition? {atom : Expression}
    (read : repetition? atom cursor = some (expression, next)) (clear : cursor.Clear) :
    cursor.Skims next := by
  simp only [repetition?, Option.bind_eq_bind, Option.bind_eq_some_iff] at read
  obtain ⟨first, skipped, read⟩ := read
  have toFirst := skims_of_skipBlanks? skipped clear
  split at read
  case h_1 =>
    obtain ⟨-, rfl⟩ := Prod.mk.inj (Option.some.inj read)
    exact toFirst
  case h_2 bounds second operator =>
    split at read
    case isFalse => cases read
    case isTrue =>
      obtain ⟨third, skipped, read⟩ := Option.bind_eq_some_iff.mp read
      have toSecond := toFirst.trans (skims_of_operator? operator (toFirst.clear clear))
      have toThird := toSecond.trans (skims_of_skipBlanks? skipped (toSecond.clear clear))
      have toMark := toThird.trans (skims_skipOptional '?' (by decide))
      split at read
      case h_1 =>
        obtain ⟨-, rfl⟩ := Prod.mk.inj (Option.some.inj read)
        exact toMark
      case h_2 last taken =>
        obtain ⟨-, rfl⟩ := Prod.mk.inj (Option.some.inj read)
        exact toMark.trans (skims_of_expect? taken (by decide))

theorem skipBlanks?_of_leads (leads : Quantifier.leads cursor.rest) :
    cursor.skipBlanks? = some cursor := by
  have stays : skip? cursor.flags.freeSpacing .blanks cursor.rest = some cursor.rest := by
    cases split : cursor.rest with
    | nil =>
        rw [split] at leads
        cases leads
    | cons char rest =>
        rw [split, Quantifier.leads_iff] at leads
        simp only [List.head?_cons, Option.some.injEq] at leads
        rcases leads with rfl | rfl | rfl <;> simp [skip?]
  rw [skipBlanks?, stays]
  rfl

/-- An operator repeats what is before it, and nothing is no expression that can be repeated. -/
theorem not_leads_of_repetition?_empty
    (read : repetition? .empty cursor = some (expression, next)) :
    ¬ Quantifier.leads cursor.rest := by
  intro leads
  have repeats : ∃ found, operator? cursor = some found := by
    rcases Quantifier.leads_iff.mp leads with mark | mark | mark
    all_goals
      obtain ⟨rest, split⟩ := List.head?_eq_some_iff.mp mark
      rw [operator?, split]
      exact ⟨_, rfl⟩
  obtain ⟨⟨bounds, after⟩, operator⟩ := repeats
  simp [repetition?, skipBlanks?_of_leads leads, operator, Expression.repeatable] at read

end Cursor

def flagLetters : List Char := ['i', 'm', 's', 'x', 'U', 'u']

/-- What a list of flags is written with. -/
def flagMarks : List Char := flagLetters ++ '-' :: Cursor.spaces

private theorem mem_flagMarks_of_space {char : Char} (space : char ∈ Cursor.spaces) :
    char ∈ flagMarks :=
  List.mem_append_right _ (List.mem_cons_of_mem _ space)

def FlagsEnd.mark : FlagsEnd → Char
  | .setting => ')'
  | .scope => ':'

theorem Flags.set?_eq_some {letter : Char} {negated : Bool} {flags changed : Flags}
    (set : flags.set? letter negated = some changed) :
    letter ∈ flagLetters ∧
      (letter ≠ 'x' → changed.freeSpacing = flags.freeSpacing) := by
  unfold Flags.set? at set
  split at set
  case h_6 =>
    split at set
    case isTrue => cases set
    case isFalse =>
      obtain rfl := Option.some.inj set
      exact ⟨by decide, fun _ => rfl⟩
  case h_7 => cases set
  all_goals
    obtain rfl := Option.some.inj set
    exact ⟨by decide, by simp⟩

namespace Cursor

variable {cursor here next : Cursor}

/-- The text in front of the cursor, where flags may stand, is legible under any flags that are set
there. -/
structure Tame (cursor : Cursor) : Prop where
  legible : Legible cursor.rest
  noLineComment : '#' ∉ cursor.rest ∨
    cursor.flags.freeSpacing = false ∧ 'x' ∉ cursor.rest.takeWhile Opener.inFlags

theorem Tame.clear (tame : cursor.Tame) : cursor.Clear where
  legible := tame.legible
  noLineComment free := by
    rcases tame.noLineComment with absent | ⟨unset, -⟩
    · exact absent
    · rw [unset] at free
      cases free

/-- Reading one flag leaves the rest of them as tame as before. -/
theorem Tame.step {char : Char} {rest : Text} {flags : Flags} (tame : cursor.Tame)
    (skipped : cursor.skipBlanks? = some here) (unread : here.rest = char :: rest)
    (flag : Opener.inFlags char)
    (changed : char ≠ 'x' → flags.freeSpacing = here.flags.freeSpacing) :
    ((here.setFlags flags).goTo rest).Tame := by
  obtain ⟨blanks, -, free, split, same⟩ := skipBlanks?_blanks skipped tame.clear
  have behind : rest <:+ cursor.rest := by
    rw [split, unread]
    exact (List.suffix_cons char rest).trans (List.suffix_append _ _)
  refine ⟨tame.legible.of_suffix behind, ?_⟩
  rcases tame.noLineComment with absent | ⟨unset, noX⟩
  · exact .inl fun member => absent (behind.subset member)
  · obtain rfl : blanks = [] := by
      by_contra skips
      rw [free skips] at unset
      cases unset
    rw [split, List.nil_append, unread, List.takeWhile_cons_of_pos flag, List.mem_cons,
      not_or] at noX
    refine .inr ⟨?_, noX.2⟩
    show flags.freeSpacing = false
    rw [changed (Ne.symm noX.1), same]
    exact unset

/-- The reading took a list of flags with its end, and what is left is clear. -/
structure TakesFlags (ending : FlagsEnd) (cursor next : Cursor) : Prop where
  clear : next.Clear
  covered : ∃ covered, (∀ char ∈ covered, char ∈ flagMarks) ∧
    cursor.rest = covered ++ ending.mark :: next.rest

theorem TakesFlags.behind {ending : FlagsEnd} {middle : Cursor} {blanks : Text} {char : Char}
    (taken : TakesFlags ending middle next) (within : ∀ char ∈ blanks, char ∈ spaces)
    (flag : char ∈ flagMarks) (split : cursor.rest = blanks ++ char :: middle.rest) :
    TakesFlags ending cursor next := by
  obtain ⟨covered, flags, later⟩ := taken.covered
  refine ⟨taken.clear, blanks ++ char :: covered, ?_, by simp [split, later]⟩
  intro other member
  rcases List.mem_append.mp member with blank | member
  · exact mem_flagMarks_of_space (within other blank)
  · rcases List.mem_cons.mp member with rfl | member
    · exact flag
    · exact flags other member

private theorem takesFlags_of_end {ending : FlagsEnd} {rest : Text} (tame : cursor.Tame)
    (skipped : cursor.skipBlanks? = some here) (unread : here.rest = ending.mark :: rest) :
    TakesFlags ending cursor (here.goTo rest) := by
  obtain ⟨blanks, within, -, split, same⟩ := skipBlanks?_blanks skipped tame.clear
  refine ⟨?_, blanks, fun char member => mem_flagMarks_of_space (within char member), ?_⟩
  · refine tame.clear.of_suffix (by rw [same]; rfl) ?_
    rw [split, unread]
    exact (List.suffix_cons _ rest).trans (List.suffix_append _ _)
  · rw [split, unread]
    rfl

theorem takesFlags_of_flags? {start : Nat} {negated : Bool} {ending : FlagsEnd}
    (read : flags? start negated cursor = some (ending, next)) (tame : cursor.Tame) :
    TakesFlags ending cursor next := by
  fun_induction flags? start negated cursor with
  | case1 | case2 | case3 | case5 | case7 | case9 => cases read
  | case4 negated cursor here skipped rest taken loneHyphen _ unread =>
      obtain ⟨rfl, rfl⟩ := Prod.mk.inj (Option.some.inj read)
      exact takesFlags_of_end tame skipped unread
  | case6 negated cursor here skipped rest taken loneHyphen _ unread =>
      obtain ⟨rfl, rfl⟩ := Prod.mk.inj (Option.some.inj read)
      exact takesFlags_of_end tame skipped unread
  | case8 negated cursor here skipped rest _ unread _ _ _ ih =>
      obtain ⟨blanks, within, -, split, -⟩ := skipBlanks?_blanks skipped tame.clear
      have later := ih read (tame.step skipped unread (by decide) fun _ => rfl)
      exact later.behind within (by decide : '-' ∈ flagMarks) (by rw [split, unread]; rfl)
  | case10 negated cursor here skipped char rest unread _ _ _ _ flags set ih =>
      obtain ⟨blanks, within, -, split, -⟩ := skipBlanks?_blanks skipped tame.clear
      obtain ⟨letter, changed⟩ := Flags.set?_eq_some set
      have flags : flagLetters.all Opener.inFlags := by decide
      have flag := List.all_eq_true.mp flags char letter
      have later := ih read (tame.step skipped unread flag changed)
      exact later.behind within (List.mem_append_left _ letter) (by rw [split, unread]; rfl)

end Cursor

end RegexProse.Syntax
