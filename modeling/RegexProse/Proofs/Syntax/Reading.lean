import RegexProse.Proofs.Syntax.BracketText
import RegexProse.Syntax.Reading

/-!
# Readings of expressions

What a reading of an expression passes over closes its groups, and a group in it begins where its
opener ends for the tokens too, whenever they know the opener.
-/

set_option autoImplicit false

namespace RegexProse.Syntax

open Cursor

variable {cursor next : Cursor} {expression : Expression}

namespace Cursor

/-- The reading took text that closes the groups which it opens and one more, and what is left is
clear. -/
structure Leaves (cursor next : Cursor) : Prop where
  clear : next.Clear
  behind : next.rest <:+ cursor.rest
  closes {depth : Nat} : Closes depth next.rest → Closes (depth + 1) cursor.rest

/-- The cursor in front of the parenthesis that it stands behind. -/
def atParenthesis (cursor : Cursor) : Cursor := cursor.goTo ('(' :: cursor.rest)

private theorem atParenthesis_goTo {rest : Text} (split : cursor.rest = '(' :: rest) :
    (cursor.goTo rest).atParenthesis = cursor := by
  show cursor.goTo ('(' :: rest) = cursor
  rw [← split]
  rfl

private theorem passes_plain {char : Char} {rest : Text} (clear : cursor.Clear)
    (split : cursor.rest = char :: rest) (plain : char ∉ Closes.marks) :
    cursor.Passes (cursor.goTo rest) := by
  have behind : rest <:+ cursor.rest := ⟨[char], split.symm⟩
  exact ⟨clear.of_suffix rfl behind, behind, fun closes => split ▸ .plain plain closes⟩

private theorem Passes.leaves {middle : Cursor} (first : cursor.Passes middle)
    (second : middle.Leaves next) : cursor.Leaves next :=
  ⟨second.clear, second.behind.trans first.behind, fun closes =>
    first.closes (second.closes closes)⟩

theorem Leaves.passes (leaves : cursor.Leaves next) (entered : Entered cursor.rest) :
    cursor.atParenthesis.Passes next :=
  ⟨leaves.clear, leaves.behind.trans (List.suffix_cons _ _), fun closes =>
    .enter entered (leaves.closes closes)⟩

private theorem leaves_of_quiet {covered : Text} (clear : cursor.Clear)
    (same : next.flags = cursor.flags)
    (quiet : Quiet covered) (split : cursor.rest = covered ++ ')' :: next.rest) :
    cursor.Leaves next := by
  have behind : next.rest <:+ cursor.rest := by
    rw [split]
    exact (List.suffix_cons _ _).trans (List.suffix_append _ _)
  refine ⟨clear.of_suffix same behind, behind, fun closes => ?_⟩
  rw [split]
  exact .append quiet.plain (.leave closes)

private theorem leaves_of_expect? (taken : cursor.expect? ')' = some next) (clear : cursor.Clear) :
    cursor.Leaves next := by
  obtain ⟨rest, split, rfl⟩ := expect?_eq_some_iff.mp taken
  exact leaves_of_quiet clear rfl .nil split

private theorem leaves_of_close? (closed : cursor.close? = some next) (clear : cursor.Clear) :
    cursor.Leaves next := by
  obtain ⟨middle, skipped, taken⟩ := Option.bind_eq_some_iff.mp closed
  have toMiddle := skims_of_skipBlanks? skipped clear
  exact (toMiddle.passes clear).leaves (leaves_of_expect? taken (toMiddle.clear clear))

end Cursor

/-- The reader passes over text that closes its groups and begins with no quantifier of a single
character. -/
def PassesOver (read? : Reader) : Prop :=
  ∀ {cursor next : Cursor} {expression : Expression}, read? cursor = some (expression, next) →
    cursor.Clear → cursor.Passes next ∧ ¬ Quantifier.leads cursor.rest

/-- The reader passes over text that, with the parenthesis before it, closes its groups. -/
def PassesGroup (group? : Reader) : Prop :=
  ∀ {cursor next : Cursor} {expression : Expression}, group? cursor = some (expression, next) →
    cursor.atParenthesis.Clear → cursor.atParenthesis.Passes next

private theorem escape?_covers (read : escape? cursor = some (expression, next)) :
    ∃ char rest, cursor.rest = char :: rest ∧ (cursor.goTo rest).Skims next := by
  unfold escape? at read
  split at read
  case h_1 => cases read
  case h_2 char rest whole =>
    suffices skims : (cursor.goTo rest).Skims next from ⟨char, rest, whole, skims⟩
    have alone {value : Expression}
        (taken : some (value, cursor.goTo rest) = some (expression, next)) :
        (cursor.goTo rest).Skims next :=
      .refl ((Prod.mk.inj (Option.some.inj taken)).2 ▸ rfl)
        ((Prod.mk.inj (Option.some.inj taken)).2 ▸ rfl)
    have named {first closing : Char} {name : Text} (split : rest = first :: name)
        (mark : first ∉ ']' :: Closes.marks) (quiet : closing ∉ ']' :: Closes.marks)
        (taken : relativeReference? closing (cursor.goTo name) = some (expression, next)) :
        (cursor.goTo rest).Skims next := by
      have opened : (cursor.goTo rest).Skims (cursor.goTo name) :=
        skims_of_expect? (expect?_eq_some_iff.mpr ⟨name, split, rfl⟩) mark
      exact opened.trans (skims_of_relativeReference? taken quiet)
    split at read
    case isTrue digit =>
      have digits : (cursor.goTo rest).Skims (cursor.goTo (rest.dropWhile Char.isDigit)) :=
        skims_dropWhile (by decide)
      rw [numberedReference?_eq_some read, whole, List.dropWhile_cons_of_pos digit]
      exact digits.trans (.refl rfl rfl)
    split at read
    case isTrue =>
      split at read
      case h_1 name => exact named rfl (by decide) (by decide) read
      case h_2 name => exact named rfl (by decide) (by decide) read
      case h_3 => cases read
    split at read
    · exact alone read
    split at read
    · exact alone read
    split at read
    · split at read
      · cases read
      · exact alone read
    split at read
    · exact alone read
    split at read
    · exact alone read
    · simp only [Option.bind_eq_bind, Option.bind_eq_some_iff] at read
      obtain ⟨⟨escape, later⟩, found, read⟩ := read
      obtain ⟨-, rfl⟩ := Prod.mk.inj (Option.some.inj read)
      obtain ⟨first, covered, quiet, split⟩ := Escape.read?_covers found
      rw [whole] at split
      exact ⟨rfl, covered, quiet, (List.cons.inj split).2⟩

private theorem passes_of_escape? {rest : Text} (clear : cursor.Clear)
    (split : cursor.rest = '\\' :: rest)
    (read : escape? (cursor.goTo rest) = some (expression, next)) : cursor.Passes next := by
  obtain ⟨char, later, whole, skims⟩ := escape?_covers read
  have behind : later <:+ cursor.rest := ⟨['\\', char], by rw [split]; exact congrArg _ whole.symm⟩
  have passes := skims.passes (clear.of_suffix rfl behind)
  refine ⟨passes.clear, passes.behind.trans behind, fun closes => ?_⟩
  rw [split, show rest = char :: later from whole]
  exact .escape (passes.closes closes)

private theorem passes_of_bracket {rest later : Text} {symbols : List Symbol} (clear : cursor.Clear)
    (split : cursor.rest = '[' :: rest) (read : BracketText.read? rest = some (symbols, later)) :
    cursor.Passes (cursor.goTo later) := by
  have plain := clear.legible.plainBrackets cursor.rest
    ((List.mem_tails _ _).mpr (List.suffix_refl _))
  rw [split] at plain
  obtain ⟨body, rfl, expression⟩ := Bracket.expression_of_read? read plain
  have behind : later <:+ cursor.rest := ⟨'[' :: body, by rw [split]; rfl⟩
  exact ⟨clear.of_suffix rfl behind, behind, fun closes => split ▸ .bracket expression closes⟩

private theorem passes_of_atom? {group? : Reader} (groups : PassesGroup group?)
    (read : atom? group? cursor = some (expression, next)) (clear : cursor.Clear) :
    cursor.Passes next := by
  simp only [atom?, Option.bind_eq_bind, Option.bind_eq_some_iff] at read
  obtain ⟨here, skipped, read⟩ := read
  have toHere := skims_of_skipBlanks? skipped clear
  have clearHere := toHere.clear clear
  refine (toHere.passes clear).trans ?_
  split at read
  case h_1 =>
    obtain ⟨-, rfl⟩ := Prod.mk.inj (Option.some.inj read)
    exact .refl clearHere
  case h_2 char rest whole =>
    split at read
    case isTrue =>
      obtain ⟨-, rfl⟩ := Prod.mk.inj (Option.some.inj read)
      exact .refl clearHere
    case isFalse notStop =>
      split at read
      case isTrue same =>
        rw [same] at whole
        have passes := groups read ((atParenthesis_goTo whole).symm ▸ clearHere)
        rwa [atParenthesis_goTo whole] at passes
      case isFalse notEnter =>
        split at read
        case isTrue same => exact passes_of_escape? clearHere (same ▸ whole) read
        case isFalse notEscape =>
          split at read
          case isTrue same =>
            simp only [Option.bind_eq_some_iff] at read
            obtain ⟨⟨symbols, later⟩, bracket, read⟩ := read
            obtain ⟨-, rfl⟩ := Prod.mk.inj (Option.some.inj read)
            exact passes_of_bracket clearHere (same ▸ whole) bracket
          case isFalse notBracket =>
            have plain : char ∉ Closes.marks := by
              simp_all [Closes.marks]
            have passes := passes_plain clearHere whole plain
            split at read
            · exact (Prod.mk.inj (Option.some.inj read)).2 ▸ passes
            split at read
            · exact (Prod.mk.inj (Option.some.inj read)).2 ▸ passes
            · exact (Prod.mk.inj (Option.some.inj read)).2 ▸ passes

/-- Before a quantifier of a single character stands the empty atom. -/
private theorem atom?_of_leads {group? : Reader} (leads : Quantifier.leads cursor.rest) :
    atom? group? cursor = some (.empty, cursor) := by
  simp only [atom?, Option.bind_eq_bind, skipBlanks?_of_leads leads, Option.bind_some]
  rcases Quantifier.leads_iff.mp leads with mark | mark | mark
  all_goals
    obtain ⟨rest, split⟩ := List.head?_eq_some_iff.mp mark
    rw [split]
    rfl

private theorem passes_of_piece? {group? : Reader} (groups : PassesGroup group?) :
    PassesOver (piece? group?) := by
  intro cursor next expression read clear
  simp only [piece?, Option.bind_eq_bind, Option.bind_eq_some_iff] at read
  obtain ⟨⟨atom, middle⟩, atomic, repetition⟩ := read
  have toMiddle := passes_of_atom? groups atomic clear
  refine ⟨toMiddle.trans ((skims_of_repetition? repetition toMiddle.clear).passes toMiddle.clear),
    fun leads => ?_⟩
  rw [atom?_of_leads leads] at atomic
  obtain ⟨rfl, rfl⟩ := Prod.mk.inj (Option.some.inj atomic)
  exact not_leads_of_repetition?_empty repetition leads

private theorem passes_of_branches? {group? : Reader} (groups : PassesGroup group?)
    {begun branches : List Expression}
    (read : branches? group? begun cursor = some (branches, next)) (clear : cursor.Clear) :
    cursor.Passes next ∧ ¬ Quantifier.leads cursor.rest := by
  fun_induction branches? group? begun cursor generalizing branches with
  | case1 => cases read
  | case2 begun cursor piece middle found _ ih =>
      obtain ⟨passes, notLeads⟩ := passes_of_piece? groups found clear
      exact ⟨passes.trans (ih read passes.clear).1, notLeads⟩
  | case3 => cases read
  | case4 begun cursor piece middle found _ after skipped rest bar _ ih =>
      obtain ⟨-, notLeads⟩ := passes_of_piece? groups found clear
      obtain ⟨⟨others, last⟩, later, same⟩ := Option.map_eq_some_iff.mp read
      obtain ⟨-, rfl⟩ := Prod.mk.inj same
      have toAfter := skims_of_skipBlanks? skipped clear
      have overBar := passes_plain (toAfter.clear clear) bar (by decide)
      exact ⟨((toAfter.passes clear).trans overBar).trans (ih later overBar.clear).1, notLeads⟩
  | case5 begun cursor piece middle found _ after skipped =>
      obtain ⟨-, notLeads⟩ := passes_of_piece? groups found clear
      obtain ⟨-, rfl⟩ := Prod.mk.inj (Option.some.inj read)
      exact ⟨(skims_of_skipBlanks? skipped clear).passes clear, notLeads⟩

private theorem passes_of_alternation? {group? : Reader} (groups : PassesGroup group?) :
    PassesOver (alternation? group?) := by
  intro cursor next expression read clear
  simp only [alternation?, Option.bind_eq_bind, Option.bind_eq_some_iff] at read
  obtain ⟨⟨branches, last⟩, found, read⟩ := read
  have passes := passes_of_branches? groups found clear
  split at read
  case h_1 =>
    split at read
    case isTrue => cases read
    case isFalse => exact (Prod.mk.inj (Option.some.inj read)).2 ▸ passes
  case h_2 => exact (Prod.mk.inj (Option.some.inj read)).2 ▸ passes

section Groups

variable {inner? : Reader}

private theorem leaves_of_content? (inner : PassesOver inner?)
    (read : content? inner? cursor = some (expression, next)) (clear : cursor.Clear) :
    cursor.Leaves next ∧ ¬ Quantifier.leads cursor.rest := by
  simp only [content?, Option.bind_eq_bind, Option.bind_eq_some_iff] at read
  obtain ⟨⟨content, middle⟩, found, last, closed, read⟩ := read
  obtain ⟨-, rfl⟩ := Prod.mk.inj (Option.some.inj read)
  obtain ⟨passes, notLeads⟩ := inner found clear
  exact ⟨passes.leaves (leaves_of_close? closed passes.clear), notLeads⟩

private theorem leaves_of_capture? (inner : PassesOver inner?)
    (read : capture? inner? cursor = some (expression, next)) (clear : cursor.Clear) :
    cursor.Leaves next ∧ ¬ Quantifier.leads cursor.rest := by
  simp only [capture?, Option.bind_eq_bind, Option.bind_eq_some_iff] at read
  obtain ⟨⟨content, last⟩, found, read⟩ := read
  obtain ⟨-, rfl⟩ := Prod.mk.inj (Option.some.inj read)
  exact leaves_of_content? inner found clear

/-- Behind its name, the content of a named group begins with no quantifier of a single character. -/
private theorem leaves_of_namedGroup? (inner : PassesOver inner?)
    (read : namedGroup? inner? cursor = some (expression, next)) (clear : cursor.Clear) :
    cursor.Leaves next ∧ ∃ name content, (∀ char ∈ name, inName char) ∧
      cursor.rest = name ++ '>' :: content ∧ ¬ Quantifier.leads content := by
  simp only [namedGroup?, Option.bind_eq_bind, Option.bind_eq_some_iff] at read
  obtain ⟨⟨name, middle⟩, named, read⟩ := read
  obtain ⟨within, split, same⟩ := name?_eq_some named
  have skims : cursor.Skims (middle.nameGroup name) := by
    have closes : Quiet ['>'] := by decide
    refine ⟨same, name ++ ['>'], (quiet_of_inName within).append closes, ?_⟩
    rw [List.append_assoc]
    exact split
  obtain ⟨leaves, notLeads⟩ := leaves_of_capture? inner read (skims.clear clear)
  exact ⟨(skims.passes clear).leaves leaves, name, _, within, split, notLeads⟩

/-- Behind its flags, the content of a group begins with no quantifier of a single character. -/
private theorem leaves_of_flagGroup? (inner : PassesOver inner?)
    (read : flagGroup? inner? cursor = some (expression, next)) (tame : cursor.Tame) :
    cursor.Leaves next ∧ ∃ (flags : Text) (ending : FlagsEnd) (behind : Text),
      (∀ char ∈ flags, char ∈ flagMarks) ∧ cursor.rest = flags ++ ending.mark :: behind ∧
        (ending = .scope → ¬ Quantifier.leads behind) := by
  simp only [flagGroup?, Option.bind_eq_bind, Option.bind_eq_some_iff] at read
  obtain ⟨⟨ending, inside⟩, found, read⟩ := read
  have taken := takesFlags_of_flags? found tame
  obtain ⟨flags, within, split⟩ := taken.covered
  have marks : Plain flagMarks := by decide
  have plain : Plain flags := fun char member => marks char (within char member)
  have behind : inside.rest <:+ cursor.rest := by
    rw [split]
    exact (List.suffix_cons _ _).trans (List.suffix_append _ _)
  cases ending with
  | setting =>
      obtain ⟨-, rfl⟩ := Prod.mk.inj (Option.some.inj read)
      refine ⟨⟨taken.clear, behind, fun closes => ?_⟩, flags, .setting, _, within, split, nofun⟩
      rw [split]
      exact .append plain (.leave closes)
  | scope =>
      simp only [Option.bind_eq_some_iff] at read
      obtain ⟨⟨content, middle⟩, found, after, closed, read⟩ := read
      obtain ⟨-, rfl⟩ := Prod.mk.inj (Option.some.inj read)
      obtain ⟨passes, notLeads⟩ := inner found taken.clear
      have leaves := passes.leaves (leaves_of_expect? closed passes.clear)
      have clear : (after.setFlags cursor.flags).Clear :=
        tame.clear.of_suffix rfl (leaves.behind.trans behind)
      refine ⟨⟨clear, leaves.behind.trans behind, fun closes => ?_⟩, flags, .scope, _, within,
        split, fun _ => notLeads⟩
      rw [split]
      exact .append plain (.plain (by decide) (leaves.closes closes))

private theorem passes_of_condition? (inner : PassesOver inner?) :
    PassesOver (condition? inner?) := by
  intro cursor next expression read clear
  unfold condition? at read
  split at read
  case h_1 => cases read
  case h_2 char rest whole =>
    have notLeads (other : char ∉ ['*', '+', '?']) : ¬ Quantifier.leads cursor.rest := by
      rw [Quantifier.leads_iff, whole]
      simpa using other
    have referred {closing : Char} (mark : char ∉ ']' :: Closes.marks)
        (quiet : closing ∉ ']' :: Closes.marks)
        (taken : relativeReference? closing (cursor.goTo rest) = some (expression, next)) :
        cursor.Passes next := by
      have opened : cursor.Skims (cursor.goTo rest) :=
        skims_of_expect? (expect?_eq_some_iff.mpr ⟨rest, whole, rfl⟩) mark
      exact (opened.trans (skims_of_relativeReference? taken quiet)).passes clear
    split at read
    case isTrue digit =>
      refine ⟨(skims_of_numberedReference? read).passes clear, notLeads fun operator => ?_⟩
      have noDigit : ['*', '+', '?'].all (!Char.isDigit ·) := by decide
      simpa [digit] using List.all_eq_true.mp noDigit char operator
    split at read
    case isTrue same =>
      subst same
      exact ⟨referred (by decide) (by decide) read, notLeads (by decide)⟩
    split at read
    case isTrue same =>
      subst same
      exact ⟨referred (by decide) (by decide) read, notLeads (by decide)⟩
    case isFalse => exact inner read clear

/-- Behind the parenthesis of its condition, a conditional closes the condition and the group around
both. -/
private theorem leaves_of_conditional? (inner : PassesOver inner?)
    (read : conditional? inner? cursor = some (expression, next)) (clear : cursor.Clear) :
    ∃ middle, cursor.Leaves middle ∧ middle.Leaves next ∧ ¬ Quantifier.leads cursor.rest := by
  simp only [conditional?, Option.bind_eq_bind, Option.bind_eq_some_iff] at read
  obtain ⟨⟨condition, first⟩, found, middle, closed, ⟨body, after⟩, inside, last, closedBody,
    read⟩ := read
  obtain ⟨passes, notLeads⟩ := passes_of_condition? inner found clear
  have toMiddle := passes.leaves (leaves_of_close? closed passes.clear)
  have overBody := (inner inside toMiddle.clear).1
  have toLast := overBody.leaves (leaves_of_close? closedBody overBody.clear)
  have same : next = last := by
    split at read
    · split at read
      · exact (Prod.mk.inj (Option.some.inj read)).2.symm
      · cases read
    · exact (Prod.mk.inj (Option.some.inj read)).2.symm
  exact ⟨middle, toMiddle, same ▸ toLast, notLeads⟩

private theorem leaves_of_marked {marks rest : Text} {wrap : Expression → Expression}
    (inner : PassesOver inner?) (quiet : Quiet marks) (split : cursor.rest = marks ++ rest)
    (read : ((content? inner? (cursor.goTo rest)).bind fun found =>
      some (wrap found.1, found.2)) = some (expression, next)) (clear : cursor.Clear) :
    cursor.Leaves next ∧ ¬ Quantifier.leads rest := by
  obtain ⟨⟨content, last⟩, found, same⟩ := Option.bind_eq_some_iff.mp read
  obtain ⟨-, rfl⟩ := Prod.mk.inj (Option.some.inj same)
  have skims : cursor.Skims (cursor.goTo rest) := ⟨rfl, marks, quiet, split⟩
  obtain ⟨leaves, notLeads⟩ := leaves_of_content? inner found (skims.clear clear)
  exact ⟨(skims.passes clear).leaves leaves, notLeads⟩

/-- The name that the tokens find in an opener ends where the name of the group ends. -/
private theorem entered_of_name {announced name content input : Text}
    (question : input.head? = some '?')
    (known : Opener.scanSpecial? input = Opener.scanName? announced (name ++ '>' :: content))
    (within : ∀ char ∈ name, inName char) (notLeads : ¬ Quantifier.leads content) :
    Entered input := by
  cases scanned : Opener.scanName? announced (name ++ '>' :: content) with
  | none => exact .of_scanSpecial?_eq_none question (known.trans scanned)
  | some scan =>
      refine .of_scanSpecial?_eq_some question (known.trans scanned) ?_
      obtain ⟨other, rest, valid, whole, rfl⟩ := Opener.scanName?_eq_some_iff.mp scanned
      have noEnd : ¬ inName '>' := by decide +kernel
      have inside : ∀ char ∈ name, decide (char ≠ '>') := fun char member =>
        decide_eq_true fun same => noEnd (same ▸ within char member)
      have otherInside : ∀ char ∈ other, decide (char ≠ '>') := fun char member =>
        decide_eq_true fun same =>
          absurd (same ▸ Opener.inName_of_isName valid char member) (by decide : ¬ Opener.inName '>')
      obtain ⟨-, rfl⟩ :=
        Text.append_stop_inj whole inside otherInside (by decide) (by decide)
      exact notLeads

/-- The flags that the tokens find in an opener end where the flags end. -/
private theorem entered_of_flags {flags behind : Text} {ending : FlagsEnd}
    (within : ∀ char ∈ flags, char ∈ flagMarks)
    (notLeads : ending = .scope → ¬ Quantifier.leads behind) :
    Entered ('?' :: (flags ++ ending.mark :: behind)) := by
  refine ⟨fun _ => rfl, fun scan scanned notSetting => ?_⟩
  obtain ⟨special, whole⟩ := (Opener.reads_scanSpecial? _ scan).mp scanned
  have noStop : flagMarks.all (· ∉ [':', ')']) := by decide
  have inside : ∀ char ∈ flags, decide (char ∉ [':', ')']) := fun char member =>
    List.all_eq_true.mp noStop char (within char member)
  have stops : ¬ decide (ending.mark ∉ [':', ')']) := by cases ending <;> decide
  have first {char : Char} {more : Text} (same : char :: more = flags ++ ending.mark :: behind) :
      char ∈ flagMarks ++ [':', ')'] := by
    cases flags with
    | nil => cases ending <;> cases same <;> decide
    | cons flag flags =>
        obtain ⟨rfl, -⟩ := List.cons.inj same
        exact List.mem_append_left _ (within _ List.mem_cons_self)
  have underScope {others : Text} (valid : ∀ char ∈ others, Opener.inFlags char)
      (same : others ++ ':' :: scan.rest = flags ++ ending.mark :: behind) :
      ¬ Quantifier.leads scan.rest := by
    have noFlag : [':', ')'].all (!Opener.inFlags ·) := by decide
    have othersInside : ∀ char ∈ others, decide (char ∉ [':', ')']) := fun char member =>
      decide_eq_true fun stop => by
        simpa [valid char member] using List.all_eq_true.mp noFlag char stop
    obtain ⟨mark, rest⟩ := Text.append_stop_inj same othersInside inside (by decide) stops
    cases ending with
    | setting => cases mark
    | scope => exact rest ▸ notLeads rfl
  cases opener : scan.value with
  | setFlags => exact absurd opener notSetting
  | group kind =>
      rw [opener] at special
      generalize scan.text = text at special whole
      cases special with
      | nonCapturing =>
          have colon : ([] : Text) ++ ':' :: scan.rest = flags ++ ending.mark :: behind := by
            simpa using whole
          exact underScope (by simp) colon
      | positiveLookahead | negativeLookahead | positiveLookbehind | negativeLookbehind | named
      | namedWithP =>
          exact absurd (first (List.cons.inj (List.cons.inj whole).2).2) (by decide)
      | @underFlags others valid =>
          refine underScope (Opener.isFlags_iff.mp valid).2 ?_
          simpa using (List.cons.inj (List.cons.inj whole).2).2

/-- Flags behind a parenthesis and a question mark free no blanks in front of a number sign. -/
private theorem tame_of_question {here : Cursor} {blanks rest : Text}
    (clear : cursor.atParenthesis.Clear)
    (free : blanks ≠ [] → cursor.flags.freeSpacing) (same : here.flags = cursor.flags)
    (split : cursor.rest = blanks ++ here.rest) (question : here.rest = '?' :: rest) :
    (here.goTo rest).Tame := by
  have behind : rest <:+ cursor.rest := by
    rw [split, question]
    exact (List.suffix_cons _ _).trans (List.suffix_append _ _)
  refine ⟨clear.legible.of_suffix (behind.trans (List.suffix_cons _ _)), ?_⟩
  by_cases sign : '#' ∈ rest
  · have unset : cursor.flags.freeSpacing = false := by
      rw [← Bool.not_eq_true]
      exact fun set => clear.noLineComment set (List.mem_cons_of_mem _ (behind.subset sign))
    have noBlanks : blanks = [] := by
      by_contra skips
      rw [free skips] at unset
      cases unset
    have opens : cursor.atParenthesis.rest = '(' :: '?' :: rest := by
      show '(' :: cursor.rest = '(' :: '?' :: rest
      rw [split, noBlanks, question, List.nil_append]
    have silent := clear.legible.noLineComment
      (List.mem_cons_of_mem _ (behind.subset sign))
    refine .inr ⟨(congrArg Flags.freeSpacing same).trans unset, fun letter => ?_⟩
    rw [opens, asksFreeSpacing, List.any_eq_false] at silent
    refine silent _ ((List.mem_tails _ _).mpr (List.suffix_refl _)) ?_
    simpa using letter
  · exact .inl sign

private theorem passes_of_group? (inner : PassesOver inner?) : PassesGroup (group? inner?) := by
  intro cursor next expression read clear
  have clearBehind : cursor.Clear := clear.of_suffix rfl (List.suffix_cons _ _)
  simp only [group?, Option.bind_eq_bind, Option.bind_eq_some_iff] at read
  obtain ⟨here, skipped, read⟩ := read
  obtain ⟨blanks, within, free, split, same⟩ := skipBlanks?_blanks skipped clearBehind
  have toHere := skims_of_skipBlanks? skipped clearBehind
  have clearHere := toHere.clear clearBehind
  have finish (leaves : here.Leaves next) (entered : Entered here.rest) :
      cursor.atParenthesis.Passes next := by
    refine ((toHere.passes clearBehind).leaves leaves).passes ?_
    cases blanks with
    | nil => exact split ▸ entered
    | cons blank blanks =>
        refine .of_not_leads fun leads => ?_
        rw [Quantifier.leads_iff, split] at leads
        have noOperator : spaces.all (· ∉ ['*', '+', '?']) := by decide
        have other := List.all_eq_true.mp noOperator blank (within blank List.mem_cons_self)
        exact of_decide_eq_true other (by simpa using leads)
  split at read
  case h_1 rest whole =>
    obtain ⟨leaves, notLeads⟩ :=
      leaves_of_marked inner (by decide : Quiet ['?', '=']) whole read clearHere
    exact finish leaves (whole ▸ .of_scanSpecial?_eq_some rfl rfl notLeads)
  case h_2 rest whole =>
    obtain ⟨leaves, notLeads⟩ :=
      leaves_of_marked inner (by decide : Quiet ['?', '!']) whole read clearHere
    exact finish leaves (whole ▸ .of_scanSpecial?_eq_some rfl rfl notLeads)
  case h_3 rest whole =>
    obtain ⟨leaves, notLeads⟩ :=
      leaves_of_marked inner (by decide : Quiet ['?', '<', '=']) whole read clearHere
    exact finish leaves (whole ▸ .of_scanSpecial?_eq_some rfl rfl notLeads)
  case h_4 rest whole =>
    obtain ⟨leaves, notLeads⟩ :=
      leaves_of_marked inner (by decide : Quiet ['?', '<', '!']) whole read clearHere
    exact finish leaves (whole ▸ .of_scanSpecial?_eq_some rfl rfl notLeads)
  case h_5 rest notAhead notNegated whole =>
    have opened : here.Skims (here.goTo rest) :=
      ⟨rfl, ['?', '<'], by decide, whole⟩
    obtain ⟨leaves, name, content, named, ends, notLeads⟩ :=
      leaves_of_namedGroup? inner read (opened.clear clearHere)
    obtain rfl : rest = name ++ '>' :: content := ends
    have known := Opener.scanSpecial?.eq_6 _ notAhead notNegated
    exact finish ((opened.passes clearHere).leaves leaves)
      (whole ▸ entered_of_name rfl known named notLeads)
  case h_6 rest whole =>
    have opened : here.Skims (here.goTo rest) :=
      ⟨rfl, ['?', 'P', '<'], by decide, whole⟩
    obtain ⟨leaves, name, content, named, ends, notLeads⟩ :=
      leaves_of_namedGroup? inner read (opened.clear clearHere)
    obtain rfl : rest = name ++ '>' :: content := ends
    exact finish ((opened.passes clearHere).leaves leaves)
      (whole ▸ entered_of_name rfl (Opener.scanSpecial?.eq_7 _) named notLeads)
  case h_7 rest whole =>
    obtain ⟨name, named, ends, same⟩ := namedReference?_eq_some read
    obtain rfl : rest = name ++ ')' :: next.rest := ends
    have announced : Quiet ['?', 'P', '='] := by decide
    exact finish (leaves_of_quiet clearHere same (announced.append (quiet_of_inName named)) whole)
      (whole ▸ .of_scanSpecial?_eq_none rfl rfl)
  case h_8 rest whole =>
    obtain ⟨leaves, -⟩ :=
      leaves_of_marked inner (by decide : Quiet ['?', '>']) whole read clearHere
    exact finish leaves (whole ▸ .of_scanSpecial?_eq_none rfl rfl)
  case h_9 rest whole =>
    have toCondition := passes_plain clearHere whole (by decide)
    have behind : rest <:+ here.rest := ⟨['?', '('], whole.symm⟩
    obtain ⟨middle, condition, body, notLeads⟩ :=
      leaves_of_conditional? inner read (clearHere.of_suffix rfl behind)
    have overCondition := condition.passes (.of_not_leads notLeads)
    exact finish ((toCondition.trans overCondition).leaves body)
      (whole ▸ .of_scanSpecial?_eq_none rfl rfl)
  case h_10 rest _ _ _ _ _ _ _ _ _ whole =>
    have tame := tame_of_question clear free toHere.flags split whole
    obtain ⟨leaves, flags, ending, behind, listed, ends, notLeads⟩ :=
      leaves_of_flagGroup? inner read tame
    obtain rfl : rest = flags ++ ending.mark :: behind := ends
    have opened : here.Skims (here.goTo (flags ++ ending.mark :: behind)) :=
      ⟨rfl, ['?'], by decide, whole⟩
    exact finish ((opened.passes clearHere).leaves leaves)
      (whole ▸ entered_of_flags listed notLeads)
  case h_11 _ _ _ _ _ _ _ _ _ _ =>
    have opened : here.Skims here.openGroup := .refl rfl rfl
    obtain ⟨leaves, notLeads⟩ := leaves_of_capture? inner read (opened.clear clearHere)
    exact finish ((opened.passes clearHere).leaves leaves) (.of_not_leads notLeads)

end Groups

theorem passes_of_expression? (depth : Nat) : PassesOver (expression? depth) := by
  induction depth with
  | zero =>
      apply passes_of_alternation?
      intro cursor next expression read
      cases read
  | succ depth ih => exact passes_of_alternation? (passes_of_group? ih)

/-- A legible pattern that can be read closes all groups that it opens, and begins with no quantifier
of a single character. -/
theorem closes_of_ofPattern? {pattern : Text}
    (read : Expression.ofPattern? pattern = some expression)
    (legible : Legible pattern) : Closes 0 pattern ∧ ¬ Quantifier.leads pattern := by
  unfold Expression.ofPattern? at read
  split at read
  case h_1 content last found =>
    split at read
    case isTrue atEnd =>
      have clear : (Cursor.start pattern).Clear := ⟨legible, nofun⟩
      obtain ⟨passes, notLeads⟩ := passes_of_expression? maxDepth found clear
      refine ⟨passes.closes ?_, notLeads⟩
      rw [List.isEmpty_iff.mp atEnd]
      exact .nil
    case isFalse => cases read
  case h_2 => cases read

end RegexProse.Syntax
