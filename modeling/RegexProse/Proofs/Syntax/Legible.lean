import Mathlib.Data.List.Infix
import RegexProse.Proofs.Group.Closing
import RegexProse.Syntax.Cursor

/-!
# Legible texts

Texts in which the tokens show the groups that a reading of the expression finds. Comments hide
characters from a reading, but not from the tokens; and the two differ on brackets that stand first
in a bracket expression within another one. A text in which no characters look like either is
legible, and what a reading passes over in it closes its groups. The condition looks at bare
characters, so it also leaves out texts on which the two agree, such as `[(?#]`, `(?x)[#]` and
`\[[]b]`.
-/

set_option autoImplicit false

namespace RegexProse

/-- Up to the bracket that balances the first one, where `depth` more are open, no bracket expression
begins with a closing bracket. -/
def Bracket.nestsPlainly (depth : Nat) : Text → Bool
  | [] => true
  | '\\' :: _ :: rest => nestsPlainly depth rest
  | '[' :: ']' :: _ | '[' :: '^' :: ']' :: _ => false
  | '[' :: rest => nestsPlainly (depth + 1) rest
  | ']' :: rest =>
    match depth with
    | 0 => true
    | outer + 1 => nestsPlainly outer rest
  | _ :: rest => nestsPlainly depth rest

/-- Within the bracket expression at the front of the text, if one stands there, no bracket
expression begins with a closing bracket. -/
def Bracket.beginsPlainly : Text → Bool
  | '[' :: '^' :: ']' :: rest | '[' :: ']' :: rest | '[' :: rest => nestsPlainly 0 rest
  | _ => true

namespace Syntax

/-- Flags begin in the text that hold the flag for free spacing. -/
def asksFreeSpacing (text : Text) : Bool :=
  text.tails.any fun tail =>
    ("(?" : Text).isPrefixOf tail && ((tail.drop 2).takeWhile Opener.inFlags).contains 'x'

/-- The tokens of the text show what a reading of it finds: nowhere in it, be it escaped or in a
bracket expression, stand the characters that begin a comment in parentheses; it has no number sign,
or nowhere flags that ask for free spacing; and behind no opening bracket, be it escaped or within
another bracket expression, is there one that begins with a closing bracket. This is enough, but not
all of it is needed. -/
structure Legible (text : Text) : Prop where
  noComment : ¬ ("(?#" : Text) <:+: text
  noLineComment : '#' ∈ text → asksFreeSpacing text = false
  plainBrackets : ∀ tail ∈ text.tails, Bracket.beginsPlainly tail

instance (text : Text) : Decidable (Legible text) :=
  decidable_of_iff (¬ ("(?#" : Text) <:+: text ∧ ('#' ∈ text → asksFreeSpacing text = false) ∧
      ∀ tail ∈ text.tails, Bracket.beginsPlainly tail)
    ⟨fun ⟨comment, line, brackets⟩ => ⟨comment, line, brackets⟩,
      fun legible => ⟨legible.noComment, legible.noLineComment, legible.plainBrackets⟩⟩

private theorem asksFreeSpacing_of_suffix {text tail : Text} (behind : tail <:+ text)
    (asks : asksFreeSpacing tail) : asksFreeSpacing text := by
  obtain ⟨flags, member, found⟩ := List.any_eq_true.mp asks
  have later : flags ∈ text.tails :=
    (List.mem_tails _ _).mpr (((List.mem_tails _ _).mp member).trans behind)
  exact List.any_eq_true.mpr ⟨flags, later, found⟩

theorem Legible.of_suffix {text tail : Text} (legible : Legible text) (behind : tail <:+ text) :
    Legible tail where
  noComment comment := legible.noComment (comment.trans behind.isInfix)
  noLineComment member := by
    have silent := legible.noLineComment (behind.subset member)
    rw [← Bool.not_eq_true] at silent ⊢
    exact fun asks => silent (asksFreeSpacing_of_suffix behind asks)
  plainBrackets later member :=
    legible.plainBrackets later
      ((List.mem_tails _ _).mpr (((List.mem_tails _ _).mp member).trans behind))

/-- The text in front of the cursor is legible under the flags that are set. -/
structure Cursor.Clear (cursor : Cursor) : Prop where
  legible : Legible cursor.rest
  noLineComment : cursor.flags.freeSpacing → '#' ∉ cursor.rest

/-- The characters that have no meaning of their own in the structure of a text, within brackets and
outside. -/
def Quiet (text : Text) : Prop := ∀ char ∈ text, char ∉ ']' :: Closes.marks

namespace Quiet

instance (text : Text) : Decidable (Quiet text) :=
  decidable_of_iff (text.all (· ∉ ']' :: Closes.marks)) (by simp [Quiet])

variable {text more : Text}

theorem nil : Quiet [] := by decide

theorem plain (quiet : Quiet text) : Plain text :=
  fun char member mark => quiet char member (List.mem_cons_of_mem _ mark)

theorem append (first : Quiet text) (second : Quiet more) : Quiet (text ++ more) :=
  fun char member => (List.mem_append.mp member).elim (first char) (second char)

theorem cons {char : Char} (head : char ∉ ']' :: Closes.marks) (tail : Quiet text) :
    Quiet (char :: text) :=
  List.forall_mem_cons.mpr ⟨head, tail⟩

theorem of_inside {inside : Char → Bool} (outside : (']' :: Closes.marks).all (!inside ·))
    (within : ∀ char ∈ text, inside char) : Quiet text := by
  intro char member mark
  simpa [within char member] using List.all_eq_true.mp outside char mark

end Quiet

/-- The reading took text that is quiet, and left the flags as they were. -/
structure Cursor.Skims (cursor next : Cursor) : Prop where
  flags : next.flags = cursor.flags
  covered : ∃ covered, Quiet covered ∧ cursor.rest = covered ++ next.rest

/-- The reading took text that closes the groups which it opens, and what is left is clear. -/
structure Cursor.Passes (cursor next : Cursor) : Prop where
  clear : next.Clear
  behind : next.rest <:+ cursor.rest
  closes {depth : Nat} : Closes depth next.rest → Closes depth cursor.rest

namespace Cursor

variable {cursor next last : Cursor}

theorem Clear.of_suffix (clear : cursor.Clear) (same : next.flags = cursor.flags)
    (behind : next.rest <:+ cursor.rest) : next.Clear where
  legible := clear.legible.of_suffix behind
  noLineComment free member :=
    clear.noLineComment (by rwa [same] at free) (behind.subset member)

theorem Skims.refl (same : next.flags = cursor.flags) (rest : next.rest = cursor.rest) :
    cursor.Skims next :=
  ⟨same, [], .nil, rest.symm⟩

theorem Skims.trans (first : cursor.Skims next) (second : next.Skims last) :
    cursor.Skims last := by
  obtain ⟨front, quietFront, split⟩ := first.covered
  obtain ⟨back, quietBack, rest⟩ := second.covered
  exact ⟨second.flags.trans first.flags, front ++ back, quietFront.append quietBack,
    by rw [split, rest, List.append_assoc]⟩

theorem Skims.behind (skims : cursor.Skims next) : next.rest <:+ cursor.rest := by
  obtain ⟨covered, -, split⟩ := skims.covered
  exact ⟨covered, split.symm⟩

theorem Skims.clear (skims : cursor.Skims next) (clear : cursor.Clear) : next.Clear :=
  clear.of_suffix skims.flags skims.behind

theorem Skims.passes (skims : cursor.Skims next) (clear : cursor.Clear) : cursor.Passes next where
  clear := skims.clear clear
  behind := skims.behind
  closes closes := by
    obtain ⟨covered, quiet, split⟩ := skims.covered
    rw [split]
    exact closes.append quiet.plain

theorem Passes.refl (clear : cursor.Clear) : cursor.Passes cursor :=
  ⟨clear, List.suffix_refl _, id⟩

theorem Passes.trans (first : cursor.Passes next) (second : next.Passes last) :
    cursor.Passes last :=
  ⟨second.clear, second.behind.trans first.behind, fun closes =>
    first.closes (second.closes closes)⟩

/-- The characters that free spacing lets a reading skip. -/
def spaces : List Char := [' ', '\r', '\n', '\t']

private theorem skip?_blanks {freeSpacing : Bool} {input rest : Text}
    (skipped : skip? freeSpacing .blanks input = some rest)
    (noComment : ¬ ("(?#" : Text) <:+: input) (noLineComment : freeSpacing → '#' ∉ input) :
    ∃ blanks, (∀ char ∈ blanks, char ∈ spaces) ∧ (blanks ≠ [] → freeSpacing) ∧
      input = blanks ++ rest := by
  induction input with
  | nil =>
      obtain rfl := Option.some.inj skipped
      exact ⟨[], nofun, nofun, rfl⟩
  | cons char input ih =>
      have later : ¬ ("(?#" : Text) <:+: input := fun comment =>
        noComment (comment.trans (List.suffix_cons char input).isInfix)
      have notComment : ∀ more, char = '(' → input = '?' :: '#' :: more → False := by
        rintro more rfl rfl
        exact noComment ⟨[], more, rfl⟩
      rw [skip?.eq_2 _ _ _ notComment] at skipped
      split at skipped
      case isTrue lineComment =>
        simp only [Bool.and_eq_true, decide_eq_true_eq] at lineComment
        obtain ⟨free, rfl⟩ := lineComment
        exact absurd List.mem_cons_self (noLineComment free)
      split at skipped
      case isTrue blank =>
        simp only [Bool.and_eq_true, List.contains_iff_mem] at blank
        obtain ⟨blanks, within, -, rfl⟩ := ih skipped later fun free member =>
          noLineComment free (List.mem_cons_of_mem _ member)
        exact ⟨char :: blanks, List.forall_mem_cons.mpr ⟨blank.2, within⟩, fun _ => blank.1, rfl⟩
      case isFalse =>
        obtain rfl := Option.some.inj skipped
        exact ⟨[], nofun, nofun, rfl⟩

theorem skipBlanks?_blanks (skipped : cursor.skipBlanks? = some next) (clear : cursor.Clear) :
    ∃ blanks, (∀ char ∈ blanks, char ∈ spaces) ∧ (blanks ≠ [] → cursor.flags.freeSpacing) ∧
      cursor.rest = blanks ++ next.rest ∧ next = cursor.goTo next.rest := by
  obtain ⟨rest, found, rfl⟩ := Option.map_eq_some_iff.mp skipped
  obtain ⟨blanks, within, free, split⟩ :=
    skip?_blanks found clear.legible.noComment clear.noLineComment
  exact ⟨blanks, within, free, split, rfl⟩

theorem skims_of_skipBlanks? (skipped : cursor.skipBlanks? = some next) (clear : cursor.Clear) :
    cursor.Skims next := by
  obtain ⟨blanks, within, -, split, same⟩ := skipBlanks?_blanks skipped clear
  have quiet : Quiet spaces := by decide
  exact ⟨same ▸ rfl, blanks, fun char member => quiet char (within char member), split⟩

end Cursor

end Syntax

end RegexProse
