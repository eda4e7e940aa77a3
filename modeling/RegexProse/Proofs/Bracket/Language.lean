import RegexProse.Bracket
import RegexProse.Proofs.Scan.Language

/-!
# The language of bracket expressions

A bracket expression is a caret if one stands there, a closing bracket if one stands there, members,
and the bracket that closes it. A member is an escape, a bracket expression or any other character
but a bracket. The scanner takes exactly these texts.
-/

set_option autoImplicit false

namespace RegexProse.Bracket

mutual

/-- A whole bracket expression. A caret and a closing bracket in front are never members. -/
inductive Expression : Text → Prop where
  | intro {caret leading inner : Text} :
      caret = ['^'] ∨ caret = [] ∧ (leading ++ inner).head? ≠ some '^' →
      leading = [']'] ∨ leading = [] ∧ inner ≠ [] →
      Members inner → Expression ('[' :: (caret ++ leading ++ inner ++ [']']))

inductive Members : Text → Prop where
  | nil : Members []
  | escape {char : Char} {rest : Text} : Members rest → Members ('\\' :: char :: rest)
  | nested {text rest : Text} : Expression text → Members rest → Members (text ++ rest)
  | plain {char : Char} {rest : Text} :
      char ∉ ['[', ']', '\\'] → Members rest → Members (char :: rest)

end

@[simp] theorem prepend_prepend (before chars : Text) (found : Option (Text × Text)) :
    prepend before (prepend chars found) = prepend (before ++ chars) found := by
  cases found <;> simp [prepend]

@[simp] theorem prepend_nil (found : Option (Text × Text)) : prepend [] found = found := by
  cases found <;> simp [prepend]

theorem close?_plain {position : Position} {char : Char} (plain : char ∉ ['[', ']', '\\'])
    (noCaret : position = .opening → char ≠ '^') (depth : Nat) (rest : Text) :
    close? depth position (char :: rest) = prepend [char] (close? depth .members rest) := by
  simp only [List.mem_cons, List.not_mem_nil, or_false, not_or] at plain
  obtain ⟨opens, closes, escapes⟩ := plain
  rw [close?.eq_def]
  split <;> simp_all

private theorem close?_bracket (depth : Nat) (position : Position) (rest : Text) :
    close? depth position ('[' :: rest) = prepend ['['] (close? (depth + 1) .opening rest) := by
  cases position <;> simp [close?]

theorem close?_escape (depth : Nat) (position : Position) (char : Char) (rest : Text) :
    close? depth position ('\\' :: char :: rest) =
      prepend ['\\', char] (close? depth .members rest) := by
  cases position <;> simp [close?]

theorem close?_first {rest : Text} (noLeading : rest.head? ≠ some ']') (depth : Nat) :
    close? depth .first rest = close? depth .members rest := by
  cases rest with
  | nil => simp [close?]
  | cons char rest =>
      have differs : char ≠ ']' := by simpa using noLeading
      rw [close?.eq_def, close?.eq_def depth .members]
      split <;> simp_all

theorem close?_opening {rest : Text} (noCaret : rest.head? ≠ some '^') (depth : Nat) :
    close? depth .opening rest = close? depth .first rest := by
  cases rest with
  | nil => simp [close?]
  | cons char rest =>
      have differs : char ≠ '^' := by simpa using noCaret
      rw [close?.eq_def, close?.eq_def depth .first]
      split <;> simp_all

theorem Expression.head?_eq {text : Text} (expression : Expression text) :
    text.head? = some '[' := by
  cases expression with
  | intro => rfl

private theorem Members.head?_ne {inner : Text} (members : Members inner) :
    inner.head? ≠ some ']' := by
  cases members with
  | nil => simp
  | escape => simp
  | nested expression =>
      have opens := expression.head?_eq
      simp [List.head?_append, opens]
  | plain plain => simp_all

private theorem close?_leading {caret leading inner : Text}
    (carets : caret = ['^'] ∨ caret = [] ∧ (leading ++ inner).head? ≠ some '^')
    (leadings : leading = [']'] ∨ leading = [] ∧ inner ≠ []) (members : Members inner)
    (depth : Nat) (more : Text) :
    close? depth .opening (caret ++ (leading ++ (inner ++ ']' :: more))) =
      prepend (caret ++ leading) (close? depth .members (inner ++ ']' :: more)) := by
  have atFirst : close? depth .first (leading ++ (inner ++ ']' :: more)) =
      prepend leading (close? depth .members (inner ++ ']' :: more)) := by
    rcases leadings with rfl | ⟨rfl, inhabited⟩
    · simp [close?]
    · have later : (inner ++ ']' :: more).head? ≠ some ']' := by
        have notLeading := members.head?_ne
        cases inner with
        | nil => exact absurd rfl inhabited
        | cons char rest => simpa using notLeading
      rw [List.nil_append, close?_first later, prepend_nil]
  rcases carets with rfl | ⟨rfl, noCaret⟩
  · simp [close?, atFirst]
  · have later : (leading ++ (inner ++ ']' :: more)).head? ≠ some '^' := by
      cases leading <;> cases inner <;> simp_all
    rw [List.nil_append, close?_opening later, atFirst, List.nil_append]

mutual

theorem Members.close? {inner : Text} : Members inner → ∀ (depth : Nat) (more : Text),
    Bracket.close? depth .members (inner ++ more) =
      prepend inner (Bracket.close? depth .members more)
  | .nil => by
      intro depth more
      rw [List.nil_append, prepend_nil]
  | .escape members => by
      intro depth more
      rw [List.cons_append, List.cons_append, close?_escape, members.close?, prepend_prepend]
      rfl
  | .nested expression members => by
      intro depth more
      rw [List.append_assoc, expression.close?, members.close?, prepend_prepend]
  | .plain plain members => by
      intro depth more
      rw [List.cons_append, close?_plain plain (by simp), members.close?, prepend_prepend]
      rfl

theorem Expression.close? {text : Text} : Expression text → ∀ (depth : Nat) (more : Text),
    Bracket.close? depth .members (text ++ more) =
      prepend text (Bracket.close? depth .members more)
  | .intro carets leadings members => by
      intro depth more
      have opened := close?_leading carets leadings members (depth + 1) more
      rw [members.close?] at opened
      simp only [List.cons_append, List.append_assoc, List.nil_append]
      rw [close?_bracket, opened]
      simp [Bracket.close?]

end

/-- What is left to read of a bracket expression, and of the `depth` ones around it. -/
inductive Remainder : Nat → Position → Text → Prop where
  | innermost {inner : Text} : Members inner → Remainder 0 .members (inner ++ [']'])
  | enclosed {depth : Nat} {inner later : Text} :
      Members inner → Remainder depth .members later →
      Remainder (depth + 1) .members (inner ++ ']' :: later)
  | leading {depth : Nat} {later : Text} :
      Remainder depth .members later → Remainder depth .first (']' :: later)
  | noLeading {depth : Nat} {later : Text} :
      later.head? ≠ some ']' → Remainder depth .members later → Remainder depth .first later
  | caret {depth : Nat} {later : Text} :
      Remainder depth .first later → Remainder depth .opening ('^' :: later)
  | noCaret {depth : Nat} {later : Text} :
      later.head? ≠ some '^' → Remainder depth .first later → Remainder depth .opening later

/-- What stands behind a closing bracket, with `depth` expressions around it. -/
def Outside : Nat → Text → Prop
  | 0, more => more = []
  | depth + 1, more => Remainder depth .members more

/-- Among members it makes no difference which position the rest of them has. -/
theorem Remainder.at {depth : Nat} {later : Text} (remainder : Remainder depth .members later)
    (noLeading : later.head? ≠ some ']') (position : Position)
    (noCaret : position = .opening → later.head? ≠ some '^') : Remainder depth position later := by
  cases position with
  | opening => exact .noCaret (noCaret rfl) (.noLeading noLeading remainder)
  | first => exact .noLeading noLeading remainder
  | members => exact remainder

theorem Remainder.grow {depth : Nat} {later item : Text}
    (remainder : Remainder depth .members later)
    (member : ∀ inner, Members inner → Members (item ++ inner)) :
    Remainder depth .members (item ++ later) := by
  cases remainder with
  | innermost members =>
      rw [← List.append_assoc]
      exact .innermost (member _ members)
  | enclosed members outer =>
      rw [← List.append_assoc]
      exact .enclosed (member _ members) outer

theorem Remainder.split {depth : Nat} {later : Text} (remainder : Remainder depth .members later) :
    ∃ inner more, Members inner ∧ later = inner ++ ']' :: more ∧ Outside depth more := by
  cases remainder with
  | innermost members => exact ⟨_, _, members, rfl, rfl⟩
  | enclosed members outer => exact ⟨_, _, members, rfl, outer⟩

private theorem Remainder.splitFirst {depth : Nat} {later : Text}
    (remainder : Remainder depth .first later) :
    ∃ leading inner more, later = leading ++ inner ++ ']' :: more ∧
      (leading = [']'] ∨ leading = [] ∧ inner ≠ []) ∧ Members inner ∧ Outside depth more := by
  cases remainder with
  | leading remainder =>
      obtain ⟨inner, more, members, rfl, closed⟩ := remainder.split
      exact ⟨[']'], inner, more, rfl, .inl rfl, members, closed⟩
  | noLeading notLeading remainder =>
      obtain ⟨inner, more, members, rfl, closed⟩ := remainder.split
      refine ⟨[], inner, more, rfl, .inr ⟨rfl, ?_⟩, members, closed⟩
      rintro rfl
      exact notLeading rfl

theorem Remainder.splitOpening {depth : Nat} {later : Text}
    (remainder : Remainder depth .opening later) :
    ∃ body more, Expression ('[' :: (body ++ [']'])) ∧ later = body ++ ']' :: more ∧
      Outside depth more := by
  cases remainder with
  | caret remainder =>
      obtain ⟨leading, inner, more, rfl, leadings, members, closed⟩ := remainder.splitFirst
      exact ⟨['^'] ++ leading ++ inner, more, .intro (.inl rfl) leadings members, by simp, closed⟩
  | noCaret notCaret remainder =>
      obtain ⟨leading, inner, more, rfl, leadings, members, closed⟩ := remainder.splitFirst
      have carets : (leading ++ inner).head? ≠ some '^' := by
        intro caret
        exact notCaret (by rw [List.head?_append, caret]; rfl)
      exact ⟨leading ++ inner, more, .intro (.inr ⟨rfl, carets⟩) leadings members, rfl, closed⟩

/-- What the scanner takes is what was left to read. -/
theorem remainder_of_close? {depth : Nat} {position : Position} {input part rest : Text}
    (closed : close? depth position input = some (part, rest)) :
    Remainder depth position part := by
  fun_induction close? depth position input generalizing part with
  | case1 | case5 => simp at closed
  | case2 depth later ih =>
      obtain ⟨part, found, rfl⟩ := prepend_eq_some_iff.mp closed
      exact .caret (ih found)
  | case3 depth later ih =>
      obtain ⟨part, found, rfl⟩ := prepend_eq_some_iff.mp closed
      exact .noCaret (by simp) (.leading (ih found))
  | case4 depth later ih =>
      obtain ⟨part, found, rfl⟩ := prepend_eq_some_iff.mp closed
      exact .leading (ih found)
  | case6 depth position char later ih =>
      obtain ⟨part, found, rfl⟩ := prepend_eq_some_iff.mp closed
      exact ((ih found).grow fun _ => .escape).at (by simp) position (by simp)
  | case7 depth position later ih =>
      obtain ⟨part, found, rfl⟩ := prepend_eq_some_iff.mp closed
      obtain ⟨body, more, expression, rfl, outer⟩ := (ih found).splitOpening
      have grown := outer.grow fun _ => Members.nested expression
      simpa using grown.at (by simp) position (by simp)
  | case8 position later notOpening notFirst =>
      obtain ⟨rfl, rfl⟩ := Prod.mk.inj (Option.some.inj closed)
      cases position with
      | opening => exact (notOpening rfl).elim
      | first => exact (notFirst rfl).elim
      | members => exact .innermost .nil
  | case9 depth position later notOpening notFirst ih =>
      obtain ⟨part, found, rfl⟩ := prepend_eq_some_iff.mp closed
      cases position with
      | opening => exact (notOpening rfl).elim
      | first => exact (notFirst rfl).elim
      | members => exact .enclosed .nil (ih found)
  | case10 depth position char later noCaret notOpening notFirst lone escape nests inner outer ih =>
      obtain ⟨part, found, rfl⟩ := prepend_eq_some_iff.mp closed
      have notEscape : char ≠ '\\' := by
        rintro rfl
        cases later with
        | nil => exact lone rfl rfl
        | cons char later => exact escape char later rfl rfl
      have notClosing : char ≠ ']' := by
        rintro rfl
        cases depth with
        | zero => exact inner rfl rfl
        | succ depth => exact outer depth rfl rfl
      have plain : char ∉ ['[', ']', '\\'] := by
        simpa using ⟨nests, notClosing, notEscape⟩
      have grown : Remainder depth .members ([char] ++ part) :=
        (ih found).grow fun _ => Members.plain plain
      refine grown.at (by simpa using notClosing) position ?_
      intro opening
      simpa using noCaret opening

/-- The scanner takes exactly the bracket expressions. -/
theorem reads_scan? : Scan.Reads [] scan? fun _ text => Expression text := by
  intro input scan
  constructor
  · intro scanned
    refine ⟨?_, (scan?_splits scanned).append⟩
    unfold scan? at scanned
    split at scanned
    · obtain ⟨⟨body, rest⟩, closed, rfl⟩ := Option.map_eq_some_iff.mp scanned
      obtain ⟨body, more, expression, rfl, rfl⟩ := (remainder_of_close? closed).splitOpening
      exact expression
    · cases scanned
  · intro spelled
    obtain ⟨expression, rfl⟩ := spelled
    have read : scan? (scan.text ++ scan.rest) = some ⟨(), scan.text, scan.rest⟩ := by
      generalize scan.text = text at expression
      cases expression with
      | @intro caret leading inner carets leadings members =>
          have opened := close?_leading carets leadings members 0 scan.rest
          rw [members.close?] at opened
          simp [scan?, opened, close?, prepend]
    exact read

/-- The bytes that the bracket expression at the front of a text takes. -/
def length? (input : Text) : Option Nat := (scan? input).map fun scan => scan.text.byteLength

theorem length?_eq_some_iff {input : Text} {length : Nat} :
    length? input = some length ↔
      ∃ text, Expression text ∧ text <+: input ∧ text.byteLength = length := by
  refine Iff.trans ?_ (reads_scan?.extent_eq_some_iff () length)
  unfold length?
  cases scan? input <;> simp [Scan.extent]

/-- The length is that of the only bracket expression at the front of the text. Where there is no
length, no bracket expression stands there. -/
theorem length?_spec (rest : Text) :
    (∀ length, length? ('[' :: rest) = some length ↔
        ∃ text, Expression text ∧ text <+: '[' :: rest ∧
          (String.ofList text).utf8ByteSize = length) ∧
      (∀ text other, Expression text → Expression other → text <+: '[' :: rest →
        other <+: '[' :: rest → text = other) ∧
      (length? ('[' :: rest) = none ↔ ∀ text, Expression text → ¬ text <+: '[' :: rest) := by
  refine ⟨?_, ?_, ?_⟩
  · intro length
    simp only [Text.utf8ByteSize_ofList]
    exact length?_eq_some_iff
  · intro text other expression otherExpression front otherFront
    have same : () = () ∧ text = other :=
      reads_scan?.unique expression otherExpression front otherFront
    exact same.2
  · rw [length?, Option.map_eq_none_iff, reads_scan?.eq_none_iff]
    constructor
    · intro absent text
      exact absent () text
    · intro absent _ text
      exact absent text

example : length? "[^][a]\\é]b" = some 10 := by decide
example : length? "[a[b]" = none := by decide

end RegexProse.Bracket
