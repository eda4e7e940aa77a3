import RegexProse.Proofs.Syntax.Skimming
import RegexProse.Syntax.BracketText

/-!
# Escapes and bracket expressions in readings

An escape is a backslash, one character, and quiet text. The text that a reading takes for a bracket
expression is one for the tokens as well, unless a bracket expression within it begins with a closing
bracket.
-/

set_option autoImplicit false

namespace RegexProse

namespace Syntax

private theorem mem_plainName {name : Text} {char : Char} (mark : char ∈ ']' :: Closes.marks)
    (member : char ∈ name) : char ∈ plainName name := by
  have counts : (']' :: Closes.marks).all (fun char =>
      (char.toNat < 128 && !([' ', '_', '-'].contains char)) && char.toLower = char) := by decide
  have counted := List.all_eq_true.mp counts char mark
  rw [Bool.and_eq_true, decide_eq_true_eq] at counted
  obtain ⟨letter, lower⟩ := counted
  have kept {text : Text} (member : char ∈ text) : char ∈ nameLetters text :=
    List.mem_map.mpr ⟨char, List.mem_filter.mpr ⟨member, letter⟩, lower⟩
  unfold plainName
  split
  case h_1 first second rest =>
    split
    case isTrue leading =>
      simp only [Bool.and_eq_true, decide_eq_true_eq] at leading
      obtain ⟨⟨isFirst, isSecond⟩, -⟩ := leading
      rcases List.mem_cons.mp member with rfl | member
      · rw [isFirst] at lower
        exact absurd (lower ▸ mark) (by decide)
      · rcases List.mem_cons.mp member with rfl | member
        · rw [isSecond] at lower
          exact absurd (lower ▸ mark) (by decide)
        · exact kept member
    case isFalse => exact kept member
  case h_2 => exact kept member

theorem eq_of_splitAt? {mark text before behind : Text}
    (split : splitAt? mark text = some (before, behind)) : text = before ++ mark ++ behind := by
  fun_induction splitAt? mark text generalizing before with
  | case1 => cases split
  | case2 char rest begins =>
      obtain ⟨rfl, rfl⟩ := Prod.mk.inj (Option.some.inj split)
      obtain ⟨tail, whole⟩ := List.isPrefixOf_iff_prefix.mp begins
      rw [← whole, List.drop_left, List.nil_append]
  | case3 char rest notBegins ih =>
      obtain ⟨⟨front, tail⟩, found, same⟩ := Option.map_eq_some_iff.mp split
      obtain ⟨rfl, rfl⟩ := Prod.mk.inj same
      rw [ih found]
      rfl

/-- Whatever names there are, one of them is quiet. -/
theorem quiet_of_isListed {names : List String} {name : Text} (listed : isListed names name) :
    Quiet name := by
  intro char member mark
  obtain ⟨inside, -⟩ := Bool.and_eq_true_iff.mp listed
  have letter := List.all_eq_true.mp inside char (mem_plainName mark member)
  have noMark : (']' :: Closes.marks).all (!inPlainName ·) := by decide
  have lacks := List.all_eq_true.mp noMark char mark
  rw [letter] at lacks
  cases lacks

theorem quiet_of_isPropertyName {name : Text} (valid : isPropertyName name) : Quiet name := by
  unfold isPropertyName at valid
  split at valid
  case h_1 property value found =>
    obtain ⟨mark, isMark, split⟩ := List.exists_of_findSome?_eq_some found
    obtain ⟨_, _, named⟩ := List.any_eq_true.mp valid
    obtain ⟨ofProperty, ofValue⟩ := Bool.and_eq_true_iff.mp named
    have quietMarks : ∀ mark ∈ valueMarks, Quiet mark := by decide
    rw [eq_of_splitAt? split]
    exact ((quiet_of_isListed ofProperty).append (quietMarks mark isMark)).append
      (quiet_of_isListed ofValue)
  case h_2 => exact quiet_of_isListed valid

namespace Escape

theorem codePoint?_covers {width : Nat} {input rest : Text} {escape : Escape}
    (read : codePoint? width input = some (escape, rest)) :
    ∃ covered, Quiet covered ∧ input = covered ++ rest := by
  unfold codePoint? at read
  split at read
  case h_1 body =>
    dsimp only at read
    split at read
    case h_1 after stopped =>
      split at read
      case isTrue =>
        obtain ⟨code, -, same⟩ := Option.map_eq_some_iff.mp read
        obtain ⟨-, rfl⟩ := Prod.mk.inj same
        have digits : Quiet (body.takeWhile isHexDigit) :=
          Quiet.of_inside (by decide) fun char => List.all_eq_true.mp List.all_takeWhile char
        have closing : Quiet ['}'] := by decide
        refine ⟨'{' :: (body.takeWhile isHexDigit ++ ['}']),
          .cons (by decide) (digits.append closing), ?_⟩
        have whole := Text.eq_append_of_dropWhile stopped
        simpa using whole
      case isFalse => cases read
    case h_2 => cases read
  case h_2 =>
    dsimp only at read
    split at read
    case isTrue whole =>
      obtain ⟨code, -, same⟩ := Option.map_eq_some_iff.mp read
      obtain ⟨-, rfl⟩ := Prod.mk.inj same
      rw [Bool.and_eq_true] at whole
      have digits : Quiet (input.take width) :=
        Quiet.of_inside (by decide) fun char => List.all_eq_true.mp whole.2 char
      exact ⟨input.take width, digits, (List.take_append_drop width input).symm⟩
    case isFalse => cases read

theorem property?_covers {input rest : Text} {escape : Escape}
    (read : property? input = some (escape, rest)) :
    ∃ covered, Quiet covered ∧ input = covered ++ rest := by
  unfold property? at read
  split at read
  case h_1 => cases read
  case h_2 body =>
    split at read
    case h_1 => cases read
    case h_2 closing after stopped =>
      split at read
      case isTrue valid =>
        obtain ⟨-, rfl⟩ := Prod.mk.inj (Option.some.inj read)
        obtain rfl := Text.eq_of_dropWhile_ne stopped
        have brace : Quiet ['}'] := by decide
        refine ⟨'{' :: (body.takeWhile (· ≠ '}') ++ ['}']),
          .cons (by decide) ((quiet_of_isPropertyName valid).append brace), ?_⟩
        have whole := Text.eq_append_of_dropWhile stopped
        simpa using whole
      case isFalse => cases read
  case h_3 letter later _ =>
    split at read
    case isTrue valid =>
      obtain ⟨-, rfl⟩ := Prod.mk.inj (Option.some.inj read)
      exact ⟨[letter], quiet_of_isPropertyName valid, rfl⟩
    case isFalse => cases read

theorem read?_covers {input rest : Text} {escape : Escape}
    (read : read? input = some (escape, rest)) :
    ∃ char covered, Quiet covered ∧ input = char :: (covered ++ rest) := by
  cases input with
  | nil => cases read
  | cons char body =>
      suffices inside : ∃ covered, Quiet covered ∧ body = covered ++ rest by
        obtain ⟨covered, quiet, split⟩ := inside
        exact ⟨char, covered, quiet, congrArg (char :: ·) split⟩
      have alone {value : Escape} (taken : some (value, body) = some (escape, rest)) :
          ∃ covered, Quiet covered ∧ body = covered ++ rest := by
        obtain ⟨-, rfl⟩ := Prod.mk.inj (Option.some.inj taken)
        exact ⟨[], .nil, rfl⟩
      simp only [read?] at read
      split at read
      · exact alone read
      split at read
      · exact alone read
      split at read
      · exact alone read
      split at read
      · exact codePoint?_covers read
      split at read
      · exact codePoint?_covers read
      split at read
      · exact codePoint?_covers read
      split at read
      · exact property?_covers read
      split at read
      · exact alone read
      split at read
      · cases read
      · exact alone read

end Escape

namespace BracketText

theorem readEscape?_covers {input rest : Text} {escape : Escape}
    (read : readEscape? input = some (escape, rest)) :
    ∃ char covered, Quiet covered ∧ input = char :: (covered ++ rest) := by
  cases input with
  | nil => cases read
  | cons char body =>
      simp only [readEscape?] at read
      split at read
      · obtain ⟨-, rfl⟩ := Prod.mk.inj (Option.some.inj read)
        exact ⟨char, [], .nil, rfl⟩
      split at read
      · obtain ⟨-, rfl⟩ := Prod.mk.inj (Option.some.inj read)
        exact ⟨char, [], .nil, rfl⟩
      · exact Escape.read?_covers read

private theorem prepend_eq_some {symbols found : List Symbol} {read : Option (List Symbol × Text)}
    {rest : Text} (prepended : prepend symbols read = some (found, rest)) :
    ∃ more, read = some (more, rest) := by
  obtain ⟨⟨more, later⟩, inner, same⟩ := Option.map_eq_some_iff.mp prepended
  exact ⟨more, inner.trans (congrArg (fun rest => some (more, rest)) (Prod.mk.inj same).2)⟩

end BracketText

end Syntax

namespace Bracket

open Syntax (Quiet)

theorem Members.quiet {quiet rest : Text} (within : Quiet quiet) (members : Members rest) :
    Members (quiet ++ rest) := by
  induction quiet with
  | nil => exact members
  | cons char quiet ih =>
      obtain ⟨head, tail⟩ := List.forall_mem_cons.mp within
      have plain : char ∉ ['[', ']', '\\'] := fun mark => head (by
        simp only [Closes.marks, List.mem_cons, List.not_mem_nil, or_false] at mark ⊢
        rcases mark with rfl | rfl | rfl <;> simp)
      exact .plain plain (ih tail)

private theorem Remainder.behind_caret {depth : Nat} {later : Text}
    (remainder : Remainder depth .members ('^' :: later)) : Remainder depth .members later := by
  have inverted {inner : Text} (members : Members ('^' :: inner)) : Members inner := by
    generalize whole : '^' :: inner = text at members
    cases members with
    | nil => cases whole
    | escape => cases whole
    | nested expression =>
        have first := congrArg List.head? whole
        rw [List.head?_append, expression.head?_eq] at first
        cases first
    | plain _ members => exact (List.cons.inj whole).2 ▸ members
  generalize whole : '^' :: later = text at remainder
  cases remainder with
  | @innermost inner members =>
      cases inner with
      | nil => cases whole
      | cons first inner =>
          obtain ⟨rfl, rfl⟩ := List.cons.inj whole
          exact .innermost (inverted members)
  | @enclosed depth inner outer members remainder =>
      cases inner with
      | nil => cases whole
      | cons first inner =>
          obtain ⟨rfl, rfl⟩ := List.cons.inj whole
          exact .enclosed (inverted members) remainder

/-- What is left among members is what is left of a bracket expression that begins there, unless it
begins with a closing bracket. -/
theorem Remainder.opened {depth : Nat} {part rest : Text}
    (remainder : Remainder depth .members part)
    (noLeading : ∀ later, part ++ rest ≠ ']' :: later)
    (noCaret : ∀ later, part ++ rest ≠ '^' :: ']' :: later) : Remainder depth .opening part := by
  have notClosing : part.head? ≠ some ']' := by
    intro closing
    obtain ⟨later, rfl⟩ := List.head?_eq_some_iff.mp closing
    exact noLeading _ rfl
  by_cases caret : part.head? = some '^'
  · obtain ⟨later, rfl⟩ := List.head?_eq_some_iff.mp caret
    refine .caret (.noLeading ?_ remainder.behind_caret)
    intro closing
    obtain ⟨behind, rfl⟩ := List.head?_eq_some_iff.mp closing
    exact noCaret _ rfl
  · exact .noCaret caret (.noLeading notClosing remainder)

private theorem nestsPlainly_quiet {depth : Nat} {quiet rest : Text} (within : Quiet quiet)
    (plain : nestsPlainly depth (quiet ++ rest)) : nestsPlainly depth rest := by
  induction quiet with
  | nil => exact plain
  | cons char quiet ih =>
      obtain ⟨head, tail⟩ := List.forall_mem_cons.mp within
      simp only [Closes.marks, List.mem_cons, not_or] at head
      rw [List.cons_append, nestsPlainly.eq_8] at plain
      · exact ih tail plain
      all_goals simp_all

/-- Where no bracket expression begins with a closing bracket within another one, a reading goes as
far as the tokens do. -/
theorem remainder_of_readFrom? {depth : Nat} {input rest : Text} {symbols : List Syntax.Symbol}
    (read : Syntax.BracketText.readFrom? depth input = some (symbols, rest))
    (plain : nestsPlainly depth input) :
    ∃ part, input = part ++ rest ∧ Remainder depth .members part := by
  fun_induction Syntax.BracketText.readFrom? depth input generalizing symbols with
  | case1 | case2 => cases read
  | case3 depth input escape later found _ ih =>
      obtain ⟨more, read⟩ := Syntax.BracketText.prepend_eq_some read
      obtain ⟨char, covered, quiet, rfl⟩ := Syntax.BracketText.readEscape?_covers found
      rw [nestsPlainly] at plain
      obtain ⟨part, rfl, remainder⟩ := ih read (nestsPlainly_quiet quiet plain)
      have grown : Remainder depth .members ('\\' :: char :: covered ++ part) :=
        remainder.grow fun inner members => .escape (members.quiet quiet)
      exact ⟨_, by simp, grown⟩
  | case4 depth later ih =>
      obtain ⟨more, read⟩ := Syntax.BracketText.prepend_eq_some read
      have noLeading : ∀ behind, later ≠ ']' :: behind := by
        rintro behind rfl
        cases plain
      have noCaret : ∀ behind, later ≠ '^' :: ']' :: behind := by
        rintro behind rfl
        cases plain
      rw [nestsPlainly.eq_5 _ _ noLeading noCaret] at plain
      obtain ⟨part, rfl, remainder⟩ := ih read plain
      obtain ⟨body, behind, expression, rfl, outer⟩ :=
        (remainder.opened noLeading noCaret).splitOpening
      refine ⟨'[' :: (body ++ ']' :: behind), rfl, ?_⟩
      have grown := outer.grow fun _ => Members.nested expression
      simpa using grown
  | case5 later =>
      obtain ⟨-, rfl⟩ := Prod.mk.inj (Option.some.inj read)
      exact ⟨[']'], rfl, .innermost .nil⟩
  | case6 later outer ih =>
      obtain ⟨more, read⟩ := Syntax.BracketText.prepend_eq_some read
      rw [nestsPlainly] at plain
      obtain ⟨part, rfl, remainder⟩ := ih read plain
      exact ⟨']' :: part, rfl, .enclosed .nil remainder⟩
  | case7 depth char later notEscape notOpening notClosing ih =>
      obtain ⟨more, read⟩ := Syntax.BracketText.prepend_eq_some read
      have member : char ∉ ['[', ']', '\\'] := by
        simpa using ⟨notOpening, notClosing, notEscape⟩
      rw [nestsPlainly.eq_8 _ _ _ (fun _ _ escape => absurd escape notEscape)
        (fun _ opens => absurd opens notOpening) (fun _ opens => absurd opens notOpening)
        notOpening notClosing] at plain
      obtain ⟨part, rfl, remainder⟩ := ih read plain
      have grown : Remainder depth .members ([char] ++ part) :=
        remainder.grow fun _ => Members.plain member
      exact ⟨_, rfl, grown⟩

/-- What a reading takes for a bracket expression is one. -/
theorem expression_of_read? {input rest : Text} {symbols : List Syntax.Symbol}
    (read : Syntax.BracketText.read? input = some (symbols, rest))
    (plain : beginsPlainly ('[' :: input)) :
    ∃ body, input = body ++ rest ∧ Expression ('[' :: body) := by
  obtain ⟨more, read⟩ := Syntax.BracketText.prepend_eq_some read
  suffices opened : ∃ part, input = part ++ rest ∧ Remainder 0 .opening part by
    obtain ⟨part, rfl, remainder⟩ := opened
    obtain ⟨body, behind, expression, rfl, rfl⟩ := remainder.splitOpening
    exact ⟨body ++ [']'], rfl, expression⟩
  split at read
  case h_1 later =>
    obtain ⟨more, read⟩ := Syntax.BracketText.prepend_eq_some read
    obtain ⟨part, rfl, remainder⟩ := remainder_of_readFrom? read plain
    exact ⟨'^' :: ']' :: part, rfl, .caret (.leading remainder)⟩
  case h_2 later =>
    obtain ⟨more, read⟩ := Syntax.BracketText.prepend_eq_some read
    obtain ⟨part, rfl, remainder⟩ := remainder_of_readFrom? read plain
    exact ⟨']' :: part, rfl, .noCaret (by simp) (.leading remainder)⟩
  case h_3 noCaret noLeading =>
    rw [beginsPlainly.eq_3 _ noCaret noLeading] at plain
    obtain ⟨part, rfl, remainder⟩ := remainder_of_readFrom? read plain
    exact ⟨part, rfl, remainder.opened noLeading noCaret⟩

end Bracket

end RegexProse
