import RegexProse.Proofs.Bracket.Language
import RegexProse.Proofs.Group.OpenerLanguage
import RegexProse.Quantifier.Basic

/-!
# Texts that close their groups

A text as parentheses, escapes, bracket expressions and other characters. It closes every group that
it opens, and as many more as are open before it; behind an opener stands no quantifier of a single
character, but for the question mark of an opener that is not known.
-/

set_option autoImplicit false

namespace RegexProse

/-- The text begins with a quantifier of a single character. -/
def Quantifier.leads (text : Text) : Bool := (text.head?.bind Quantifier.ofChar?).isSome

theorem Quantifier.leads_iff {text : Text} :
    leads text ↔ text.head? = some '*' ∨ text.head? = some '+' ∨ text.head? = some '?' := by
  cases text with
  | nil => simp [leads]
  | cons char rest =>
      simp only [leads, List.head?_cons, Option.bind_some, Option.some.injEq]
      unfold ofChar?
      split <;> simp_all

theorem Quantifier.leads_append {text : Text} (leads : Quantifier.leads text) (more : Text) :
    (text ++ more).head? = text.head? := by
  cases text with
  | nil => cases leads
  | cons char rest => rfl

/-- What may stand behind an opening parenthesis. -/
structure Entered (input : Text) : Prop where
  bare : Quantifier.leads input → input.head? = some '?'
  special : ∀ scan, Opener.scanSpecial? input = some scan → scan.value ≠ .setFlags →
    ¬ Quantifier.leads scan.rest

private theorem Opener.scanSpecial?_eq_none {input : Text} (noQuestion : input.head? ≠ some '?') :
    scanSpecial? input = none := by
  unfold scanSpecial?
  split <;> simp_all

theorem Entered.of_not_leads {input : Text} (noQuantifier : ¬ Quantifier.leads input) :
    Entered input := by
  refine ⟨fun leads => absurd leads noQuantifier, fun scan scanned => ?_⟩
  have noQuestion : input.head? ≠ some '?' := fun question =>
    noQuantifier (Quantifier.leads_iff.mpr (.inr (.inr question)))
  rw [Opener.scanSpecial?_eq_none noQuestion] at scanned
  cases scanned

theorem Entered.of_scanSpecial?_eq_none {input : Text} (question : input.head? = some '?')
    (unknown : Opener.scanSpecial? input = none) : Entered input := by
  refine ⟨fun _ => question, fun scan scanned => ?_⟩
  rw [unknown] at scanned
  cases scanned

theorem Entered.of_scanSpecial?_eq_some {input : Text} {scan : Scan Opener}
    (question : input.head? = some '?') (known : Opener.scanSpecial? input = some scan)
    (noQuantifier : ¬ Quantifier.leads scan.rest) : Entered input := by
  refine ⟨fun _ => question, fun other scanned _ => ?_⟩
  obtain rfl := Option.some.inj (known.symm.trans scanned)
  exact noQuantifier

/-- The characters that are more than one character in a row of them. -/
def Closes.marks : List Char := ['\\', '[', '(', ')']

/-- The text is characters in a row, without marks. -/
def Plain (text : Text) : Prop := ∀ char ∈ text, char ∉ Closes.marks

namespace Plain

instance (text : Text) : Decidable (Plain text) :=
  decidable_of_iff (text.all (· ∉ Closes.marks)) (by simp [Plain])

variable {text more : Text}

theorem append (first : Plain text) (second : Plain more) : Plain (text ++ more) :=
  fun char member => (List.mem_append.mp member).elim (first char) (second char)

theorem cons {char : Char} (head : char ∉ Closes.marks) (tail : Plain text) :
    Plain (char :: text) :=
  List.forall_mem_cons.mpr ⟨head, tail⟩

theorem of_inside {inside : Char → Bool} (outside : Closes.marks.all (!inside ·))
    (within : ∀ char ∈ text, inside char) : Plain text := by
  intro char member mark
  simpa [within char member] using List.all_eq_true.mp outside char mark

end Plain

/-- The text closes the groups that it opens, and `depth` more. -/
inductive Closes : Nat → Text → Prop where
  | nil : Closes 0 []
  | plain {depth : Nat} {char : Char} {rest : Text} :
      char ∉ Closes.marks → Closes depth rest → Closes depth (char :: rest)
  | escape {depth : Nat} {char : Char} {rest : Text} :
      Closes depth rest → Closes depth ('\\' :: char :: rest)
  | bracket {depth : Nat} {text rest : Text} :
      Bracket.Expression text → Closes depth rest → Closes depth (text ++ rest)
  | enter {depth : Nat} {rest : Text} :
      Entered rest → Closes (depth + 1) rest → Closes depth ('(' :: rest)
  | leave {depth : Nat} {rest : Text} : Closes depth rest → Closes (depth + 1) (')' :: rest)

namespace Closes

variable {depth : Nat} {rest : Text}

private theorem not_bracket {char : Char} {text more : Text} (notBracket : char ≠ '[')
    (expression : Bracket.Expression text) : text ++ more ≠ char :: rest := by
  intro whole
  have first := congrArg List.head? whole
  rw [List.head?_append, expression.head?_eq] at first
  exact notBracket (Option.some.inj first).symm

theorem of_nil (closes : Closes depth []) : depth = 0 := by
  generalize whole : ([] : Text) = text at closes
  cases closes with
  | nil => rfl
  | bracket expression =>
      have first := expression.head?_eq
      rw [(List.append_eq_nil_iff.mp whole.symm).1] at first
      cases first
  | plain | escape | enter | leave => cases whole

theorem of_plain {char : Char} (plain : char ∉ marks)
    (closes : Closes depth (char :: rest)) : Closes depth rest := by
  simp only [marks, List.mem_cons, List.not_mem_nil, or_false, not_or] at plain
  obtain ⟨notEscape, notBracket, notEnter, notLeave⟩ := plain
  generalize whole : char :: rest = text at closes
  cases closes with
  | nil => cases whole
  | plain _ closes => exact (List.cons.inj whole).2 ▸ closes
  | escape => exact absurd (List.cons.inj whole).1 notEscape
  | bracket expression => exact absurd whole.symm (not_bracket notBracket expression)
  | enter => exact absurd (List.cons.inj whole).1 notEnter
  | leave => exact absurd (List.cons.inj whole).1 notLeave

theorem of_escape (closes : Closes depth ('\\' :: rest)) :
    ∃ char more, rest = char :: more ∧ Closes depth more := by
  generalize whole : '\\' :: rest = text at closes
  cases closes with
  | plain plain => cases whole; simp [marks] at plain
  | escape closes => cases whole; exact ⟨_, _, rfl, closes⟩
  | bracket expression => exact absurd whole.symm (not_bracket (by decide) expression)
  | nil | enter | leave => cases whole

theorem of_bracket (closes : Closes depth ('[' :: rest)) :
    ∃ text more, Bracket.Expression text ∧ '[' :: rest = text ++ more ∧ Closes depth more := by
  generalize whole : '[' :: rest = text at closes
  cases closes with
  | plain plain => cases whole; simp [marks] at plain
  | bracket expression closes => exact ⟨_, _, expression, rfl, closes⟩
  | nil | escape | enter | leave => cases whole

theorem of_enter (closes : Closes depth ('(' :: rest)) :
    Entered rest ∧ Closes (depth + 1) rest := by
  generalize whole : '(' :: rest = text at closes
  cases closes with
  | plain plain => cases whole; simp [marks] at plain
  | bracket expression => exact absurd whole.symm (not_bracket (by decide) expression)
  | enter entered closes => cases whole; exact ⟨entered, closes⟩
  | nil | escape | leave => cases whole

theorem of_leave (closes : Closes depth (')' :: rest)) :
    ∃ outer, depth = outer + 1 ∧ Closes outer rest := by
  generalize whole : ')' :: rest = text at closes
  cases closes with
  | plain plain => cases whole; simp [marks] at plain
  | bracket expression => exact absurd whole.symm (not_bracket (by decide) expression)
  | leave closes => cases whole; exact ⟨_, rfl, closes⟩
  | nil | escape | enter => cases whole

theorem append {covered : Text} (plain : Plain covered) (closes : Closes depth rest) :
    Closes depth (covered ++ rest) := by
  induction covered with
  | nil => exact closes
  | cons char covered ih =>
      obtain ⟨head, tail⟩ := List.forall_mem_cons.mp plain
      exact .plain head (ih tail)

theorem of_append {covered : Text} (plain : Plain covered)
    (closes : Closes depth (covered ++ rest)) : Closes depth rest := by
  induction covered with
  | nil => exact closes
  | cons char covered ih =>
      obtain ⟨head, tail⟩ := List.forall_mem_cons.mp plain
      exact ih tail (closes.of_plain head)

end Closes

end RegexProse
