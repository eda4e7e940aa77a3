import Mathlib.Data.List.Forall2
import RegexProse.Proofs.Scan.Language
import RegexProse.Quantifier.Run

/-!
# Words of quantifiers

No two quantifiers have the same phrase, and a phrase shows where it ends. So the words for a run
tell its quantifiers, in their order and with the lazy ones among them, however long the run is.
-/

set_option autoImplicit false

namespace RegexProse

namespace Text

theorem exists_ofNat_eq (number : Nat) :
    ∃ digit digits, ofNat number = digit :: digits ∧ digit.isDigit := by
  have within : ∀ char ∈ ofNat number, char.isDigit := isDigit_of_mem_ofNat
  cases written : ofNat number with
  | nil => exact absurd written Nat.toDigits_ne_nil
  | cons digit digits =>
      have isDigit : digit.isDigit := by
        apply within
        rw [written]
        exact List.mem_cons_self
      exact ⟨digit, digits, rfl, isDigit⟩

private theorem ofNat_append_ne {letter : Char} (noDigit : ¬ letter.isDigit) (number : Nat)
    (rest more : Text) : ofNat number ++ rest ≠ letter :: more := by
  obtain ⟨digit, digits, written, isDigit⟩ := exists_ofNat_eq number
  intro same
  rw [written] at same
  exact noDigit ((List.cons.inj same).1 ▸ isDigit)

/-- A number ends where no digit follows. -/
private theorem ofNat_append_inj {left right : Nat} {stop other : Char} {rest more : Text}
    (same : ofNat left ++ stop :: rest = ofNat right ++ other :: more) (stops : ¬ stop.isDigit)
    (otherStops : ¬ other.isDigit) : left = right ∧ rest = more := by
  obtain ⟨rfl, rfl⟩ :=
    append_stop_inj same isDigit_of_mem_ofNat isDigit_of_mem_ofNat stops otherStops
  exact ⟨ofNat_injective (List.append_cancel_right same), rfl⟩

end Text

namespace Quantifier

/-- A text begins with one phrase at most. -/
theorem phrase_append_inj {left right : Quantifier} {rest more : Text}
    (same : left.phrase ++ rest = right.phrase ++ more) : left = right ∧ rest = more := by
  unfold phrase at same
  cases left <;> cases right <;>
    simp only [String.reduceToList, List.append_assoc, List.cons_append, List.nil_append,
      List.cons.injEq, Char.reduceEq, true_and, false_and] at same
  case zeroOrMore.zeroOrMore | oneOrMore.oneOrMore | zeroOrOne.zeroOrOne => exact ⟨rfl, same⟩
  case exactly.exactly count other =>
    obtain ⟨rfl, behind⟩ := Text.ofNat_append_inj same (by decide) (by decide)
    simp only [List.cons.injEq, true_and] at behind
    exact ⟨rfl, behind⟩
  case atLeast.atLeast least other =>
    obtain ⟨rfl, behind⟩ := Text.ofNat_append_inj same (by decide) (by decide)
    simp only [List.cons.injEq, true_and] at behind
    exact ⟨rfl, behind⟩
  case between.between least most other others =>
    obtain ⟨rfl, upper⟩ := Text.ofNat_append_inj same (by decide) (by decide)
    simp only [List.cons.injEq, true_and] at upper
    obtain ⟨rfl, behind⟩ := Text.ofNat_append_inj upper (by decide) (by decide)
    simp only [List.cons.injEq, true_and] at behind
    exact ⟨rfl, behind⟩
  case atLeast.zeroOrMore | atLeast.oneOrMore | atLeast.zeroOrOne | atLeast.exactly |
      atLeast.between =>
    exact absurd same (Text.ofNat_append_ne (by decide) _ _ _)
  case zeroOrMore.atLeast | oneOrMore.atLeast | zeroOrOne.atLeast | exactly.atLeast |
      between.atLeast =>
    exact absurd same.symm (Text.ofNat_append_ne (by decide) _ _ _)

private theorem phrase_append_ne_paren (quantifier : Quantifier) (rest more : Text) :
    quantifier.phrase ++ rest ≠ '(' :: more := by
  unfold phrase
  cases quantifier with
  | atLeast least =>
      dsimp only
      rw [List.append_assoc]
      exact Text.ofNat_append_ne (by decide) least _ more
  | _ => simp [String.reduceToList]

/-- Whether the quantifier makes the one before it lazy, if one that may be lazy stands there. -/
def marksLazy (greedyBefore : Bool) (quantifier : Quantifier) : Bool :=
  greedyBefore && quantifier = .zeroOrOne

/-- What a quantifier adds to a description. -/
def addition (greedyBefore : Bool) (quantifier : Quantifier) : Text :=
  if marksLazy greedyBefore quantifier then " (lazy)" else ' ' :: quantifier.phrase

/-- What quantifiers in a row add to a description. -/
def additions (greedyBefore : Bool) : List Quantifier → Text
  | [] => []
  | quantifier :: rest =>
    addition greedyBefore quantifier ++ additions (!marksLazy greedyBefore quantifier) rest

private theorem addition_append_inj {greedyBefore : Bool} {left right : Quantifier}
    {rest more : Text}
    (same : addition greedyBefore left ++ rest = addition greedyBefore right ++ more) :
    left = right ∧ rest = more := by
  unfold addition at same
  by_cases marks : marksLazy greedyBefore left
  · by_cases otherMarks : marksLazy greedyBefore right
    · rw [if_pos marks, if_pos otherMarks] at same
      simp only [marksLazy, Bool.and_eq_true, decide_eq_true_eq] at marks otherMarks
      exact ⟨marks.2.trans otherMarks.2.symm, List.append_cancel_left same⟩
    · rw [if_pos marks, if_neg otherMarks] at same
      exact absurd (List.cons.inj same).2.symm (phrase_append_ne_paren right more _)
  · by_cases otherMarks : marksLazy greedyBefore right
    · rw [if_neg marks, if_pos otherMarks] at same
      exact absurd (List.cons.inj same).2 (phrase_append_ne_paren left rest _)
    · rw [if_neg marks, if_neg otherMarks] at same
      exact phrase_append_inj (List.cons.inj same).2

private theorem addition_ne_nil (greedyBefore : Bool) (quantifier : Quantifier) :
    addition greedyBefore quantifier ≠ [] := by
  unfold addition
  split <;> simp

private theorem additions_inj {greedyBefore : Bool} {left right : List Quantifier}
    (same : additions greedyBefore left = additions greedyBefore right) : left = right := by
  induction left generalizing greedyBefore right with
  | nil =>
      cases right with
      | nil => rfl
      | cons quantifier right =>
          have nothing := (List.append_eq_nil_iff.mp same.symm).1
          exact absurd nothing (addition_ne_nil greedyBefore quantifier)
  | cons quantifier left ih =>
      cases right with
      | nil =>
          have nothing := (List.append_eq_nil_iff.mp same).1
          exact absurd nothing (addition_ne_nil greedyBefore quantifier)
      | cons other right =>
          obtain ⟨rfl, later⟩ := addition_append_inj same
          rw [ih later]

end Quantifier

namespace QuantifierRun

/-- The tokens of a run are these quantifiers. The one for none or one is always the question mark,
any other may be spelled in any way. -/
def Denotes (run : List Token) (quantifiers : List Quantifier) : Prop :=
  List.Forall₂ (fun token quantifier =>
    token.kind = .quantifier quantifier ∧ (quantifier = .zeroOrOne → token.text = ['?']))
    run quantifiers

private theorem wordsAfter_eq_additions {run : List Token} {quantifiers : List Quantifier}
    (denotes : Denotes run quantifiers) (greedyBefore : Bool) :
    wordsAfter greedyBefore run = Quantifier.additions greedyBefore quantifiers := by
  induction denotes generalizing greedyBefore with
  | nil => rfl
  | @cons token quantifier run quantifiers agrees _ ih =>
      obtain ⟨kind, question⟩ := agrees
      have marker : token.isLazyMarker = decide (quantifier = .zeroOrOne) := by
        by_cases optional : quantifier = .zeroOrOne
        · simp [Token.isLazyMarker, kind, optional, question optional]
        · simp [Token.isLazyMarker, kind, optional]
      rw [wordsAfter, marker, Token.quantifier?_of_kind kind, Quantifier.additions, ← ih,
        Quantifier.addition, Quantifier.marksLazy]
      by_cases marks : greedyBefore && decide (quantifier = .zeroOrOne)
      · simp only [marks, if_true, Bool.not_true]
      · simp only [marks, Bool.false_eq_true, if_false, Bool.not_false]

/-- The words for a run tell its quantifiers, and the phrase of a quantifier tells that one. -/
theorem words_eq_iff {left right : List Token} {quantifiers others : List Quantifier}
    (denotes : Denotes left quantifiers) (otherDenotes : Denotes right others) :
    (words left = words right ↔ quantifiers = others) ∧
      ∀ quantifier other : Quantifier, quantifier.phrase = other.phrase ↔ quantifier = other := by
  constructor
  · rw [words, words, wordsAfter_eq_additions denotes, wordsAfter_eq_additions otherDenotes]
    exact ⟨Quantifier.additions_inj, fun same => same ▸ rfl⟩
  · intro quantifier other
    constructor
    · intro same
      have ended : quantifier.phrase ++ [] = other.phrase ++ [] := by rw [same]
      exact (Quantifier.phrase_append_inj ended).1
    · intro same
      rw [same]

/-- Bounds from none to one are no question mark, and so never make a quantifier lazy. -/
theorem words_ne_bounds :
    let plus : Token := ⟨.quantifier .oneOrMore, "+", 1⟩
    let question : Token := ⟨.quantifier .zeroOrOne, "?", 2⟩
    let bounds : Token := ⟨.quantifier (.between 0 1), "\x7b,1\x7d", 2⟩
    Denotes [plus, question, question] [.oneOrMore, .zeroOrOne, .zeroOrOne] ∧
      Denotes [plus, bounds, question] [.oneOrMore, .between 0 1, .zeroOrOne] ∧
      words [plus, question, question] ≠ words [plus, bounds, question] := by
  intro plus question bounds
  have left : Denotes [plus, question, question] [.oneOrMore, .zeroOrOne, .zeroOrOne] :=
    .cons ⟨rfl, nofun⟩ (.cons ⟨rfl, fun _ => rfl⟩ (.cons ⟨rfl, fun _ => rfl⟩ .nil))
  have right : Denotes [plus, bounds, question] [.oneOrMore, .between 0 1, .zeroOrOne] :=
    .cons ⟨rfl, nofun⟩ (.cons ⟨rfl, nofun⟩ (.cons ⟨rfl, fun _ => rfl⟩ .nil))
  refine ⟨left, right, fun same => ?_⟩
  exact absurd ((words_eq_iff left right).1.mp same) (by decide)

end QuantifierRun

end RegexProse
