import RegexProse.Proofs.Scan.Language
import RegexProse.Proofs.Text.Trim
import RegexProse.Quantifier.Brace

/-!
# The language of bounds

A bound is digits between two runs of blanks. Between the braces stands one bound, or a comma with a
bound before it, behind it or on both sides; where a bound is left out, blanks may stand.
-/

set_option autoImplicit false

namespace RegexProse.Quantifier

open Text (Blank)

inductive Bound (number : Nat) : Text → Prop where
  | intro {before digits after : Text} :
      Blank before → digits ≠ [] → (∀ char ∈ digits, char.isDigit) →
      Text.digitsValue digits = number → number ≤ maxBound → Blank after →
      Bound number (before ++ digits ++ after)

/-- How the bounds of a quantifier are spelled. -/
inductive Bounds : Quantifier → Text → Prop where
  | exactly {count : Nat} {text : Text} : Bound count text → Bounds (.exactly count) text
  | atLeast {least : Nat} {lower blank : Text} :
      Bound least lower → Blank blank → Bounds (.atLeast least) (lower ++ ',' :: blank)
  | atMost {most : Nat} {blank upper : Text} :
      Blank blank → Bound most upper → Bounds (.between 0 most) (blank ++ ',' :: upper)
  | between {least most : Nat} {lower upper : Text} :
      Bound least lower → Bound most upper →
      Bounds (.between least most) (lower ++ ',' :: upper)

/-- What stands on one side of a comma. -/
inductive Side : Option Nat → Text → Prop where
  | blank {text : Text} : Blank text → Side none text
  | bound {number : Nat} {text : Text} : Bound number text → Side (some number) text

/-- The quantifier with two bounds of which one may be left out. -/
def ofBoth? : Option Nat → Option Nat → Option Quantifier
  | some least, none => some (.atLeast least)
  | none, some most => some (.between 0 most)
  | some least, some most => some (.between least most)
  | none, none => none

theorem bounds_iff {quantifier : Quantifier} {body : Text} :
    Bounds quantifier body ↔
      (∃ count, Bound count body ∧ quantifier = .exactly count) ∨
        ∃ lower upper least most, Side least lower ∧ Side most upper ∧
          ofBoth? least most = some quantifier ∧ body = lower ++ ',' :: upper := by
  constructor
  · intro bounds
    cases bounds with
    | exactly bound => exact .inl ⟨_, bound, rfl⟩
    | atLeast lower blank => exact .inr ⟨_, _, _, _, .bound lower, .blank blank, rfl, rfl⟩
    | atMost blank upper => exact .inr ⟨_, _, _, _, .blank blank, .bound upper, rfl, rfl⟩
    | between lower upper => exact .inr ⟨_, _, _, _, .bound lower, .bound upper, rfl, rfl⟩
  · rintro (⟨count, bound, rfl⟩ | ⟨lower, upper, least, most, first, second, both, rfl⟩)
    · exact .exactly bound
    · cases first with
      | blank blank =>
          cases second with
          | blank => cases both
          | bound spelled =>
              cases both
              exact .atMost blank spelled
      | bound spelled =>
          cases second with
          | blank blank =>
              cases both
              exact .atLeast spelled blank
          | bound other =>
              cases both
              exact .between spelled other

theorem Bound.ofNat {number : Nat} (fits : number ≤ maxBound) :
    Bound number (Text.ofNat number) := by
  obtain ⟨inhabited, digits, valued⟩ := Text.decimal?_eq_some_iff.mp (Text.decimal?_ofNat number)
  have allDigits := List.all_eq_true.mp digits
  simpa using Bound.intro Text.blank_nil inhabited allDigits valued fits Text.blank_nil

theorem bound?_eq_some_iff {text : Text} {number : Nat} :
    bound? text = some number ↔ Bound number text := by
  constructor
  · intro read
    simp only [bound?, Option.bind_eq_bind, Option.bind_eq_some_iff,
      Option.ite_none_right_eq_some, Option.some.injEq] at read
    obtain ⟨value, decimal, fits, rfl⟩ := read
    obtain ⟨inhabited, digits, valued⟩ := Text.decimal?_eq_some_iff.mp decimal
    obtain ⟨before, after, blankBefore, blankAfter, whole⟩ := Text.exists_eq_trim text
    rw [whole]
    exact .intro blankBefore inhabited (List.all_eq_true.mp digits) valued fits blankAfter
  · intro bound
    cases bound with
    | @intro before digits after blankBefore inhabited allDigits valued fits blankAfter =>
        have trimmed := Text.trim_between blankBefore (.of_isDigit allDigits) blankAfter
        have decimal : Text.decimal? digits = some number :=
          Text.decimal?_eq_some_iff.mpr ⟨inhabited, List.all_eq_true.mpr allDigits, valued⟩
        rw [bound?, trimmed, decimal]
        simp [fits]

theorem optionalBound?_eq_some_iff {text : Text} {bound : Option Nat} :
    optionalBound? text = some bound ↔ Side bound text := by
  have blank : optionalBound? text = some none ↔ Blank text := by
    rw [← Text.trim_eq_nil_iff, optionalBound?]
    split <;> simp_all
  have given (number : Nat) : optionalBound? text = some (some number) ↔ Bound number text := by
    rw [← bound?_eq_some_iff, optionalBound?]
    split
    case h_1 nothing => simp [bound?, nothing, Text.decimal?]
    case h_2 => simp
  constructor
  · intro read
    cases bound with
    | none => exact .blank (blank.mp read)
    | some number => exact .bound ((given number).mp read)
  · intro side
    cases side with
    | blank empty => exact blank.mpr empty
    | bound spelled => exact (given _).mpr spelled

/-- What a bound, or the place of one that is left out, is written with. -/
def inBound (char : Char) : Bool := Text.isBlank char || char.isDigit

private theorem Side.inBound {bound : Option Nat} {text : Text} (side : Side bound text) :
    ∀ char ∈ text, inBound char := by
  intro char member
  cases side with
  | blank blank => simp [Quantifier.inBound, blank char member]
  | bound spelled =>
      cases spelled with
      | intro blankBefore _ digits _ _ blankAfter =>
          simp only [List.mem_append] at member
          rcases member with (member | member) | member
          · simp [Quantifier.inBound, blankBefore char member]
          · simp [Quantifier.inBound, digits char member]
          · simp [Quantifier.inBound, blankAfter char member]

private theorem Side.noComma {bound : Option Nat} {text : Text} (side : Side bound text) :
    ',' ∉ text := by
  intro member
  exact absurd (side.inBound ',' member) (by decide)

private theorem ofBounds?_of_noComma {body : Text} (noComma : ',' ∉ body) :
    ofBounds? body = (bound? body).map .exactly := by
  have nothing : body.dropWhile (· ≠ ',') = [] :=
    List.dropWhile_eq_nil_iff.mpr (Text.forall_ne_of_not_mem noComma)
  rw [ofBounds?, nothing]

private theorem ofBounds?_comma {lower upper : Text} (noComma : ',' ∉ lower) :
    ofBounds? (lower ++ ',' :: upper) =
      (optionalBound? lower).bind fun least => (optionalBound? upper).bind (ofBoth? least) := by
  simp only [ofBounds?, Text.takeWhile_ne_append noComma, Text.dropWhile_ne_append noComma]
  rcases optionalBound? lower with _ | _ | least <;>
    rcases optionalBound? upper with _ | _ | most <;> rfl

/-- Bounds are read exactly as they are spelled. The first comma stands between two of them. -/
theorem ofBounds?_eq_some_iff {body : Text} {quantifier : Quantifier} :
    ofBounds? body = some quantifier ↔ Bounds quantifier body := by
  rw [bounds_iff]
  constructor
  · intro read
    by_cases comma : ',' ∈ body
    · obtain ⟨lower, upper, rfl, noComma⟩ := List.eq_append_cons_of_mem comma
      rw [ofBounds?_comma noComma] at read
      obtain ⟨least, first, read⟩ := Option.bind_eq_some_iff.mp read
      obtain ⟨most, second, both⟩ := Option.bind_eq_some_iff.mp read
      have lowerSide := optionalBound?_eq_some_iff.mp first
      have upperSide := optionalBound?_eq_some_iff.mp second
      exact .inr ⟨lower, upper, least, most, lowerSide, upperSide, both, rfl⟩
    · rw [ofBounds?_of_noComma comma] at read
      obtain ⟨count, found, rfl⟩ := Option.map_eq_some_iff.mp read
      exact .inl ⟨count, bound?_eq_some_iff.mp found, rfl⟩
  · rintro (⟨count, bound, rfl⟩ | ⟨lower, upper, least, most, first, second, both, rfl⟩)
    · rw [ofBounds?_of_noComma (Side.bound bound).noComma, bound?_eq_some_iff.mpr bound]
      rfl
    · rw [ofBounds?_comma first.noComma, optionalBound?_eq_some_iff.mpr first,
        optionalBound?_eq_some_iff.mpr second]
      exact both

/-- What the bounds of a brace quantifier are written with. -/
def inBounds (char : Char) : Bool := Text.isBlank char || char.isDigit || char = ','

theorem Bounds.inBounds {body : Text} {quantifier : Quantifier} (bounds : Bounds quantifier body) :
    ∀ char ∈ body, inBounds char := by
  have widen {char : Char} (within : inBound char) : Quantifier.inBounds char :=
    Bool.or_eq_true_iff.mpr (.inl within)
  intro char member
  obtain ⟨count, bound, rfl⟩ | ⟨lower, upper, least, most, first, second, both, rfl⟩ :=
    bounds_iff.mp bounds
  · exact widen ((Side.bound bound).inBound char member)
  · rcases List.mem_append.mp member with member | member
    · exact widen (first.inBound char member)
    · rcases List.mem_cons.mp member with rfl | member
      · decide
      · exact widen (second.inBound char member)

end RegexProse.Quantifier
