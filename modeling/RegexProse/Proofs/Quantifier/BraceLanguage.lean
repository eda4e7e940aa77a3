import RegexProse.Proofs.Quantifier.Bounds

/-!
# The language of brace quantifiers

A brace quantifier is well-formed bounds between braces. The first closing brace ends it.
-/

set_option autoImplicit false

namespace RegexProse.Quantifier

/-- How a quantifier is spelled with braces. -/
inductive Braced (quantifier : Quantifier) : Text → Prop where
  | intro {body : Text} :
      '}' ∉ body → ofBounds? body = some quantifier → Braced quantifier ('{' :: (body ++ ['}']))

theorem Braced.head?_eq {quantifier : Quantifier} {text : Text} (braced : Braced quantifier text) :
    text.head? = some '{' := by
  cases braced with
  | intro => rfl

/-- The scanner takes exactly the brace quantifiers. -/
theorem reads_scanBrace? : Scan.Reads [] scanBrace? Braced := by
  intro input scan
  constructor
  · intro scanned
    refine ⟨?_, (scanBrace?_splits scanned).append⟩
    unfold scanBrace? at scanned
    split at scanned
    case h_1 input =>
      split at scanned
      case h_1 => cases scanned
      case h_2 close rest stopped =>
        obtain ⟨quantifier, bounds, rfl⟩ := Option.map_eq_some_iff.mp scanned
        obtain rfl := Text.eq_of_dropWhile_ne stopped
        exact .intro (Text.not_mem_takeWhile_ne '}' input) bounds
    case h_2 => cases scanned
  · obtain ⟨quantifier, text, rest⟩ := scan
    intro whole
    obtain ⟨spelled, rfl⟩ := whole
    dsimp only at spelled ⊢
    cases spelled with
    | @intro body noBrace bounds =>
        have whole : '{' :: (body ++ ['}']) ++ rest = '{' :: (body ++ '}' :: rest) := by simp
        simp only [whole, scanBrace?, Text.dropWhile_ne_append noBrace,
          Text.takeWhile_ne_append noBrace, bounds, Option.map_some]

theorem braced_iff {quantifier : Quantifier} {text : Text} :
    quantifier.Braced text ↔ ∃ body, Bounds quantifier body ∧ text = '{' :: (body ++ ['}']) := by
  constructor
  · intro braced
    cases braced with
    | intro _ read => exact ⟨_, ofBounds?_eq_some_iff.mp read, rfl⟩
  · rintro ⟨body, bounds, rfl⟩
    refine .intro ?_ (ofBounds?_eq_some_iff.mpr bounds)
    intro member
    exact absurd (bounds.inBounds '}' member) (by decide)

theorem extent_scanBrace?_iff {input : Text} {quantifier : Quantifier} {length : Nat} :
    (scanBrace? input).map Scan.extent = some (quantifier, length) ↔
      ∃ body rest, Bounds quantifier body ∧ input = '{' :: (body ++ '}' :: rest) ∧
        Text.byteLength ('{' :: (body ++ ['}'])) = length := by
  refine (reads_scanBrace?.extent_eq_some_iff quantifier length).trans ?_
  simp only [braced_iff]
  constructor
  · rintro ⟨_, ⟨body, bounds, rfl⟩, ⟨rest, rfl⟩, measured⟩
    exact ⟨body, rest, bounds, by simp, measured⟩
  · rintro ⟨body, rest, bounds, rfl, measured⟩
    exact ⟨_, ⟨body, bounds, rfl⟩, ⟨rest, by simp⟩, measured⟩

theorem scanBrace?_eq_none_iff {input : Text} :
    scanBrace? input = none ↔
      ∀ quantifier body rest, Bounds quantifier body → input ≠ '{' :: (body ++ '}' :: rest) := by
  rw [reads_scanBrace?.eq_none_iff]
  constructor
  · rintro absent quantifier body rest bounds rfl
    exact absent quantifier _ (braced_iff.mpr ⟨body, bounds, rfl⟩) ⟨rest, by simp⟩
  · rintro absent quantifier text braced ⟨rest, rfl⟩
    obtain ⟨body, bounds, rfl⟩ := braced_iff.mp braced
    exact absent quantifier body rest bounds (by simp)

end RegexProse.Quantifier
