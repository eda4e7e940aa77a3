import RegexProse.Proofs.Token.Agreement

/-!
# Words for bracket expressions

The words for a bracket expression tell its characters, but for one ambiguity: the complement of a
named range is explained by the same words as the complement of the characters of which its name
consists.
-/

set_option autoImplicit false

namespace RegexProse

namespace Description

variable {body other member : Text}

theorem mem_namedRanges (found : namedRanges.lookup body = some member) :
    (body, member) ∈ namedRanges := by
  obtain ⟨before, after, whole, -⟩ := List.lookup_eq_some_iff.mp found
  rw [whole]
  exact List.mem_append_right before List.mem_cons_self

private theorem eq_of_mem_namedRanges (named : (body, member) ∈ namedRanges)
    (alsoNamed : (other, member) ∈ namedRanges) : body = other := by
  have distinct : ∀ left ∈ namedRanges, ∀ right ∈ namedRanges, left.2 = right.2 →
      left.1 = right.1 := by decide
  exact distinct _ named _ alsoNamed rfl

/-- The name of no range begins like the words for a body that is spelled out, or like those for a
complement. -/
private theorem head?_of_mem_namedRanges (named : (body, member) ∈ namedRanges) :
    member.head? ∉ [some 'o', some 'c'] := by
  have each : ∀ range ∈ namedRanges, range.2.head? ∉ [some 'o', some 'c'] := by decide
  exact each _ named

theorem bodyWords_named (found : namedRanges.lookup body = some member) :
    bodyWords body = ("any " : Text) ++ member := by
  unfold bodyWords
  rw [found]

theorem bodyWords_spelled (unnamed : namedRanges.lookup body = none) :
    bodyWords body = ("any " : Text) ++ (("of these characters: " : Text) ++ body) := by
  unfold bodyWords
  rw [unnamed]
  rfl

/-- What the words for a complement name. -/
def complementName (body : Text) : Text :=
  match namedRanges.lookup body with
  | some member => member ++ ['s']
  | none => body

theorem complementName_named (found : namedRanges.lookup body = some member) :
    complementName body = member ++ ['s'] := by
  rw [complementName, found]

theorem complementName_spelled (unnamed : namedRanges.lookup body = none) :
    complementName body = body := by
  rw [complementName, unnamed]

theorem negatedWords_eq (body : Text) :
    negatedWords body =
      ("any " : Text) ++ (("character except " : Text) ++ complementName body) := by
  unfold negatedWords complementName
  cases namedRanges.lookup body with
  | some member =>
      simp only [List.append_assoc]
      rfl
  | none => rfl

private theorem bodyWords_inj (same : bodyWords body = bodyWords other) : body = other := by
  cases found : namedRanges.lookup body with
  | some member =>
      have named := mem_namedRanges found
      rw [bodyWords_named found] at same
      cases alsoFound : namedRanges.lookup other with
      | some otherMember =>
          rw [bodyWords_named alsoFound] at same
          obtain rfl := List.append_cancel_left same
          exact eq_of_mem_namedRanges named (mem_namedRanges alsoFound)
      | none =>
          rw [bodyWords_spelled alsoFound] at same
          obtain rfl := List.append_cancel_left same
          exact absurd List.mem_cons_self (head?_of_mem_namedRanges named)
  | none =>
      rw [bodyWords_spelled found] at same
      cases alsoFound : namedRanges.lookup other with
      | some member =>
          rw [bodyWords_named alsoFound] at same
          obtain rfl := List.append_cancel_left same
          exact absurd List.mem_cons_self (head?_of_mem_namedRanges (mem_namedRanges alsoFound))
      | none =>
          rw [bodyWords_spelled alsoFound] at same
          exact List.append_cancel_left (List.append_cancel_left same)

private theorem negatedWords_ne_bodyWords : negatedWords body ≠ bodyWords other := by
  intro same
  rw [negatedWords_eq] at same
  cases found : namedRanges.lookup other with
  | some member =>
      rw [bodyWords_named found] at same
      obtain rfl := List.append_cancel_left same
      exact absurd (List.mem_cons_of_mem _ List.mem_cons_self)
        (head?_of_mem_namedRanges (mem_namedRanges found))
  | none =>
      rw [bodyWords_spelled found] at same
      have first : some 'c' = some 'o' := congrArg List.head? (List.append_cancel_left same)
      exact absurd first (by decide)

/-- The ranges with a name, each with the characters that spell the name of its members. -/
def lookalikes : List (Text × Text) :=
  [("a-z", "lowercase letters"), ("A-Z", "uppercase letters"), ("0-9", "digits"),
    ("a-zA-Z", "letters"), ("a-zA-Z0-9", "alphanumeric characters")]

theorem mem_lookalikes (found : namedRanges.lookup body = some member) :
    (body, member ++ ['s']) ∈ lookalikes := by
  have each : ∀ range ∈ namedRanges, (range.1, range.2 ++ ['s']) ∈ lookalikes := by decide
  exact each _ (mem_namedRanges found)

/-- A complement is told by its words, unless they name a range or spell such a name. -/
theorem negatedWords_eq_iff :
    negatedWords body = negatedWords other ↔
      body = other ∨ (body, other) ∈ lookalikes ∨ (other, body) ∈ lookalikes := by
  rw [negatedWords_eq, negatedWords_eq, List.append_cancel_left_eq, List.append_cancel_left_eq]
  constructor
  · intro same
    cases found : namedRanges.lookup body with
    | some member =>
        rw [complementName_named found] at same
        cases alsoFound : namedRanges.lookup other with
        | some otherMember =>
            rw [complementName_named alsoFound] at same
            obtain rfl := List.append_cancel_right same
            exact .inl (eq_of_mem_namedRanges (mem_namedRanges found) (mem_namedRanges alsoFound))
        | none =>
            rw [complementName_spelled alsoFound] at same
            exact .inr (.inl (same ▸ mem_lookalikes found))
    | none =>
        rw [complementName_spelled found] at same
        cases alsoFound : namedRanges.lookup other with
        | some member =>
            rw [complementName_named alsoFound] at same
            exact .inr (.inr (same ▸ mem_lookalikes alsoFound))
        | none =>
            rw [complementName_spelled alsoFound] at same
            exact .inl same
  · have alike : ∀ pair ∈ lookalikes, complementName pair.1 = complementName pair.2 := by decide
    intro related
    rcases related with rfl | listed | listed
    · rfl
    · exact alike _ listed
    · exact (alike _ listed).symm

/-- A bracket expression, from its body without the caret. -/
def bracketed (negated : Bool) (body : Text) : Text :=
  '[' :: ((if negated then ['^'] else []) ++ body ++ [']'])

theorem bracketWords_negated (body : Text) :
    bracketWords (bracketed true body) = negatedWords body := by
  have inner : Text.enclosed? ['['] ']' (bracketed true body) = some ('^' :: body) :=
    Text.enclosed?_eq_some_iff.mpr rfl
  rw [bracketWords, inner]
  rfl

theorem bracketWords_plain (noCaret : body.head? ≠ some '^') :
    bracketWords (bracketed false body) = bodyWords body := by
  have inner : Text.enclosed? ['['] ']' (bracketed false body) = some body :=
    Text.enclosed?_eq_some_iff.mpr rfl
  rw [bracketWords, inner, Option.getD_some]
  split
  · exact absurd rfl noCaret
  · rfl

end Description

namespace Token

open Description

/-- A token that is a bracket expression, by its body. -/
theorem exists_body_of_bracket {pattern : Text} {token : Token} (member : token ∈ tokenize pattern)
    (bracket : token.kind = .bracket) :
    ∃ negated body, token.text = bracketed negated body ∧ body ≠ [] ∧
      (negated = false → body.head? ≠ some '^') := by
  obtain ⟨behind, agrees⟩ := agrees_of_mem_tokenize member
  rw [bracket] at agrees
  obtain ⟨-, caret, body, text, carets, inhabited⟩ := agrees
  rcases carets with rfl | ⟨rfl, noCaret⟩
  · exact ⟨true, body, text, inhabited, nofun⟩
  · exact ⟨false, body, text, inhabited, fun _ => noCaret⟩

/-- The first text is the complement of a range, and the second is that of the characters that spell
what the range is called. -/
def Lookalike (text other : Text) : Prop :=
  ∃ pair ∈ lookalikes, text = bracketed true pair.1 ∧ other = bracketed true pair.2

private theorem bracketed_inj {negated : Bool} {body other : Text} :
    bracketed negated body = bracketed negated other ↔ body = other := by
  simp [bracketed]

section Plain

variable {body : Text} (noCaret : body.head? ≠ some '^')
include noCaret

private theorem bracketed_false_ne (other : Text) :
    bracketed false body ≠ bracketed true other := by
  intro same
  have inner : body ++ [']'] = '^' :: (other ++ [']']) := (List.cons.inj same).2
  cases body with
  | nil => exact absurd (List.cons.inj inner).1 (by decide)
  | cons char body => exact noCaret (congrArg some (List.cons.inj inner).1)

private theorem not_lookalike (other : Text) :
    ¬ Lookalike (bracketed false body) other ∧ ¬ Lookalike other (bracketed false body) := by
  constructor
  · intro alike
    obtain ⟨pair, -, negated, -⟩ := alike
    exact bracketed_false_ne noCaret pair.1 negated
  · intro alike
    obtain ⟨pair, -, -, negated⟩ := alike
    exact bracketed_false_ne noCaret pair.2 negated

end Plain

theorem lookalike_iff {body other : Text} :
    Lookalike (bracketed true body) (bracketed true other) ↔ (body, other) ∈ lookalikes := by
  simp only [Lookalike, bracketed_inj]
  constructor
  · intro alike
    obtain ⟨pair, listed, rfl, rfl⟩ := alike
    exact listed
  · intro listed
    exact ⟨_, listed, rfl, rfl⟩

/-- Two bracket expressions are explained by the same words only if they are the same, or if one is
the complement of a range and the other that of the letters in its name. -/
theorem bracketWords_eq_iff {pattern otherPattern : Text} {token other : Token}
    (member : token ∈ tokenize pattern) (otherMember : other ∈ tokenize otherPattern)
    (bracket : token.kind = .bracket) (otherBracket : other.kind = .bracket) :
    bracketWords token.text = bracketWords other.text ↔
      token.text = other.text ∨ Lookalike token.text other.text ∨
        Lookalike other.text token.text := by
  obtain ⟨negated, body, text, -, noCaret⟩ := exists_body_of_bracket member bracket
  obtain ⟨otherNegated, otherBody, otherText, -, otherNoCaret⟩ :=
    exists_body_of_bracket otherMember otherBracket
  rw [text, otherText]
  cases negated with
  | true =>
      cases otherNegated with
      | true =>
          rw [bracketWords_negated, bracketWords_negated, negatedWords_eq_iff, bracketed_inj,
            lookalike_iff, lookalike_iff]
      | false =>
          have plain := otherNoCaret rfl
          rw [bracketWords_negated, bracketWords_plain plain]
          simp [negatedWords_ne_bodyWords, (bracketed_false_ne plain body).symm,
            not_lookalike plain]
  | false =>
      have plain := noCaret rfl
      cases otherNegated with
      | true =>
          rw [bracketWords_plain plain, bracketWords_negated]
          simp [negatedWords_ne_bodyWords.symm, bracketed_false_ne plain, not_lookalike plain]
      | false =>
          rw [bracketWords_plain plain, bracketWords_plain (otherNoCaret rfl), bracketed_inj]
          simp only [not_lookalike plain, or_false]
          exact ⟨bodyWords_inj, congrArg bodyWords⟩

/-- The complement of letters and digits, and the complement of the letters that spell its name. -/
theorem bracketWords_eq_lookalike :
    let range : Token := ⟨.bracket, "[^a-zA-Z0-9]", 0⟩
    let spelled : Token := ⟨.bracket, "[^alphanumeric characters]", 1⟩
    range ∈ tokenize "[^a-zA-Z0-9]+" ∧ spelled ∈ tokenize "([^alphanumeric characters]" ∧
      range.text ≠ spelled.text ∧ bracketWords range.text = bracketWords spelled.text := by
  intro range spelled
  have member : range ∈ tokenize "[^a-zA-Z0-9]+" := by decide +kernel
  have spelledMember : spelled ∈ tokenize "([^alphanumeric characters]" := by decide +kernel
  refine ⟨member, spelledMember, by decide, ?_⟩
  apply (bracketWords_eq_iff member spelledMember rfl rfl).mpr
  exact .inr (.inl ⟨("a-zA-Z0-9", "alphanumeric characters"), by decide, rfl, rfl⟩)

end Token

end RegexProse
