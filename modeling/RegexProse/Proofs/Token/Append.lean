import RegexProse.Proofs.Token.Slice
import RegexProse.Quantifier.Run

/-!
# Tokens of a concatenation

Where the tokens of a text are complete, a further text behind it leaves them as they are. Only a
character alone can wait for more: the mark of a construct that is not there, and a parenthesis
before a question mark.
-/

set_option autoImplicit false

namespace RegexProse

namespace Token

/-- What in a token list may be the beginning of a longer token: the mark of a bracket expression,
of a brace quantifier or of an escape as a token of its own, a parenthesis alone in the last place,
and one before a question mark. -/
inductive Unfinished where
  | bracket
  | brace
  | escape
  | lastParenthesis
  | questionedParenthesis
  deriving DecidableEq, Repr

instance {found : Unfinished → Prop} [DecidablePred found] : Decidable (∀ way, found way) :=
  decidable_of_iff
    (found .bracket ∧ found .brace ∧ found .escape ∧ found .lastParenthesis ∧
      found .questionedParenthesis)
    ⟨fun ⟨bracket, brace, escape, last, questioned⟩ way => by cases way <;> assumption,
      fun all => ⟨all _, all _, all _, all _, all _⟩⟩

def Unfinished.Occurs (tokens : List Token) : Unfinished → Prop
  | .bracket => .literal '[' ∈ tokens.map Token.kind
  | .brace => .literal '{' ∈ tokens.map Token.kind
  | .escape => .literal '\\' ∈ tokens.map Token.kind
  | .lastParenthesis => ∃ token ∈ tokens.getLast?, token.text = ['(']
  | .questionedParenthesis =>
    ∃ pair ∈ tokens.zip tokens.tail, pair.1.text = ['('] ∧ pair.2.isLazyMarker

instance (tokens : List Token) : (way : Unfinished) → Decidable (way.Occurs tokens)
  | .bracket | .brace | .escape => inferInstanceAs (Decidable (_ ∈ tokens.map Token.kind))
  | .lastParenthesis => inferInstanceAs (Decidable (∃ token ∈ tokens.getLast?, _))
  | .questionedParenthesis => inferInstanceAs (Decidable (∃ pair ∈ tokens.zip tokens.tail, _))

/-- No token waits for the rest of a longer one. -/
def Complete (tokens : List Token) : Prop := ∀ way : Unfinished, ¬ way.Occurs tokens

instance (tokens : List Token) : Decidable (Complete tokens) :=
  inferInstanceAs (Decidable (∀ way : Unfinished, ¬ way.Occurs tokens))

theorem Unfinished.Occurs.behind {way : Unfinished} {rest : List Token} (occurs : way.Occurs rest)
    (token : Token) : way.Occurs (token :: rest) := by
  cases way with
  | bracket => exact List.mem_cons_of_mem _ occurs
  | brace => exact List.mem_cons_of_mem _ occurs
  | escape => exact List.mem_cons_of_mem _ occurs
  | lastParenthesis =>
      obtain ⟨last, member, alone⟩ := occurs
      cases rest with
      | nil => cases member
      | cons next rest => exact ⟨last, by rwa [List.getLast?_cons_cons], alone⟩
  | questionedParenthesis =>
      obtain ⟨pair, member, questioned⟩ := occurs
      cases rest with
      | nil => cases member
      | cons next rest => exact ⟨pair, List.mem_cons_of_mem _ member, questioned⟩

theorem Complete.of_cons {token : Token} {rest : List Token} (complete : Complete (token :: rest)) :
    token.kind ∉ [.literal '[', .literal '{', .literal '\\'] ∧
      (token.text = ['('] → ∃ next ∈ rest.head?, ¬ next.isLazyMarker) ∧ Complete rest := by
  refine ⟨fun mark => ?_, fun alone => ?_, fun way occurs => complete way (occurs.behind token)⟩
  · simp only [List.mem_cons, List.not_mem_nil, or_false] at mark
    rcases mark with kind | kind | kind
    · exact complete .bracket (List.mem_map.mpr ⟨token, List.mem_cons_self, kind⟩)
    · exact complete .brace (List.mem_map.mpr ⟨token, List.mem_cons_self, kind⟩)
    · exact complete .escape (List.mem_map.mpr ⟨token, List.mem_cons_self, kind⟩)
  · cases rest with
    | nil => exact absurd ⟨token, rfl, alone⟩ (complete .lastParenthesis)
    | cons next rest =>
        refine ⟨next, rfl, fun question => ?_⟩
        exact complete .questionedParenthesis ⟨(token, next), List.mem_cons_self, alone, question⟩

end Token

namespace TokenKind

/-- A construct stays what it is whatever follows it, and so does a character alone that cannot be
completed. -/
theorem scan_append {char : Char} {input more : Text}
    (stays : Completes char input ∨ ¬ Completes char (input ++ more)) :
    scan char (input ++ more) =
      ⟨(scan char input).value, (scan char input).text, (scan char input).rest ++ more⟩ := by
  rcases stays with complete | incomplete
  · obtain ⟨kind, covered, rest, construct, rfl⟩ := complete
    rw [List.append_assoc, scan_of_construct construct, scan_of_construct construct]
  · have already : ¬ Completes char input := by
      intro shorter
      obtain ⟨kind, covered, rest, construct, rfl⟩ := shorter
      exact incomplete ⟨kind, covered, rest ++ more, construct, by rw [List.append_assoc]⟩
    rw [scan_of_bare incomplete, scan_of_bare already]
    rfl

/-- A question mark is always a token of its own. -/
private theorem scan_question (input : Text) :
    scan '?' input = .one (.quantifier .zeroOrOne) '?' input :=
  scan_of_bare (not_completes (by decide) input)

end TokenKind

namespace Token

private theorem head?_tokenizeFrom_question (offset : Nat) (input : Text) :
    ∀ next ∈ (tokenizeFrom offset ('?' :: input)).head?, next.isLazyMarker := by
  intro next member
  rw [tokenizeFrom_cons, TokenKind.scan_question] at member
  obtain rfl := Option.some.inj member
  rfl

/-- The first token of a complete list was read to its end. -/
theorem Complete.stays {offset : Nat} {char : Char} {input : Text}
    (complete : Complete (tokenizeFrom offset (char :: input))) (more : Text) :
    TokenKind.Completes char input ∨ ¬ TokenKind.Completes char (input ++ more) := by
  by_cases known : TokenKind.Completes char input
  · exact .inl known
  refine .inr ?_
  rw [tokenizeFrom_cons, TokenKind.scan_of_bare known] at complete
  obtain ⟨noMark, follows, -⟩ := complete.of_cons
  have unmarked : char ∉ ['\\', '[', '{'] := by
    intro mark
    apply noMark
    show TokenKind.bare char ∈ _
    simp only [List.mem_cons, List.not_mem_nil, or_false] at mark
    rcases mark with rfl | rfl | rfl <;> decide
  by_cases paren : char = '('
  · subst paren
    obtain ⟨next, member, noQuestion⟩ := follows rfl
    apply TokenKind.not_completes_paren
    cases input with
    | nil => simp [Scan.one, tokenizeFrom] at member
    | cons first input =>
        intro question
        obtain rfl := Option.some.inj question
        exact noQuestion (head?_tokenizeFrom_question _ input next member)
  · refine TokenKind.not_completes ?_ _
    simp only [List.mem_cons, List.not_mem_nil, or_false, not_or] at unmarked ⊢
    exact ⟨unmarked.1, unmarked.2.1, paren, unmarked.2.2⟩

/-- Complete tokens stay as they are before a further text, and the tokens of that text are the same
as without them. -/
theorem tokenizeFrom_append {offset : Nat} {input : Text}
    (complete : Complete (tokenizeFrom offset input)) (more : Text) :
    tokenizeFrom offset (input ++ more) =
      tokenizeFrom offset input ++ tokenizeFrom (offset + input.byteLength) more := by
  fun_induction tokenizeFrom offset input with
  | case1 => rfl
  | case2 offset char input scan ih =>
      have whole := (TokenKind.scan_splits char input).append
      have length : offset + Text.byteLength (char :: input) =
          offset + scan.text.byteLength + scan.rest.byteLength := by
        rw [← whole, Text.byteLength_append, Nat.add_assoc]
      rw [← tokenizeFrom_cons] at complete
      have appended := TokenKind.scan_append (complete.stays more)
      rw [tokenizeFrom_cons] at complete
      rw [List.cons_append, tokenizeFrom_cons, appended, length, List.cons_append]
      exact congrArg _ (ih complete.of_cons.2.2)

end Token

end RegexProse
