import RegexProse.Proofs.Bracket.Language
import RegexProse.Proofs.Group.OpenerLanguage
import RegexProse.Proofs.Quantifier.BraceLanguage
import RegexProse.Token.Tokenize

/-!
# Constructs and bare characters

A token is a construct of more than one character, or a character alone. It is a character alone
exactly when no construct stands at its place. So a token depends on nothing behind it, unless it is
a character alone: then all that matters is that nothing behind it completes a construct.
-/

set_option autoImplicit false

namespace RegexProse.TokenKind

/-- How the tokens of more than one character are spelled. -/
inductive Construct : TokenKind → Text → Prop where
  | escape (char : Char) : Construct (.escape char) ['\\', char]
  | bracket {text : Text} : Bracket.Expression text → Construct .bracket text
  | opener {opener : Opener} {text : Text} : opener.Special text → Construct (ofOpener opener) text
  | brace {quantifier : Quantifier} {text : Text} :
      quantifier.Braced text → Construct (.quantifier quantifier) text

/-- The meaning of a character alone. -/
def bare : Char → TokenKind
  | '(' => .groupOpen .capturing
  | char => ofChar char

/-- The input completes a construct that begins with the character. -/
def Completes (char : Char) (input : Text) : Prop :=
  ∃ kind covered rest, Construct kind (char :: covered) ∧ input = covered ++ rest

theorem Construct.ne_nil {kind : TokenKind} {text : Text} (construct : Construct kind text) :
    text ≠ [] := by
  rintro rfl
  cases construct with
  | bracket expression => simpa using expression.head?_eq
  | opener special => simpa using special.head?_eq
  | brace braced => simpa using braced.head?_eq

theorem Construct.completes {kind : TokenKind} {text rest : Text} (construct : Construct kind text)
    {char : Char} {input : Text} (whole : text ++ rest = char :: input) : Completes char input := by
  cases text with
  | nil => exact absurd rfl construct.ne_nil
  | cons first covered =>
      cases whole
      exact ⟨kind, covered, rest, construct, rfl⟩

theorem not_completes {char : Char} (plain : char ∉ ['\\', '[', '(', '{']) (input : Text) :
    ¬ Completes char input := by
  intro complete
  obtain ⟨kind, covered, rest, construct, -⟩ := complete
  apply plain
  generalize whole : char :: covered = text at construct
  cases construct with
  | escape escaped => cases whole; simp
  | bracket expression =>
      subst whole
      simp [show char = '[' by simpa using expression.head?_eq]
  | opener special =>
      subst whole
      simp [show char = '(' by simpa using special.head?_eq]
  | brace braced =>
      subst whole
      simp [show char = '{' by simpa using braced.head?_eq]

/-- A parenthesis is more than one only when a question mark follows. -/
theorem not_completes_paren {input : Text} (noQuestion : input.head? ≠ some '?') :
    ¬ Completes '(' input := by
  intro complete
  obtain ⟨kind, covered, rest, construct, rfl⟩ := complete
  generalize whole : '(' :: covered = text at construct
  cases construct with
  | escape escaped => cases whole
  | bracket expression =>
      subst whole
      simpa using expression.head?_eq
  | opener special =>
      cases special <;> cases whole <;> exact noQuestion rfl
  | brace braced =>
      subst whole
      simpa using braced.head?_eq

/-- A construct is read whatever follows it. -/
theorem scan_of_construct {kind : TokenKind} {char : Char} {covered : Text}
    (construct : Construct kind (char :: covered)) (rest : Text) :
    scan char (covered ++ rest) = ⟨kind, char :: covered, rest⟩ := by
  generalize whole : char :: covered = text at construct
  cases construct with
  | escape escaped =>
      cases whole
      rfl
  | bracket expression =>
      subst whole
      obtain rfl : char = '[' := by simpa using expression.head?_eq
      have read : Bracket.scan? ('[' :: (covered ++ rest)) = some ⟨(), '[' :: covered, rest⟩ :=
        Bracket.reads_scan?.eq_some expression rest
      simp only [scan, scanBracket, read]
      rfl
  | opener special =>
      subst whole
      obtain rfl : char = '(' := by simpa using special.head?_eq
      have read := Opener.reads_scanSpecial?.eq_some special rest
      simp only [scan, Opener.scan, read]
      rfl
  | brace braced =>
      subst whole
      obtain rfl : char = '{' := by simpa using braced.head?_eq
      have read : Quantifier.scanBrace? ('{' :: (covered ++ rest)) =
          some ⟨_, '{' :: covered, rest⟩ := Quantifier.reads_scanBrace?.eq_some braced rest
      simp only [scan, scanBrace, read]
      rfl

theorem scan_of_bare {char : Char} {input : Text}
    (incomplete : ¬ Completes char input) : scan char input = .one (bare char) char input := by
  unfold scan
  split
  case h_1 =>
    cases input with
    | nil => rfl
    | cons escaped rest => exact absurd ((Construct.escape escaped).completes rfl) incomplete
  case h_2 =>
    have unread : Bracket.scan? ('[' :: input) = none :=
      Bracket.reads_scan?.eq_none_iff.mpr fun _ _ expression ⟨_, whole⟩ =>
        incomplete ((Construct.bracket expression).completes whole)
    rw [scanBracket, unread]
    rfl
  case h_3 =>
    have unread : Opener.scanSpecial? input = none :=
      Opener.reads_scanSpecial?.eq_none_iff.mpr fun _ _ special ⟨_, whole⟩ =>
        incomplete ((Construct.opener special).completes whole)
    rw [Opener.scan, unread]
    rfl
  case h_4 =>
    have unread : Quantifier.scanBrace? ('{' :: input) = none :=
      Quantifier.reads_scanBrace?.eq_none_iff.mpr fun _ _ braced ⟨_, whole⟩ =>
        incomplete ((Construct.brace braced).completes whole)
    rw [scanBrace, unread]
    rfl
  case h_5 notEscape notBracket notParen notBrace =>
    unfold bare
    split
    · exact absurd rfl notParen
    · rfl

theorem scan_begins (char : Char) (input : Text) :
    ∃ covered, (scan char input).text = char :: covered ∧
      input = covered ++ (scan char input).rest := by
  have splits := scan_splits char input
  cases covers : (scan char input).text with
  | nil => exact absurd covers splits.ne_nil
  | cons first covered =>
      have whole := splits.append
      rw [covers] at whole
      obtain ⟨rfl, rest⟩ := List.cons.inj whole
      exact ⟨covered, rfl, rest.symm⟩

/-- Characters behind a token can be taken away: what was no construct with them is none without
them. -/
theorem scan_cut {char : Char} {input covered rest : Text} (more : Text)
    (covers : (scan char (input ++ more)).text = char :: covered) (cut : input = covered ++ rest) :
    scan char input = ⟨(scan char (input ++ more)).value, char :: covered, rest⟩ := by
  by_cases complete : Completes char (input ++ more)
  · obtain ⟨kind, inside, behind, construct, whole⟩ := complete
    have read := scan_of_construct construct behind
    rw [← whole] at read
    rw [read] at covers ⊢
    obtain rfl := (List.cons.inj covers).2
    rw [cut, scan_of_construct construct]
  · have incomplete : ¬ Completes char input := by
      intro shorter
      obtain ⟨kind, inside, behind, construct, rfl⟩ := shorter
      exact complete ⟨kind, inside, behind ++ more, construct, by rw [List.append_assoc]⟩
    rw [scan_of_bare complete] at covers ⊢
    obtain rfl := (List.cons.inj covers).2
    rw [scan_of_bare incomplete, cut]
    rfl

/-- How any token is spelled. -/
def Spelled (kind : TokenKind) (text : Text) : Prop :=
  Construct kind text ∨ ∃ char, kind = bare char ∧ text = [char]

theorem scan_spelled (char : Char) (input : Text) :
    Spelled (scan char input).value (scan char input).text := by
  by_cases complete : Completes char input
  · obtain ⟨kind, covered, rest, construct, rfl⟩ := complete
    rw [scan_of_construct construct]
    exact .inl construct
  · rw [scan_of_bare complete]
    exact .inr ⟨char, rfl, rfl⟩

theorem Spelled.text_groupClose {text : Text} (spelled : Spelled .groupClose text) :
    text = [')'] := by
  rcases spelled with construct | ⟨char, kind, rfl⟩
  · generalize whole : TokenKind.groupClose = kind at construct
    cases construct with
    | escape | bracket | brace => cases whole
    | @opener opener => cases opener <;> cases whole
  · unfold bare ofChar Quantifier.ofChar? at kind
    grind

end RegexProse.TokenKind
