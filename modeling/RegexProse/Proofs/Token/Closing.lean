import RegexProse.Proofs.Group.Closing
import RegexProse.Proofs.Token.Slice

/-!
# Tokens that close their groups

The tokens of a text that closes its groups do so too: where the text opens or closes a group, and
only there, a token opens or closes one.
-/

set_option autoImplicit false

namespace RegexProse

namespace TokenKind

private theorem plain_of_braced {quantifier : Quantifier} {text : Text}
    (braced : quantifier.Braced text) : Plain text := by
  obtain ⟨body, bounds, rfl⟩ := Quantifier.braced_iff.mp braced
  have inside : Plain body := .of_inside (by decide) bounds.inBounds
  exact .cons (by decide) (inside.append (by decide))

private theorem plain_of_isName {name : Text} (valid : Opener.isName name) : Plain name :=
  .of_inside (by decide) (Opener.inName_of_isName valid)

private theorem plain_of_isFlags {flags : Text} (valid : Opener.isFlags flags) : Plain flags :=
  .of_inside (by decide) (Opener.isFlags_iff.mp valid).2

/-- Behind the parenthesis, the opener of a group holds no mark, and a flag setting no other one than
the parenthesis at its end. -/
private theorem plain_of_special {opener : Opener} {text : Text} (special : opener.Special text) :
    ∃ covered, Plain covered ∧
      text = '(' :: (covered ++ if opener = .setFlags then [')'] else []) := by
  cases special with
  | nonCapturing => exact ⟨"?:", by decide, rfl⟩
  | positiveLookahead => exact ⟨"?=", by decide, rfl⟩
  | negativeLookahead => exact ⟨"?!", by decide, rfl⟩
  | positiveLookbehind => exact ⟨"?<=", by decide, rfl⟩
  | negativeLookbehind => exact ⟨"?<!", by decide, rfl⟩
  | @named name valid =>
      have announced : Plain "?<" := by decide
      exact ⟨_, (announced.append (plain_of_isName valid)).append (by decide : Plain ['>']),
        by simp⟩
  | @namedWithP name valid =>
      have announced : Plain "?P<" := by decide
      exact ⟨_, (announced.append (plain_of_isName valid)).append (by decide : Plain ['>']),
        by simp⟩
  | @underFlags flags valid =>
      have question : Plain ['?'] := by decide
      exact ⟨_, (question.append (plain_of_isFlags valid)).append (by decide : Plain [':']),
        by simp⟩
  | @setFlags flags valid =>
      have question : Plain ['?'] := by decide
      exact ⟨_, question.append (plain_of_isFlags valid), by simp⟩

/-- What a token does to the groups that are open, and the text behind it. -/
inductive Step (depth : Nat) (rest : Text) : TokenKind → Text → Prop where
  | enter {kind : GroupKind} {text : Text} :
      (Quantifier.leads rest → text = ['('] ∧ rest.head? = some '?') →
      Closes (depth + 1) rest → Step depth rest (.groupOpen kind) text
  | leave {outer : Nat} {text : Text} :
      depth = outer + 1 → Closes outer rest → Step depth rest .groupClose text
  | pass {kind : TokenKind} {text : Text} :
      (∀ opened, kind ≠ .groupOpen opened) → kind ≠ .groupClose → Closes depth rest →
      Step depth rest kind text

private theorem step_enter {depth : Nat} {input : Text} (entered : Entered input)
    (closes : Closes (depth + 1) input) :
    Step depth (scan '(' input).rest (scan '(' input).value (scan '(' input).text := by
  show Step depth (Opener.scan input).rest (ofOpener (Opener.scan input).value)
    (Opener.scan input).text
  unfold Opener.scan
  cases scanned : Opener.scanSpecial? input with
  | none => exact .enter (fun leads => ⟨rfl, entered.bare leads⟩) closes
  | some found =>
      obtain ⟨special, whole⟩ := (Opener.reads_scanSpecial? input found).mp scanned
      obtain ⟨covered, plain, spelled⟩ := plain_of_special special
      rw [spelled, List.cons_append, List.singleton_append] at whole
      have inside := (List.cons.inj whole).2
      rw [← inside, List.append_assoc] at closes
      have behind := closes.of_append plain
      rw [Option.getD_some]
      cases opener : found.value with
      | group kind =>
          rw [opener] at behind
          refine .enter (fun leads => ?_) behind
          exact absurd leads (entered.special found scanned (by rw [opener]; exact nofun))
      | setFlags =>
          rw [opener] at behind
          obtain ⟨outer, same, later⟩ := behind.of_leave
          obtain rfl := Nat.succ.inj same
          exact .pass (fun _ => nofun) nofun later

private theorem step_brace {depth : Nat} {input : Text} (closes : Closes depth ('{' :: input)) :
    Step depth (scan '{' input).rest (scan '{' input).value (scan '{' input).text := by
  show Step depth (scanBrace input).rest (scanBrace input).value (scanBrace input).text
  unfold scanBrace
  cases scanned : Quantifier.scanBrace? ('{' :: input) with
  | none => exact .pass (fun _ => nofun) nofun (closes.of_plain (by decide))
  | some found =>
      obtain ⟨braced, whole⟩ := (Quantifier.reads_scanBrace? _ found).mp scanned
      rw [List.nil_append] at whole
      rw [← whole] at closes
      exact .pass (fun _ => nofun) nofun (closes.of_append (plain_of_braced braced))

/-- Each token takes one step through a text that closes its groups. -/
theorem step_scan {depth : Nat} {char : Char} {input : Text}
    (closes : Closes depth (char :: input)) :
    Step depth (scan char input).rest (scan char input).value (scan char input).text := by
  by_cases escape : char = '\\'
  · subst escape
    obtain ⟨escaped, more, rfl, later⟩ := closes.of_escape
    exact .pass (fun _ => nofun) nofun later
  by_cases bracket : char = '['
  · subst bracket
    obtain ⟨text, more, expression, whole, later⟩ := closes.of_bracket
    obtain ⟨rest, found⟩ : ∃ rest, text = '[' :: rest := by
      cases expression with
      | intro => exact ⟨_, rfl⟩
    subst found
    obtain rfl : input = rest ++ more := (List.cons.inj whole).2
    rw [scan_of_construct (.bracket expression)]
    exact .pass (fun _ => nofun) nofun later
  by_cases enter : char = '('
  · subst enter
    obtain ⟨entered, later⟩ := closes.of_enter
    exact step_enter entered later
  by_cases leave : char = ')'
  · subst leave
    obtain ⟨outer, same, later⟩ := closes.of_leave
    exact .leave same later
  by_cases brace : char = '{'
  · subst brace
    exact step_brace closes
  have plain : char ∉ Closes.marks := by simp [Closes.marks, escape, bracket, enter, leave]
  have alone : char ∉ ['\\', '[', '(', '{'] := by simp [escape, bracket, enter, brace]
  rw [scan_of_bare (not_completes alone input)]
  refine .pass (fun opened => ?_) ?_ (closes.of_plain plain)
  all_goals
    unfold Scan.one bare ofChar Quantifier.ofChar?
    grind

end TokenKind

namespace Token

/-- The tokens close the groups that they open, and `depth` more. No opener stands directly before a
quantifier of a single character, but for a lone parenthesis before a question mark. -/
inductive Closed : Nat → List Token → Prop where
  | nil : Closed 0 []
  | enter {depth : Nat} {token : Token} {kind : GroupKind} {rest : List Token} :
      token.kind = .groupOpen kind →
      (Quantifier.leads (texts rest) → token.text = ['('] ∧ (texts rest).head? = some '?') →
      Closed (depth + 1) rest → Closed depth (token :: rest)
  | leave {depth : Nat} {token : Token} {rest : List Token} :
      token.kind = .groupClose → Closed depth rest → Closed (depth + 1) (token :: rest)
  | pass {depth : Nat} {token : Token} {rest : List Token} :
      (∀ kind, token.kind ≠ .groupOpen kind) → token.kind ≠ .groupClose → Closed depth rest →
      Closed depth (token :: rest)

theorem Closed.of_open {depth : Nat} {token : Token} {kind : GroupKind} {rest : List Token}
    (closed : Closed depth (token :: rest)) (opens : token.kind = .groupOpen kind) :
    (Quantifier.leads (texts rest) → token.text = ['('] ∧ (texts rest).head? = some '?') ∧
      Closed (depth + 1) rest := by
  cases closed with
  | enter _ follows closed => exact ⟨follows, closed⟩
  | leave closes => rw [opens] at closes; cases closes
  | pass notOpen => exact absurd opens (notOpen kind)

theorem Closed.of_close {depth : Nat} {token : Token} {rest : List Token}
    (closed : Closed depth (token :: rest)) (closes : token.kind = .groupClose) :
    ∃ outer, depth = outer + 1 ∧ Closed outer rest := by
  cases closed with
  | enter opens => rw [closes] at opens; cases opens
  | leave _ closed => exact ⟨_, rfl, closed⟩
  | pass _ notClose => exact absurd closes notClose

theorem Closed.of_other {depth : Nat} {token : Token} {rest : List Token}
    (closed : Closed depth (token :: rest)) (notOpen : ∀ kind, token.kind ≠ .groupOpen kind)
    (notClose : token.kind ≠ .groupClose) : Closed depth rest := by
  cases closed with
  | enter opens => exact absurd opens (notOpen _)
  | leave closes => exact absurd closes notClose
  | pass _ _ closed => exact closed

private theorem Closed.of_step {depth : Nat} {kind : TokenKind} {text rest : Text}
    {tokens : List Token}
    (step : TokenKind.Step depth rest kind text) (covered : texts tokens = rest)
    (behind : ∀ {inner : Nat}, Closes inner rest → Closed inner tokens) (offset : Nat) :
    Closed depth (⟨kind, text, offset⟩ :: tokens) := by
  cases step with
  | enter follows closes => exact .enter rfl (covered ▸ follows) (behind closes)
  | leave same closes => exact same ▸ .leave rfl (behind closes)
  | pass notOpen notClose closes => exact .pass notOpen notClose (behind closes)

/-- The tokens of a text close the groups that the text closes. -/
theorem closed_tokenizeFrom (offset depth : Nat) {input : Text} (closes : Closes depth input) :
    Closed depth (tokenizeFrom offset input) := by
  fun_induction tokenizeFrom offset input generalizing depth with
  | case1 =>
      obtain rfl := closes.of_nil
      exact .nil
  | case2 offset char input scan ih =>
      exact .of_step (TokenKind.step_scan closes) (texts_tokenizeFrom _ _) (ih _) offset

end Token

end RegexProse
