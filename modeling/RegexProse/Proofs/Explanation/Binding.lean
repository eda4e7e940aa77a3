import RegexProse.Proofs.Explanation.Balance
import RegexProse.Proofs.Piece.Binding

/-!
# Quantifiers in explanations

Where the explanation of a legible pattern that is accepted has a quantifier on its own: the reading
of the expression rules out all but a brace quantifier with nothing before it and the question mark
of an opener that the tokens do not know.
-/

set_option autoImplicit false

namespace RegexProse

theorem Piece.kind_component (piece : Piece) :
    (component piece).kind = .quantifier ↔ piece.isQuantifier := by
  cases piece with
  | group opener kind content closer run => simp [component, isQuantifier]
  | single token run =>
      rw [isQuantifier, Token.isQuantifier_iff]
      show (Description.ofToken token).kind = .quantifier ↔ _
      unfold Description.ofToken
      cases kind : token.kind with
      | escape char =>
          simp only [reduceCtorEq, exists_false, iff_false]
          show (Description.ofEscape char).kind ≠ .quantifier
          unfold Description.ofEscape
          split <;> exact ComponentKind.noConfusion
      | quantifier quantifier => simp
      | bracket | groupOpen | groupClose | setFlags | anyChar | startAnchor | endAnchor
      | literal => simp [Description.ofLiteral]

namespace TokenKind

/-- A quantifier is written in braces or with a single character. -/
private theorem Spelled.of_quantifier {quantifier : Quantifier} {text : Text}
    (spelled : Spelled (.quantifier quantifier) text) :
    text.head? = some '{' ∨ ∃ char, text = [char] ∧ Quantifier.leads text := by
  rcases spelled with construct | ⟨char, same, rfl⟩
  · generalize whole : TokenKind.quantifier quantifier = kind at construct
    cases construct with
    | escape | bracket => cases whole
    | @opener opener => cases opener <;> cases whole
    | brace braced => exact .inl braced.head?_eq
  · refine .inr ⟨char, rfl, ?_⟩
    rw [Quantifier.leads_iff]
    unfold bare ofChar Quantifier.ofChar? at same
    grind

theorem Spelled.eq_quantifier {kind : TokenKind} (spelled : kind.Spelled ['?']) :
    kind = .quantifier .zeroOrOne := by
  rcases spelled with construct | ⟨char, rfl, same⟩
  · generalize whole : ['?'] = text at construct
    cases construct with
    | escape => cases whole
    | bracket expression => subst whole; cases expression.head?_eq
    | opener special => subst whole; cases special.head?_eq
    | brace braced => subst whole; cases braced.head?_eq
  · obtain rfl := (List.cons.inj same).1
    rfl

end TokenKind

namespace Token

/-- A quantifier that is written in braces. -/
def isBraced (token : Token) : Bool := token.isQuantifier && token.text.head? = some '{'

/-- Behind an opener stands no brace quantifier, and behind a parenthesis alone no question mark, as
if it were one of an opener that the tokens do not know. -/
def Opens (before next : Token) : Prop :=
  before.opensGroup → ¬ next.isBraced ∧ ¬ (before.text = ['('] ∧ next.text = ['?'])

instance (before next : Token) : Decidable (Opens before next) :=
  inferInstanceAs (Decidable (before.opensGroup →
    ¬ next.isBraced ∧ ¬ (before.text = ['('] ∧ next.text = ['?'])))

/-- Behind an opener stands no quantifier of a single character, unless it is a question mark and the
opener a parenthesis alone. -/
def Follows (before next : Token) : Prop :=
  before.opensGroup → Quantifier.leads next.text →
    before.text = ['('] ∧ next.text.head? = some '?'

theorem Closed.follows {depth : Nat} {tokens : List Token} (closed : Closed depth tokens) :
    tokens.IsChain Follows := by
  induction closed with
  | nil => exact .nil
  | @enter depth token kind rest opens follows closed ih =>
      refine List.isChain_cons.mpr ⟨fun next member _ leads => ?_, ih⟩
      obtain ⟨behind, rfl⟩ := List.head?_eq_some_iff.mp member
      have first := Quantifier.leads_append leads (texts behind)
      rw [texts_cons, Quantifier.leads, first] at follows
      exact follows leads
  | @leave depth token rest closes closed ih =>
      refine List.isChain_cons.mpr ⟨fun next member opened => ?_, ih⟩
      simp [opensGroup, closes] at opened
  | @pass depth token rest notOpen notClose closed ih =>
      refine List.isChain_cons.mpr ⟨fun next member opened => ?_, ih⟩
      obtain ⟨kind, opens⟩ := opensGroup_iff.mp opened
      exact absurd opens (notOpen kind)

theorem binds_iff_opens {before next : Token} (follows : Follows before next)
    (spelled : next.kind.Spelled next.text) : Binds before next ↔ Opens before next := by
  constructor
  · intro binds opened
    refine ⟨fun braced => binds opened (Bool.and_eq_true_iff.mp braced).1, fun question => ?_⟩
    rw [question.2] at spelled
    exact binds opened (isQuantifier_iff.mpr ⟨_, spelled.eq_quantifier⟩)
  · intro opens opened repeats
    obtain ⟨notBraced, notQuestion⟩ := opens opened
    obtain ⟨quantifier, kind⟩ := isQuantifier_iff.mp repeats
    rw [kind] at spelled
    rcases spelled.of_quantifier with brace | ⟨char, alone, leads⟩
    · exact notBraced (by simp [isBraced, repeats, brace])
    · obtain ⟨parenthesis, question⟩ := follows opened leads
      rw [alone] at question
      obtain rfl := Option.some.inj question
      exact notQuestion ⟨parenthesis, alone⟩

end Token

namespace Explanation

/-- In the explanation of a legible pattern that is accepted, a quantifier stands on its own only
where a brace quantifier has nothing before it, or where the tokens do not know an opener. -/
theorem quantifiers_bound_iff {pattern : Text} (accepted : validate pattern = .ok ())
    (legible : Syntax.Legible pattern) :
    ∃ explanation, explain pattern = .ok explanation ∧
      ((∀ node ∈ Component.nodesOf explanation.components, node.kind ≠ .quantifier) ↔
        (∀ first ∈ (Token.tokenize pattern).head?, ¬ first.isBraced) ∧
          (Token.tokenize pattern).IsChain Token.Opens) := by
  refine ⟨ofPattern pattern, explain_of_accepted accepted, ?_⟩
  have pieces : (∀ node ∈ Component.nodesOf (ofPattern pattern).components,
      node.kind ≠ .quantifier) ↔
        ∀ piece ∈ Piece.nodesOf (Piece.ofTokens (Token.tokenize pattern)),
          ¬ piece.isQuantifier := by
    rw [ofPattern, Piece.nodesOf_components]
    simp [Piece.kind_component]
  rw [pieces, Piece.noQuantifier_iff_allBound, Token.AllBound]
  obtain ⟨expression, read⟩ := expression_of_accepts accepted
  have notLeads := (Syntax.closes_of_ofPattern? read legible).2
  have follows := (Token.closed_of_accepted accepted legible).follows
  have braced : ∀ first ∈ (Token.tokenize pattern).head?, first.isQuantifier →
      first.isBraced := by
    intro first member repeats
    obtain ⟨quantifier, kind⟩ := Token.isQuantifier_iff.mp repeats
    obtain ⟨rest, whole⟩ := List.head?_eq_some_iff.mp member
    have written := Token.spelled_of_mem_tokenize (whole ▸ List.mem_cons_self)
    rw [kind] at written
    rcases written.of_quantifier with brace | ⟨char, -, leads⟩
    · simp [Token.isBraced, repeats, brace]
    · have covers := Token.texts_tokenizeFrom 0 pattern
      rw [← Token.tokenize, whole, Token.texts_cons] at covers
      refine absurd ?_ notLeads
      rwa [Quantifier.leads, ← covers, Quantifier.leads_append leads]
  refine and_congr ?_ ?_
  · refine forall₂_congr fun first member => not_congr ⟨braced first member, fun isBraced => ?_⟩
    exact (Bool.and_eq_true_iff.mp isBraced).1
  · rw [List.isChain_iff_getElem] at follows ⊢
    rw [List.isChain_iff_getElem]
    refine forall₂_congr fun index within => ?_
    exact Token.binds_iff_opens (follows index within)
      (Token.spelled_of_mem_tokenize (List.getElem_mem within))

/-- A pattern with quantifiers on groups, brackets and atoms, none of them on its own. -/
theorem quantifiers_bound_nested :
    let pattern : Text := "(?<year>\\d{4}|[^]x]*?)+(?:(?i)a??b{2,})*"
    validate pattern = .ok () ∧ Syntax.Legible pattern ∧
      ∃ explanation, explain pattern = .ok explanation ∧
        ∀ node ∈ Component.nodesOf explanation.components, node.kind ≠ .quantifier := by
  intro pattern
  have accepted : validate pattern = .ok () := by decide +kernel
  have legible : Syntax.Legible pattern := by decide +kernel
  obtain ⟨explanation, explained, bound⟩ := quantifiers_bound_iff accepted legible
  exact ⟨accepted, legible, explanation, explained, bound.mpr (by decide +kernel)⟩

/-- A name that is not written in ASCII is none for the tokens, and the question mark of its opener
is a quantifier on its own. -/
theorem wide_name_leaves_quantifier :
    ∃ explanation, explain ("(?<é>a)" : Text) = .ok explanation ∧
      ∃ node ∈ Component.nodesOf explanation.components, node.kind = .quantifier := by
  have accepted : validate ("(?<é>a)" : Text) = .ok () := by decide +kernel
  exact ⟨_, explain_of_accepted accepted, by decide +kernel⟩

end Explanation

end RegexProse
