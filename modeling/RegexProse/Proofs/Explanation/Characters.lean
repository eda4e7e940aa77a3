import RegexProse.Explanation
import RegexProse.Proofs.Bracket.Words
import RegexProse.Proofs.Piece.Folding

/-!
# Characters of descriptions

The words of a description are printable ASCII. Whatever else stands in a description is from the
characters that it describes, and these are from the pattern.
-/

set_option autoImplicit false

namespace RegexProse

namespace Text

def isPrintable (char : Char) : Bool := ' ' ≤ char && char ≤ '~'

/-- Each character of the text is printable or from the source. -/
def DrawnFrom (source text : Text) : Prop := ∀ char ∈ text, isPrintable char ∨ char ∈ source

private theorem isPrintable_of_isDigit {char : Char} (digit : char.isDigit) : isPrintable char := by
  simp only [Char.isDigit, isPrintable, Bool.and_eq_true, decide_eq_true_eq, ge_iff_le, Char.le_def,
    UInt32.le_iff_toNat_le] at digit ⊢
  have space : (' ' : Char).val.toNat = 32 := rfl
  have tilde : ('~' : Char).val.toNat = 126 := rfl
  have zero : ('0' : Char).val.toNat = 48 := rfl
  have nine : ('9' : Char).val.toNat = 57 := rfl
  omega

theorem drawnFrom_append_iff {source left right : Text} :
    DrawnFrom source (left ++ right) ↔ DrawnFrom source left ∧ DrawnFrom source right :=
  List.forall_mem_append

private theorem drawnFrom_of_printable {text : Text} (printable : text.all isPrintable)
    (source : Text) :
    DrawnFrom source text :=
  fun char member => .inl (List.all_eq_true.mp printable char member)

private theorem drawnFrom_self (text : Text) : DrawnFrom text text := fun _ => .inr

theorem DrawnFrom.mono {source larger text : Text} (drawn : DrawnFrom source text)
    (within : source ⊆ larger) : DrawnFrom larger text :=
  fun char member => (drawn char member).imp id fun held => within held

end Text

open Text

private theorem Quantifier.isPrintable_phrase (quantifier : Quantifier) :
    quantifier.phrase.all isPrintable := by
  have digits (number : Nat) : (ofNat number).all isPrintable :=
    List.all_eq_true.mpr fun char member => isPrintable_of_isDigit (isDigit_of_mem_ofNat char member)
  unfold phrase
  cases quantifier with
  | zeroOrMore | oneOrMore | zeroOrOne => decide
  | exactly | atLeast | between =>
      simp only [List.all_append, digits, Bool.and_true, Bool.true_and]
      decide

namespace QuantifierRun

private theorem isPrintable_wordsAfter (greedyBefore : Bool) (run : List Token) :
    (wordsAfter greedyBefore run).all isPrintable := by
  have space : isPrintable ' ' := by decide
  fun_induction wordsAfter greedyBefore run with
  | case1 => rfl
  | case2 greedyBefore token rest marks ih =>
      rw [List.all_append, ih, Bool.and_true]
      decide
  | case3 greedyBefore token rest greedy quantifier denotes ih =>
      simp only [List.cons_append, List.all_cons, List.all_append, space,
        quantifier.isPrintable_phrase, ih, Bool.and_true]
  | case4 greedyBefore token rest greedy none ih => exact ih

end QuantifierRun

namespace Description

private theorem drawnFrom_ofLiteral {source : Text} {char : Char} (held : char ∈ source) :
    DrawnFrom source (ofLiteral char).words := by
  have quote : isPrintable '"' := by decide
  simp [ofLiteral, DrawnFrom, quote, held]

private theorem drawnFrom_ofEscape {source : Text} {char : Char} (held : char ∈ source) :
    DrawnFrom source (ofEscape char).words := by
  unfold ofEscape
  split
  case h_12 => exact drawnFrom_ofLiteral held
  all_goals exact drawnFrom_of_printable (by decide) source

private theorem enclosed?_getD_subset (opening : Text) (closing : Char) (text : Text) :
    (enclosed? opening closing text).getD text ⊆ text := by
  cases found : enclosed? opening closing text with
  | none => exact List.Subset.refl text
  | some inner =>
      rw [Option.getD_some, enclosed?_eq_some_iff.mp found]
      intro char member
      simp [member]

private theorem isPrintable_of_lookup {body member : Text}
    (found : namedRanges.lookup body = some member) :
    member.all isPrintable := by
  have each : ∀ range ∈ namedRanges, range.2.all isPrintable := by decide
  exact each _ (mem_namedRanges found)

private theorem drawnFrom_bodyWords (body : Text) : DrawnFrom body (bodyWords body) := by
  cases found : namedRanges.lookup body with
  | some member =>
      rw [bodyWords_named found, drawnFrom_append_iff]
      exact ⟨drawnFrom_of_printable (by decide) _,
        drawnFrom_of_printable (isPrintable_of_lookup found) _⟩
  | none =>
      rw [bodyWords_spelled found, drawnFrom_append_iff, drawnFrom_append_iff]
      exact ⟨drawnFrom_of_printable (by decide) _, drawnFrom_of_printable (by decide) _,
        drawnFrom_self body⟩

private theorem drawnFrom_negatedWords (body : Text) : DrawnFrom body (negatedWords body) := by
  rw [negatedWords_eq, drawnFrom_append_iff, drawnFrom_append_iff]
  refine ⟨drawnFrom_of_printable (by decide) _, drawnFrom_of_printable (by decide) _, ?_⟩
  cases found : namedRanges.lookup body with
  | some member =>
      rw [complementName_named found, drawnFrom_append_iff]
      exact ⟨drawnFrom_of_printable (isPrintable_of_lookup found) _,
        drawnFrom_of_printable (by decide) _⟩
  | none =>
      rw [complementName_spelled found]
      exact drawnFrom_self body

private theorem drawnFrom_bracketWords (text : Text) : DrawnFrom text (bracketWords text) := by
  have within := enclosed?_getD_subset ['['] ']' text
  unfold bracketWords
  generalize (enclosed? ['['] ']' text).getD text = inner at within
  split
  case h_1 body =>
    exact (drawnFrom_negatedWords body).mono fun char held => within (List.mem_cons_of_mem _ held)
  case h_2 => exact (drawnFrom_bodyWords inner).mono within

private theorem drawnFrom_flagsWords (text : Text) : DrawnFrom text (flagsWords text) := by
  unfold flagsWords
  simp only [drawnFrom_append_iff]
  refine ⟨⟨drawnFrom_of_printable (by decide) text, ?_⟩, drawnFrom_of_printable (by decide) text⟩
  exact (drawnFrom_self _).mono (enclosed?_getD_subset _ _ text)

private theorem drawnFrom_groupWords (kind : GroupKind) (content : Text) :
    DrawnFrom content (groupWords kind content) := by
  have label : kind.label.all isPrintable := by cases kind <;> decide
  unfold groupWords
  simp only [drawnFrom_append_iff]
  exact ⟨⟨⟨⟨drawnFrom_of_printable (by decide) _, drawnFrom_of_printable label _⟩,
    drawnFrom_of_printable (by decide) _⟩, drawnFrom_self content⟩,
    drawnFrom_of_printable (by decide) _⟩

private theorem drawnFrom_ofToken {token : Token} {behind : Text}
    (agrees : token.kind.Agrees token.text behind) :
    DrawnFrom token.text (ofToken token).words := by
  unfold ofToken
  cases kind : token.kind with
  | escape char =>
      rw [kind] at agrees
      have text : token.text = ['\\', char] := agrees
      exact drawnFrom_ofEscape (by simp [text])
  | bracket => exact drawnFrom_bracketWords token.text
  | groupOpen group => exact (drawnFrom_groupWords group []).mono (List.nil_subset _)
  | setFlags => exact drawnFrom_flagsWords token.text
  | quantifier quantifier => exact drawnFrom_of_printable quantifier.isPrintable_phrase _
  | groupClose | anyChar | startAnchor | endAnchor =>
      dsimp only
      exact drawnFrom_of_printable (by decide) _
  | literal char =>
      rw [kind] at agrees
      exact drawnFrom_ofLiteral (by simp [agrees.1])

end Description

namespace Piece

mutual

private theorem tokens_subset_of_mem_nodes {node : Piece} : (piece : Piece) → node ∈ nodes piece →
    node.tokens ⊆ piece.tokens
  | .single token run, member => by
      rw [nodes, List.mem_singleton] at member
      rw [member]
      exact List.Subset.refl _
  | .group opener kind content closer run, member => by
      rw [nodes, List.mem_cons] at member
      rcases member with rfl | member
      · exact List.Subset.refl _
      · intro token held
        have inside := tokens_subset_of_mem_nodesOf content member held
        simp [tokens, inside]

private theorem tokens_subset_of_mem_nodesOf {node : Piece} : (pieces : List Piece) →
    node ∈ nodesOf pieces → node.tokens ⊆ tokensOf pieces
  | [], member => by
      rw [nodesOf] at member
      cases member
  | piece :: rest, member => by
      rw [nodesOf, List.mem_append] at member
      rw [tokensOf]
      rcases member with member | member
      · exact List.subset_append_of_subset_left _ (tokens_subset_of_mem_nodes piece member)
      · exact List.subset_append_of_subset_right _ (tokens_subset_of_mem_nodesOf rest member)

end

theorem raw_subset {pattern : Text} {piece : Piece}
    (member : piece ∈ nodesOf (ofTokens (Token.tokenize pattern))) :
    (component piece).raw ⊆ pattern := by
  have within := tokens_subset_of_mem_nodesOf _ member
  rw [tokensOf_ofTokens] at within
  have covers : Token.texts (Token.tokenize pattern) = pattern := Token.texts_tokenizeFrom 0 pattern
  intro char held
  rw [raw_component, text, Token.texts, List.mem_flatMap] at held
  obtain ⟨token, among, inside⟩ := held
  rw [← covers]
  exact List.mem_flatMap.mpr ⟨token, within among, inside⟩

/-- A description shows no characters but printable ones and those of its component. -/
theorem drawnFrom_description {pattern : Text} {piece : Piece}
    (stands : Stands (Token.tokenize pattern) piece) :
    DrawnFrom (component piece).raw (component piece).description := by
  rw [description_component, drawnFrom_append_iff, raw_component]
  refine ⟨?_, drawnFrom_of_printable (QuantifierRun.isPrintable_wordsAfter false _) _⟩
  obtain ⟨index, stands⟩ := stands
  cases stands with
  | @single before after token run whole =>
      have member : token ∈ Token.tokenize pattern := by simp [whole]
      obtain ⟨behind, agrees⟩ := Token.agrees_of_mem_tokenize member
      rw [text_single]
      exact (Description.drawnFrom_ofToken agrees).mono (List.subset_append_left _ _)
  | group =>
      rw [text_group, words]
      apply (Description.drawnFrom_groupWords _ _).mono
      intro char held
      simp [held]

end Piece

end RegexProse
