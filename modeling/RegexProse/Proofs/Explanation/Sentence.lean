import RegexProse.Explanation
import RegexProse.Proofs.Bracket.Words
import RegexProse.Proofs.Piece.Folding
import RegexProse.Proofs.Quantifier.Words
import RegexProse.Proofs.Text.Trim
import RegexProse.Proofs.Token.Partition

/-!
# Sentences

The descriptions of a pattern in a row make its sentence. None of them begins with a blank, and only
one kind ends with a blank: that of a bracket expression without quantifiers, from the end of its
body. So the trimming of a sentence takes blanks from such a bracket expression at the end of the
pattern, and from nothing else.
-/

set_option autoImplicit false

namespace RegexProse

open Text

namespace Quantifier

private theorem solid_phrase (quantifier : Quantifier) :
    SolidHead quantifier.phrase ∧ SolidEnd quantifier.phrase := by
  unfold phrase
  cases quantifier with
  | zeroOrMore | oneOrMore | zeroOrOne => decide
  | exactly count => exact ⟨⟨'e', rfl, by decide⟩, SolidEnd.append (by decide) _⟩
  | atLeast least =>
      obtain ⟨digit, digits, written, -⟩ := exists_ofNat_eq least
      have solid : ¬ isBlank digit := by
        apply Solid.of_isDigit isDigit_of_mem_ofNat
        rw [written]
        exact List.mem_cons_self
      refine ⟨SolidHead.append ⟨digit, ?_, solid⟩ _, SolidEnd.append (by decide) _⟩
      rw [written]
      rfl
  | between least most => exact ⟨⟨'b', rfl, by decide⟩, SolidEnd.append (by decide) _⟩

end Quantifier

namespace QuantifierRun

private theorem solidEnd_wordsAfter {run : List Token}
    (quantifiers : ∀ token ∈ run, token.isQuantifier)
    (inhabited : run ≠ []) (greedyBefore : Bool) : SolidEnd (wordsAfter greedyBefore run) := by
  induction run generalizing greedyBefore with
  | nil => exact absurd rfl inhabited
  | cons token rest ih =>
      obtain ⟨head, tail⟩ := List.forall_mem_cons.mp quantifiers
      obtain ⟨quantifier, kind⟩ := Token.isQuantifier_iff.mp head
      have ends (words : Text) (solid : SolidEnd words) (greedy : Bool) :
          SolidEnd (words ++ wordsAfter greedy rest) := by
        cases rest with
        | nil => simpa [wordsAfter] using solid
        | cons next rest => exact (ih tail (List.cons_ne_nil _ _) greedy).append words
      rw [wordsAfter, Token.quantifier?_of_kind kind]
      split
      · exact ends _ (by decide) false
      · exact ends _ (quantifier.solid_phrase.2.append [' ']) true

private theorem solidEnd_append_words {run : List Token} {atom : Text}
    (quantifiers : ∀ token ∈ run, token.isQuantifier) (solid : run = [] → SolidEnd atom) :
    SolidEnd (atom ++ words run) := by
  cases run with
  | nil =>
      rw [words, wordsAfter, List.append_nil]
      exact solid rfl
  | cons token run =>
      exact (solidEnd_wordsAfter quantifiers (List.cons_ne_nil _ _) false).append atom

end QuantifierRun

namespace Description

private theorem solid_ofEscape (char : Char) :
    SolidHead (ofEscape char).words ∧ SolidEnd (ofEscape char).words := by
  unfold ofEscape
  split
  case h_12 => exact ⟨⟨'"', rfl, by decide⟩, ⟨'"', rfl, by decide⟩⟩
  all_goals decide

/-- No token but a bracket expression puts a blank at either end of its words. -/
theorem solid_ofToken {token : Token} (noBracket : token.kind ≠ .bracket) :
    SolidHead (ofToken token).words ∧ SolidEnd (ofToken token).words := by
  unfold ofToken
  cases kind : token.kind with
  | escape char => exact solid_ofEscape char
  | bracket => exact absurd kind noBracket
  | groupOpen => exact ⟨⟨'(', rfl, by decide⟩, SolidEnd.append (by decide) _⟩
  | setFlags => exact ⟨⟨'(', rfl, by decide⟩, SolidEnd.append (by decide) _⟩
  | quantifier quantifier => exact quantifier.solid_phrase
  | groupClose | anyChar | startAnchor | endAnchor =>
      dsimp only
      decide
  | literal => exact ⟨⟨'"', rfl, by decide⟩, ⟨'"', rfl, by decide⟩⟩

private theorem solidHead_bracketWords (text : Text) : SolidHead (bracketWords text) := by
  have any (named : Text) : SolidHead (("any " : Text) ++ named) := SolidHead.append (by decide) _
  unfold bracketWords
  generalize (enclosed? ['['] ']' text).getD text = inner
  split
  case h_1 body =>
    rw [negatedWords_eq]
    exact any _
  case h_2 =>
    cases found : namedRanges.lookup inner with
    | some member =>
        rw [bodyWords_named found]
        exact any _
    | none =>
        rw [bodyWords_spelled found]
        exact any _

private theorem solidEnd_of_mem_namedRanges {body member : Text}
    (named : (body, member) ∈ namedRanges) :
    SolidEnd body ∧ SolidEnd (member ++ ['s']) ∧ SolidEnd member := by
  have each : ∀ range ∈ namedRanges, SolidEnd range.1 ∧ SolidEnd (range.2 ++ ['s']) ∧
    SolidEnd range.2 := by decide
  exact each _ named

section Ends

variable {body : Text} (inhabited : body ≠ [])
include inhabited

theorem blankEnd_bodyWords_iff : BlankEnd (bodyWords body) ↔ BlankEnd body := by
  cases found : namedRanges.lookup body with
  | some member =>
      obtain ⟨solid, -, solidMember⟩ := solidEnd_of_mem_namedRanges (mem_namedRanges found)
      rw [bodyWords_named found]
      exact iff_of_false (solidMember.append _).not_blankEnd solid.not_blankEnd
  | none => rw [bodyWords_spelled found, ← List.append_assoc, blankEnd_append_iff _ inhabited]

theorem blankEnd_negatedWords_iff : BlankEnd (negatedWords body) ↔ BlankEnd body := by
  rw [negatedWords_eq, ← List.append_assoc]
  cases found : namedRanges.lookup body with
  | some member =>
      obtain ⟨solid, solidName, -⟩ := solidEnd_of_mem_namedRanges (mem_namedRanges found)
      rw [complementName_named found]
      exact iff_of_false (solidName.append _).not_blankEnd solid.not_blankEnd
  | none => rw [complementName_spelled found, blankEnd_append_iff _ inhabited]

end Ends

theorem blankEnd_bracketWords_iff {pattern : Text} {token : Token}
    (member : token ∈ Token.tokenize pattern) (bracket : token.kind = .bracket) :
    BlankEnd (bracketWords token.text) ↔
      ∃ body, token.text = '[' :: (body ++ [']']) ∧ BlankEnd body := by
  obtain ⟨negated, body, text, inhabited, noCaret⟩ := Token.exists_body_of_bracket member bracket
  have ends : BlankEnd (bracketWords token.text) ↔ BlankEnd body := by
    rw [text]
    cases negated with
    | true => rw [bracketWords_negated, blankEnd_negatedWords_iff inhabited]
    | false => rw [bracketWords_plain (noCaret rfl), blankEnd_bodyWords_iff inhabited]
  rw [ends, ← blankEnd_append_iff (if negated then ['^'] else []) inhabited, text, bracketed]
  constructor
  · intro blankEnd
    exact ⟨_, rfl, blankEnd⟩
  · intro spelledBlank
    obtain ⟨inner, spelled, blankEnd⟩ := spelledBlank
    rw [List.append_cancel_right (List.cons.inj spelled).2]
    exact blankEnd

end Description

namespace Piece

/-- The piece is a bracket expression with no quantifier on it, and its body ends with a blank. -/
def EndsBlank (piece : Piece) : Prop :=
  ∃ token body, piece = .single token [] ∧ token.kind = .bracket ∧
    token.text = '[' :: (body ++ [']']) ∧ BlankEnd body

private theorem words_bracket {token : Token} (bracket : token.kind = .bracket) (run : List Token) :
    (single token run).words = Description.bracketWords token.text := by
  rw [words, Description.ofToken, bracket]

private theorem solidHead_words (piece : Piece) : SolidHead piece.words := by
  cases piece with
  | single token run =>
      by_cases bracket : token.kind = .bracket
      · rw [words_bracket bracket]
        exact Description.solidHead_bracketWords token.text
      · exact (Description.solid_ofToken bracket).1
  | group => exact ⟨'(', rfl, by decide⟩

theorem solidHead_description (piece : Piece) : SolidHead (component piece).description := by
  rw [description_component]
  exact piece.solidHead_words.append _

/-- Only the description of a bracket expression without quantifiers may end with a blank. -/
theorem blankEnd_description_iff {pattern : Text} {piece : Piece}
    (stands : Stands (Token.tokenize pattern) piece) :
    BlankEnd (component piece).description ↔ piece.EndsBlank := by
  rw [description_component]
  obtain ⟨index, stands⟩ := stands
  cases stands with
  | @group before after opener kind run whole opens quantifiers =>
      have solid := QuantifierRun.solidEnd_append_words quantifiers fun _ =>
        SolidEnd.append (by decide : SolidEnd [')'])
          (['('] ++ kind.label ++ (": " : Text) ++
            Token.texts (tokensOf (ofTokens (GroupBody.split 0 after).inner)))
      refine iff_of_false solid.not_blankEnd ?_
      rintro ⟨token, body, same, -⟩
      cases same
  | @single before after token run whole notOpen quantifiers =>
      have member : token ∈ Token.tokenize pattern := by simp [whole]
      by_cases alone : run = [] ∧ token.kind = .bracket
      · obtain ⟨rfl, bracket⟩ := alone
        have description : (single token []).words ++ QuantifierRun.words (single token []).run =
            Description.bracketWords token.text := by
          rw [words_bracket bracket]
          exact List.append_nil _
        rw [description, Description.blankEnd_bracketWords_iff member bracket]
        constructor
        · rintro ⟨body, text, blankEnd⟩
          exact ⟨token, body, rfl, bracket, text, blankEnd⟩
        · rintro ⟨_, body, same, -, text, blankEnd⟩
          cases same
          exact ⟨body, text, blankEnd⟩
      · have solid := QuantifierRun.solidEnd_append_words quantifiers fun lone =>
          (Description.solid_ofToken fun bracket => alone ⟨lone, bracket⟩).2
        refine iff_of_false solid.not_blankEnd ?_
        rintro ⟨_, body, same, bracket, -⟩
        cases same
        exact alone ⟨rfl, bracket⟩

end Piece

namespace Text

variable (separator : Text)

theorem exists_intercalate_cons (first : Text) (rest : List Text) :
    ∃ behind, separator.intercalate (first :: rest) = first ++ behind := by
  cases rest with
  | nil => exact ⟨[], by rw [List.intercalate_singleton, List.append_nil]⟩
  | cons next rest =>
      exact ⟨_, by rw [List.intercalate_cons_cons, List.append_assoc]⟩

theorem exists_intercalate_concat (front : List Text) (last : Text) :
    ∃ before, separator.intercalate (front ++ [last]) = before ++ last := by
  induction front with
  | nil => exact ⟨[], List.intercalate_singleton⟩
  | cons first front ih =>
      obtain ⟨before, ends⟩ := ih
      refine ⟨first ++ separator ++ before, ?_⟩
      rw [List.cons_append, List.intercalate_cons_of_ne_nil (by simp), ends]
      simp only [List.append_assoc]

end Text

namespace Piece

theorem raw_ne_nil {pattern : Text} {piece : Piece}
    (stands : Stands (Token.tokenize pattern) piece) : (component piece).raw ≠ [] := by
  have first {token : Token} (member : token ∈ Token.tokenize pattern) (rest : List Token) :
      Token.texts (token :: rest) ≠ [] := by
    rw [Token.texts_cons]
    exact List.append_ne_nil_of_left_ne_nil (Token.text_ne_nil_of_mem_tokenizeFrom member) _
  rw [raw_component]
  obtain ⟨index, stands⟩ := stands
  cases stands with
  | single whole => exact first (whole ▸ List.mem_append_right _ List.mem_cons_self) _
  | group whole => exact first (whole ▸ List.mem_append_right _ List.mem_cons_self) _

theorem ofTokens_ne_nil {pattern : Text} (inhabited : pattern ≠ []) :
    ofTokens (Token.tokenize pattern) ≠ [] := by
  intro nothing
  have covers := congrArg Token.texts (tokensOf_ofTokens (Token.tokenize pattern))
  rw [nothing, Token.tokenize, Token.texts_tokenizeFrom] at covers
  exact inhabited covers.symm

end Piece

namespace Explanation

/-- The descriptions of components in a row, before blanks are trimmed. -/
def joined (components : List Component) : Text :=
  connective.intercalate (components.map Component.description)

private theorem solidHead_joined {pieces : List Piece} (inhabited : pieces ≠ []) :
    SolidHead (joined (Piece.components pieces)) := by
  cases pieces with
  | nil => exact absurd rfl inhabited
  | cons first rest =>
      obtain ⟨behind, begins⟩ := exists_intercalate_cons connective
        (Piece.component first).description ((Piece.components rest).map Component.description)
      rw [joined, Piece.components, List.map_cons, begins]
      exact first.solidHead_description.append behind

theorem blankEnd_joined_iff {pattern : Text} {pieces : List Piece} (inhabited : pieces ≠ [])
    (stands : ∀ piece ∈ pieces, Piece.Stands (Token.tokenize pattern) piece) :
    BlankEnd (joined (Piece.components pieces)) ↔
      ∃ last ∈ pieces.getLast?, last.EndsBlank := by
  rcases List.eq_nil_or_concat pieces with rfl | ⟨front, last, rfl⟩
  · exact absurd rfl inhabited
  rw [List.concat_eq_append] at stands ⊢
  obtain ⟨before, ends⟩ := exists_intercalate_concat connective
    ((front.map Piece.component).map Component.description) (Piece.component last).description
  have whole : joined (Piece.components (front ++ [last])) =
      before ++ (Piece.component last).description := by
    rw [joined, Piece.components_eq_map, List.map_append, List.map_append, ← ends]
    rfl
  have described := last.solidHead_description.ne_nil
  rw [whole, blankEnd_append_iff before described,
    Piece.blankEnd_description_iff (stands last (by simp))]
  simp

/-- The explanation of a pattern that is not empty has components, all of them with characters and a
description that begins with no blank. Its sentence is their descriptions in a row, without the
blanks at the end of a bracket expression that ends the pattern and has no quantifier on it. -/
theorem sentence_assembled {pattern : Text} (inhabited : pattern ≠ []) :
    let explanation := ofPattern pattern
    explanation.components ≠ [] ∧
      (∀ node ∈ Component.nodesOf explanation.components,
        node.raw ≠ [] ∧ SolidHead node.description) ∧
      explanation.fullDescription ≠ [] ∧
      ∃ tail, joined explanation.components = explanation.fullDescription ++ tail ∧ Blank tail ∧
        SolidEnd explanation.fullDescription ∧
        (tail ≠ [] ↔
          ∃ last ∈ (Piece.ofTokens (Token.tokenize pattern)).getLast?, last.EndsBlank) := by
  intro explanation
  have pieces := Piece.ofTokens_ne_nil inhabited
  obtain ⟨tail, whole, blank, solid, trimmed⟩ := exists_tail_of_solidHead (solidHead_joined pieces)
  refine ⟨?_, ?_, solid.ne_nil, tail, whole, blank, solid, ?_⟩
  · intro nothing
    have none : (Piece.ofTokens (Token.tokenize pattern)).map Piece.component = [] := by
      rw [← Piece.components_eq_map]
      exact nothing
    exact pieces (List.map_eq_nil_iff.mp none)
  · intro node member
    have nodes : Component.nodesOf explanation.components =
        (Piece.nodesOf (Piece.ofTokens (Token.tokenize pattern))).map Piece.component :=
      Piece.nodesOf_components _
    rw [nodes] at member
    obtain ⟨piece, held, rfl⟩ := List.mem_map.mp member
    exact ⟨Piece.raw_ne_nil (Piece.stands_of_mem_nodesOf held), piece.solidHead_description⟩
  · rw [trimmed]
    exact blankEnd_joined_iff pieces fun piece => Piece.stands_of_mem_ofTokens

/-- Where nothing but blanks is excluded, trimming reaches into the words before the body. -/
theorem sentence_assembled_blank_body :
    let pattern : Text := "a[^ \t]"
    pattern ≠ [] ∧ (ofPattern pattern).fullDescription = "\"a\" followed by any character except" ∧
      ∃ tail, joined (ofPattern pattern).components =
        (ofPattern pattern).fullDescription ++ tail ∧ Blank tail ∧ tail ≠ [] := by
  intro pattern
  have inhabited : pattern ≠ [] := by decide
  obtain ⟨-, -, -, tail, whole, blank, -, trimmed⟩ := sentence_assembled inhabited
  let letter : Token := ⟨.literal 'a', "a", 0⟩
  let bracket : Token := ⟨.bracket, "[^ \t]", 1⟩
  have tokens : Token.tokenize pattern = [letter, bracket] := by decide +kernel
  have last : (Piece.ofTokens [letter, bracket]).getLast? = some (.single bracket []) := by
    cbv
  refine ⟨inhabited, by decide +kernel, tail, whole, blank, trimmed.mpr ?_⟩
  rw [tokens, last]
  exact ⟨_, rfl, bracket, "^ \t", rfl, rfl, by decide, '\t', rfl, by decide⟩

end Explanation

end RegexProse
