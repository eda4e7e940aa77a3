import Mathlib.Data.List.Chain
import RegexProse.Explanation
import RegexProse.Proofs.Token.Construct

/-!
# Syntax trees

The patterns that are explained in full, as trees: how each is written, the tokens it is made of,
and the components that explain it. None of this goes through the tokenizer or through the resolver
of groups.
-/

set_option autoImplicit false

namespace RegexProse.Grammar

/-- How often an atom repeats, in the form in which it is written. -/
inductive Quantity where
  | star
  | plus
  | optional
  | exactly (count : UInt32)
  | atLeast (least : UInt32)
  | atMost (most : UInt32)
  | between (least most : UInt32)
  deriving DecidableEq

namespace Quantity

def text : Quantity → Text
  | .star => ['*']
  | .plus => ['+']
  | .optional => ['?']
  | .exactly count => '{' :: (Text.ofNat count.toNat ++ ['}'])
  | .atLeast least => '{' :: (Text.ofNat least.toNat ++ [',', '}'])
  | .atMost most => '{' :: ',' :: (Text.ofNat most.toNat ++ ['}'])
  | .between least most =>
    '{' :: (Text.ofNat least.toNat ++ ',' :: (Text.ofNat most.toNat ++ ['}']))

def meaning : Quantity → Quantifier
  | .star => .zeroOrMore
  | .plus => .oneOrMore
  | .optional => .zeroOrOne
  | .exactly count => .exactly count.toNat
  | .atLeast least => .atLeast least.toNat
  | .atMost most => .between 0 most.toNat
  | .between least most => .between least.toNat most.toNat

end Quantity

structure Repetition where
  quantity : Quantity
  lazy : Bool

/-- What a token is and the characters that it covers. -/
abbrev Lexeme := TokenKind × Text

def Lexeme.texts (lexemes : List Lexeme) : Text := lexemes.flatMap Prod.snd

namespace Repetition

def text (repetition : Repetition) : Text :=
  repetition.quantity.text ++ if repetition.lazy then ['?'] else []

def lexemes (repetition : Repetition) : List Lexeme :=
  (.quantifier repetition.quantity.meaning, repetition.quantity.text) ::
    if repetition.lazy then [(.quantifier .zeroOrOne, ['?'])] else []

def words (repetition : Repetition) : Text :=
  ' ' :: repetition.quantity.meaning.phrase ++ if repetition.lazy then (" (lazy)" : Text) else []

/-- A question mark directly after a quantifier that is not lazy would make it lazy. -/
def Separate (earlier later : Repetition) : Prop :=
  later.quantity = .optional → earlier.lazy = true

end Repetition

/-- The quantifiers on one atom. -/
structure Repetitions where
  list : List Repetition
  separate : list.IsChain Repetition.Separate

namespace Repetitions

def text (repetitions : Repetitions) : Text := repetitions.list.flatMap Repetition.text

def lexemes (repetitions : Repetitions) : List Lexeme :=
  repetitions.list.flatMap Repetition.lexemes

def words (repetitions : Repetitions) : Text := repetitions.list.flatMap Repetition.words

end Repetitions

/-- The characters that never stand for themselves. -/
def reserved : List Char := ['\\', '[', '(', ')', '{', '.', '^', '$', '*', '+', '?']

/-- An atom without content. -/
inductive Leaf where
  | literal (char : Char) (plain : char ∉ reserved)
  | escape (char : Char)
  | anyChar
  | startAnchor
  | endAnchor
  | bracket (text : Text) (expression : Bracket.Expression text)
  | setFlags (flags : Text) (valid : Opener.isFlags flags)

namespace Leaf

def text : Leaf → Text
  | .literal char _ => [char]
  | .escape char => ['\\', char]
  | .anyChar => ['.']
  | .startAnchor => ['^']
  | .endAnchor => ['$']
  | .bracket text _ => text
  | .setFlags flags _ => '(' :: '?' :: (flags ++ [')'])

def kind : Leaf → TokenKind
  | .literal char _ => .literal char
  | .escape char => .escape char
  | .anyChar => .anyChar
  | .startAnchor => .startAnchor
  | .endAnchor => .endAnchor
  | .bracket _ _ => .bracket
  | .setFlags _ _ => .setFlags

def description : Leaf → Description
  | .literal char _ => ⟨.literal, ['"', char, '"']⟩
  | .escape char => Description.ofEscape char
  | .anyChar => ⟨.predefinedClass, "any character"⟩
  | .startAnchor => ⟨.anchor, "start of the line"⟩
  | .endAnchor => ⟨.anchor, "end of the line"⟩
  | .bracket text _ => ⟨.characterClass, Description.bracketWords text⟩
  | .setFlags flags _ => ⟨.group, ("(set flags: " : Text) ++ flags ++ [')']⟩

end Leaf

inductive Opening where
  | capturing
  | nonCapturing
  | underFlags (flags : Text) (valid : Opener.isFlags flags)
  | positiveLookahead
  | negativeLookahead
  | positiveLookbehind
  | negativeLookbehind
  | named (name : Text) (valid : Opener.isName name)
  | namedWithP (name : Text) (valid : Opener.isName name)

namespace Opening

def text : Opening → Text
  | .capturing => "("
  | .nonCapturing => "(?:"
  | .underFlags flags _ => '(' :: '?' :: (flags ++ [':'])
  | .positiveLookahead => "(?="
  | .negativeLookahead => "(?!"
  | .positiveLookbehind => "(?<="
  | .negativeLookbehind => "(?<!"
  | .named name _ => '(' :: '?' :: '<' :: (name ++ ['>'])
  | .namedWithP name _ => '(' :: '?' :: 'P' :: '<' :: (name ++ ['>'])

def kind : Opening → GroupKind
  | .capturing => .capturing
  | .nonCapturing | .underFlags _ _ => .nonCapturing
  | .positiveLookahead => .positiveLookahead
  | .negativeLookahead => .negativeLookahead
  | .positiveLookbehind => .positiveLookbehind
  | .negativeLookbehind => .negativeLookbehind
  | .named _ _ | .namedWithP _ _ => .namedCapturing

end Opening

/-- Atoms in a row, each with the quantifiers on it: an atom without content, or a group. -/
inductive Sequence where
  | empty
  | leaf (atom : Leaf) (repetitions : Repetitions) (rest : Sequence)
  | group (opening : Opening) (content : Sequence) (repetitions : Repetitions) (rest : Sequence)

namespace Sequence

/-- The pattern that the sequence is written as. -/
def text : Sequence → Text
  | .empty => []
  | .leaf atom repetitions rest => atom.text ++ repetitions.text ++ text rest
  | .group opening content repetitions rest =>
    opening.text ++ text content ++ [')'] ++ repetitions.text ++ text rest

def lexemes : Sequence → List Lexeme
  | .empty => []
  | .leaf atom repetitions rest => (atom.kind, atom.text) :: (repetitions.lexemes ++ lexemes rest)
  | .group opening content repetitions rest =>
    (.groupOpen opening.kind, opening.text) ::
      (lexemes content ++ (.groupClose, [')']) :: (repetitions.lexemes ++ lexemes rest))

/-- The explanation of the sequence: one component for each atom, and in that of a group those of
its content. -/
def components : Sequence → List Component
  | .empty => []
  | .leaf atom repetitions rest =>
    { kind := atom.description.kind
      raw := atom.text ++ repetitions.text
      description := atom.description.words ++ repetitions.words
      children := []
      unterminated := false } :: components rest
  | .group opening content repetitions rest =>
    { kind := .group
      raw := opening.text ++ text content ++ [')'] ++ repetitions.text
      description := '(' :: (opening.kind.label ++ ": " ++ text content ++ [')']) ++
        repetitions.words
      children := components content
      unterminated := false } :: components rest

end Sequence

end RegexProse.Grammar
