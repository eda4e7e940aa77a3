import RegexProse.Component.Outline
import RegexProse.Text.Pad
import RegexProse.Text.Quoted
import RegexProse.Token.Basic

/-!
# Diagnostics

One line for each token of a pattern, and a warning for each group that is never closed.
-/

set_option autoImplicit false

namespace RegexProse.Report

def groupKindTag : GroupKind → Text
  | .capturing => "Capturing"
  | .namedCapturing => "NamedCapturing"
  | .nonCapturing => "NonCapturing"
  | .positiveLookahead => "PositiveLookahead"
  | .negativeLookahead => "NegativeLookahead"
  | .positiveLookbehind => "PositiveLookbehind"
  | .negativeLookbehind => "NegativeLookbehind"

def tagged (tag content : Text) : Text := tag ++ ['('] ++ content ++ [')']

def quantifierTag : Quantifier → Text
  | .zeroOrMore => "ZeroOrMore"
  | .oneOrMore => "OneOrMore"
  | .zeroOrOne => "ZeroOrOne"
  | .exactly count => tagged "Exactly" (Text.ofNat count)
  | .atLeast least => tagged "AtLeast" (Text.ofNat least)
  | .between least most =>
    tagged "Between" (Text.ofNat least ++ (", " : Text) ++ Text.ofNat most)

def tokenTag : TokenKind → Text
  | .escape char => tagged "Escape" (Text.quotedChar char)
  | .bracket => "Class"
  | .groupOpen kind => tagged "GroupOpen" (groupKindTag kind)
  | .groupClose => "GroupClose"
  | .setFlags => "SetFlags"
  | .quantifier quantifier => tagged "Quantifier" (quantifierTag quantifier)
  | .anyChar => "AnyChar"
  | .startAnchor => "StartAnchor"
  | .endAnchor => "EndAnchor"
  | .literal char => tagged "Literal" (Text.quotedChar char)

def tokenLine (token : Token) : Text :=
  Text.line <| ("token " : Text) ++ Text.pad .right 4 (Text.ofNat token.offset) ++ (": " : Text) ++
    Text.pad .left 24 (tokenTag token.kind) ++ [' '] ++ Text.quoted token.text

def tokenLines (tokens : List Token) : Text := tokens.flatMap tokenLine

def warningLine (component : Component) : Text :=
  Text.line <| ("warning: group '" : Text) ++ component.raw ++ ("' has no closing ')'" : Text)

/-- The warnings about all groups that are never closed, an outer group before the inner ones. -/
def warnings (components : List Component) : Text :=
  ((Component.outlineOf 0 components).filter (·.2.unterminated)).flatMap (warningLine ·.2)

end RegexProse.Report
