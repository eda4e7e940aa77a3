import RegexProse.Component.Kind
import RegexProse.Text.Enclosed
import RegexProse.Token.Basic

/-!
# Descriptions

What a single token means, in English. Escapes and bracket expressions with a name of their own are
called by it; any other escape stands for its character and any other bracket expression is spelled
out.
-/

set_option autoImplicit false

namespace RegexProse

structure Description where
  kind : ComponentKind
  words : Text
  deriving DecidableEq, Repr

namespace Description

def ofLiteral (char : Char) : Description := ⟨.literal, ['"', char, '"']⟩

def ofEscape : Char → Description
  | 'd' => ⟨.predefinedClass, "digit"⟩
  | 'D' => ⟨.predefinedClass, "non-digit"⟩
  | 'w' => ⟨.predefinedClass, "word character"⟩
  | 'W' => ⟨.predefinedClass, "non-word character"⟩
  | 's' => ⟨.predefinedClass, "whitespace"⟩
  | 'S' => ⟨.predefinedClass, "non-whitespace"⟩
  | 'b' => ⟨.anchor, "word boundary"⟩
  | 'B' => ⟨.anchor, "non-word boundary"⟩
  | 'n' => ⟨.literal, "newline"⟩
  | 'r' => ⟨.literal, "carriage return"⟩
  | 't' => ⟨.literal, "tab"⟩
  | char => ofLiteral char

/-- The bracket bodies that have a name, each with the name of one member. -/
def namedRanges : List (Text × Text) :=
  [("a-z", "lowercase letter"), ("A-Z", "uppercase letter"), ("0-9", "digit"),
    ("a-zA-Z", "letter"), ("a-zA-Z0-9", "alphanumeric character")]

def bodyWords (body : Text) : Text :=
  match namedRanges.lookup body with
  | some member => ("any " : Text) ++ member
  | none => ("any of these characters: " : Text) ++ body

def negatedWords (body : Text) : Text :=
  match namedRanges.lookup body with
  | some member => ("any character except " : Text) ++ member ++ ['s']
  | none => ("any character except " : Text) ++ body

/-- The words for a bracket expression, with or without its brackets. -/
def bracketWords (text : Text) : Text :=
  match (Text.enclosed? ['['] ']' text).getD text with
  | '^' :: body => negatedWords body
  | body => bodyWords body

def groupWords (kind : GroupKind) (content : Text) : Text :=
  ['('] ++ kind.label ++ (": " : Text) ++ content ++ [')']

/-- The words for a flag setting, with or without its parentheses. -/
def flagsWords (text : Text) : Text :=
  ("(set flags: " : Text) ++ (Text.enclosed? "(?" ')' text).getD text ++ [')']

/-- The description of a token on its own. A group opener counts as a group without content. -/
def ofToken (token : Token) : Description :=
  match token.kind with
  | .escape char => ofEscape char
  | .bracket => ⟨.characterClass, bracketWords token.text⟩
  | .groupOpen kind => ⟨.group, groupWords kind []⟩
  | .groupClose => ofLiteral ')'
  | .setFlags => ⟨.group, flagsWords token.text⟩
  | .quantifier quantifier => ⟨.quantifier, quantifier.phrase⟩
  | .anyChar => ⟨.predefinedClass, "any character"⟩
  | .startAnchor => ⟨.anchor, "start of the line"⟩
  | .endAnchor => ⟨.anchor, "end of the line"⟩
  | .literal char => ofLiteral char

end Description

end RegexProse
