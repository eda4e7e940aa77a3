import RegexProse.Syntax.Expression

/-!
# Written form of plain expressions

A plain expression as symbols. Parentheses that capture nothing stand where an operator would take
too little otherwise.
-/

set_option autoImplicit false

namespace RegexProse.Syntax

def Bounds.written (bounds : Bounds) : List Symbol :=
  Symbol.ofText <|
    if bounds = ⟨0, 1⟩ then ['?']
    else if bounds = ⟨0, unlimited⟩ then ['*']
    else if bounds = ⟨1, unlimited⟩ then ['+']
    else
      let least := Text.ofNat bounds.least
      if bounds.least = bounds.most then ['{'] ++ least ++ ['}']
      else if bounds.most = unlimited then ['{'] ++ least ++ [',', '}']
      else ['{'] ++ least ++ [','] ++ Text.ofNat bounds.most ++ ['}']

namespace Expression

/-- What an expression is a part of, from the outside to what binds most. -/
inductive Place where
  | whole
  | branch
  | part
  | operand
  deriving DecidableEq, Repr

def groupedIf (needed : Bool) (symbols : List Symbol) : List Symbol :=
  if needed then Symbol.grouped symbols else symbols

mutual

/-- The symbols of a plain expression at the given place. -/
def written (place : Place) : Expression → List Symbol
  | .character symbols | .assertion symbols => symbols
  | .sequence parts => groupedIf (place = .part || place = .operand) (writtenParts parts)
  | .alternation branches => groupedIf (place ≠ .whole) (writtenBranches branches)
  | .group _ content => [.plain '('] ++ written .whole content ++ [.plain ')']
  | .repeated bounds content =>
    groupedIf (place = .operand) (written .operand content ++ bounds.written)
  | _ => []

def writtenParts : List Expression → List Symbol
  | [] => []
  | part :: rest => written .part part ++ writtenParts rest

def writtenBranches : List Expression → List Symbol
  | [] => []
  | [branch] => written .branch branch
  | branch :: rest => written .branch branch ++ [.plain '|'] ++ writtenBranches rest

end

def writtenRow (parts : List Expression) : List Symbol := parts.flatMap (written .branch)

end Expression

end RegexProse.Syntax
