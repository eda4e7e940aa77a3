import RegexProse.Syntax.Symbol

/-!
# Expressions

The structure of a regular expression, as far as the rules for well-formed expressions ask for it.
What matches one character, and what asserts something about a place, is kept in its written form.
-/

set_option autoImplicit false

namespace RegexProse.Syntax

structure Bounds where
  least : Nat
  most : Nat
  deriving DecidableEq, Repr

/-- The upper bound that allows for any number of times, the largest number of 64 bits. -/
def Bounds.unlimited : Nat := 18446744073709551615

inductive Expression where
  | empty
  /-- Anything that matches one character. -/
  | character (symbols : List Symbol)
  /-- A statement about a place, such as that a line starts there. -/
  | assertion (symbols : List Symbol)
  /-- The statement that a word starts or ends at a place. -/
  | wordEdge
  /-- A mark of the match itself, such as where it starts. -/
  | mark
  /-- What a group has matched. -/
  | reference (number : Nat)
  /-- The question whether a group has matched. -/
  | test (number : Nat)
  | sequence (parts : List Expression)
  | alternation (branches : List Expression)
  /-- A group that captures what it matches. -/
  | group (number : Nat) (content : Expression)
  /-- A group that is never tried again once it has matched. -/
  | atomic (content : Expression)
  | lookAhead (content : Expression)
  | lookBehind (content : Expression)
  | repeated (bounds : Bounds) (content : Expression)
  | conditional (condition holds fails : Expression)

namespace Expression

def isEmpty : Expression → Bool
  | .empty => true
  | _ => false

/-- What is empty or matches no character by itself cannot be repeated. -/
def repeatable : Expression → Bool
  | .empty | .assertion _ | .wordEdge | .lookAhead _ | .lookBehind _ => false
  | _ => true

/-- Expressions in a row. Empty ones leave no trace, and one on its own needs no row. -/
def inSequence (parts : List Expression) : Expression :=
  match parts.filter (!·.isEmpty) with
  | [] => .empty
  | [part] => part
  | parts => .sequence parts

/-- Expressions of which one matches. One on its own needs no choice. -/
def inChoice (branches : List Expression) : Expression :=
  match branches with
  | [branch] => branch
  | branches => .alternation branches

/-- An expression as a condition. A reference becomes the question whether its group has matched. -/
def asCondition : Expression → Expression
  | .reference number => .test number
  | expression => expression

/-- The branch for a condition that holds and the one for a condition that fails. -/
def conditionalBranches : Expression → Expression × Expression
  | .alternation (holds :: others) => (holds, inChoice others)
  | body => (body, .empty)

/-- A condition and what depends on it. With two empty branches only the condition is left. -/
def inCondition (condition body : Expression) : Expression :=
  let (holds, fails) := conditionalBranches body
  if holds.isEmpty && fails.isEmpty then condition.asCondition
  else .conditional condition.asCondition holds fails

def addLengths (left right : Option Nat) : Option Nat := do
  let leftLength ← left
  let rightLength ← right
  some (leftLength + rightLength)

def commonLength : List (Option Nat) → Option Nat
  | [] => none
  | first :: others => if others.all (· = first) then first else none

mutual

/-- How many characters the expression matches, if that is always the same number. -/
def length? : Expression → Option Nat
  | .empty | .assertion _ | .wordEdge | .mark | .test _ | .lookAhead _ | .lookBehind _ => some 0
  | .character _ => some 1
  | .reference _ => none
  | .sequence parts => (lengths? parts).foldr addLengths (some 0)
  | .alternation branches => commonLength (lengths? branches)
  | .group _ content => length? content
  | .atomic content => length? content
  | .repeated bounds content =>
    if bounds.least = bounds.most then (length? content).map (· * bounds.least) else none
  | .conditional condition holds fails =>
    let whole := addLengths (length? condition) (length? holds)
    if whole = length? fails then whole else none

def lengths? : List Expression → List (Option Nat)
  | [] => []
  | expression :: rest => length? expression :: lengths? rest

end

/-- Whether one can look behind for the expression: it has a constant length, or it is an
alternation whose branches have one each. -/
def findableBehind (expression : Expression) : Bool :=
  (length? expression).isSome ||
    match expression with
    | .alternation branches => (lengths? branches).all Option.isSome
    | _ => false

mutual

def references : Expression → List Nat
  | .reference number | .test number => [number]
  | .sequence parts => referencesOfAll parts
  | .alternation branches => referencesOfAll branches
  | .group _ content | .atomic content | .lookAhead content | .lookBehind content
  | .repeated _ content => references content
  | .conditional condition holds fails =>
    references condition ++ references holds ++ references fails
  | _ => []

def referencesOfAll : List Expression → List Nat
  | [] => []
  | expression :: rest => references expression ++ referencesOfAll rest

end

mutual

/-- Whether an expression needs a memory of the match so far or a second try, when the groups with
the given numbers are referred to. Expressions that need neither are plain. -/
def needsMemory (referenced : List Nat) : Expression → Bool
  | .empty | .character _ | .assertion _ => false
  | .wordEdge | .mark | .reference _ | .test _ | .atomic _ | .lookAhead _ | .lookBehind _
  | .conditional _ _ _ => true
  | .sequence parts => anyNeedsMemory referenced parts
  | .alternation branches => anyNeedsMemory referenced branches
  | .group number content => referenced.contains number || needsMemory referenced content
  | .repeated _ content => needsMemory referenced content

def anyNeedsMemory (referenced : List Nat) : List Expression → Bool
  | [] => false
  | expression :: rest => needsMemory referenced expression || anyNeedsMemory referenced rest

end

end Expression

end RegexProse.Syntax
