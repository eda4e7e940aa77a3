import RegexProse.Syntax.Plain
import RegexProse.Syntax.Reading
import RegexProse.Syntax.Written

/-!
# Well-formed patterns

Which patterns are well formed: those that can be read as an expression in which one can look behind
for all that is looked for there, and whose plain parts are well formed in the plain syntax. Plain
parts are as large as they can be; where an expression around them needs memory, neighbours of
constant length at either end of a sequence still go together.

An engine also limits the size of what it compiles, and refuses patterns such as `\w{1000}{1000}`
that are well formed but exceed it. That limit is not part of the syntax; it is assumed to be out of
reach here.
-/

set_option autoImplicit false

namespace RegexProse.Syntax

namespace Expression

mutual

/-- Whether one can look behind for all that is looked for there. -/
def canLookBehind : Expression → Bool
  | .sequence parts => allCanLookBehind parts
  | .alternation branches => allCanLookBehind branches
  | .group _ content | .atomic content | .lookAhead content | .repeated _ content =>
    canLookBehind content
  | .lookBehind content => findableBehind content && canLookBehind content
  | .conditional condition holds fails =>
    canLookBehind condition && canLookBehind holds && canLookBehind fails
  | _ => true

def allCanLookBehind : List Expression → Bool
  | [] => true
  | expression :: rest => canLookBehind expression && allCanLookBehind rest

end

/-- Whether an expression is plain and has a constant length. -/
def isFixed (referenced : List Nat) (expression : Expression) : Bool :=
  (length? expression).isSome && !needsMemory referenced expression

/-- Whether expressions in a row, each written out, are well formed in the plain syntax. -/
def rowAccepted (parts : List Expression) : Bool := Plain.accepts (writtenRow parts)

/-- How many expressions at the front pass the test. -/
def frontCount (test : Expression → Bool) (parts : List Expression) : Nat :=
  (parts.takeWhile test).length

/-- Whether the parts of a sequence are well formed, given the answer for each part on its own.
Those of constant length at its front go together, and so do those at its end, of any length if no
memory is needed around the sequence. -/
def partsAccepted (referenced : List Nat) (around : Bool) (parts : List Expression)
    (answers : List Bool) : Bool :=
  let fixed := isFixed referenced
  let front := frontCount fixed parts
  let closing := if around then fixed else fun part => !needsMemory referenced part
  let middle := parts.length - front - frontCount closing (parts.drop front).reverse
  rowAccepted (parts.take front) && ((answers.drop front).take middle).all id &&
    rowAccepted (parts.drop (front + middle))

mutual

/-- Whether the plain parts of an expression are well formed. The flag tells whether an expression
around it needs memory, so that it is not taken as a whole even if it is plain. -/
def accepted (referenced : List Nat) (around : Bool) : Expression → Bool
  | .character symbols => Plain.accepts symbols
  | .sequence parts =>
    if around || anyNeedsMemory referenced parts then
      partsAccepted referenced around parts (answers referenced true parts)
    else rowAccepted [.sequence parts]
  | .alternation branches =>
    if around || anyNeedsMemory referenced branches then
      (answers referenced around branches).all id
    else rowAccepted [.alternation branches]
  | .group number content =>
    if around || referenced.contains number || needsMemory referenced content then
      accepted referenced around content
    else rowAccepted [.group number content]
  | .repeated bounds content =>
    if around || needsMemory referenced content then
      accepted referenced (around || bounds ≠ ⟨0, 1⟩) content
    else rowAccepted [.repeated bounds content]
  | .atomic content | .lookAhead content => accepted referenced false content
  | .lookBehind content =>
    match length? content, content with
    | none, .alternation branches => (answers referenced false branches).all id
    | _, content => accepted referenced false content
  | .conditional condition holds fails =>
    accepted referenced around condition && accepted referenced around holds &&
      accepted referenced around fails
  | _ => true

def answers (referenced : List Nat) (around : Bool) : List Expression → List Bool
  | [] => []
  | expression :: rest =>
    accepted referenced around expression :: answers referenced around rest

end

/-- Whether all plain parts are well formed. An expression that is plain as a whole is one part. -/
def wellWritten (expression : Expression) : Bool :=
  let referenced := references expression
  if needsMemory referenced expression then accepted referenced true expression
  else Plain.accepts (written .whole expression)

end Expression

/-- Whether the pattern is well formed. It is accepted whatever size it would be compiled to, so all
patterns that an engine with a limit on that size accepts are among these. -/
def accepts (pattern : Text) : Bool :=
  (Expression.ofPattern? pattern).any fun expression =>
    expression.canLookBehind && expression.wellWritten

end RegexProse.Syntax
