import RegexProse.Syntax.BracketText
import RegexProse.Syntax.Flags
import RegexProse.Syntax.Reference
import RegexProse.Syntax.Repetition

/-!
# Reading expressions

A pattern read from left to right as an expression. Groups nest to a fixed depth.
-/

set_option autoImplicit false

namespace RegexProse.Syntax

/-- Reads a part of an expression, with the cursor in front of it. -/
abbrev Reader := Cursor → Option (Expression × Cursor)

namespace Cursor

/-- What matches one character, under the flag for case if it is set. -/
def character (symbols : List Symbol) (cursor : Cursor) : Expression :=
  .character (if cursor.flags.ignoreCase then Symbol.underFlag 'i' symbols else symbols)

/-- The start or the end of the text, or of a line if lines are told apart. -/
def edge (mark : Char) (cursor : Cursor) : Expression :=
  .assertion <|
    if cursor.flags.multiLine then Symbol.underFlag 'm' [.plain mark] else [.plain mark]

/-- Any character, line ends among them if the flag for that is set. -/
def anyCharacter (cursor : Cursor) : Expression :=
  .character <|
    if cursor.flags.acrossLines then Symbol.underFlag 's' [.plain '.'] else [.plain '.']

end Cursor

/-- The symbols of an escape outside of brackets. -/
def Escape.symbolsOutside : Escape → List Symbol
  | .character char => [.ofLiteral char]
  | escape => escape.symbols

/-- Reads what follows a backslash outside of brackets. -/
def escape? : Reader := fun cursor =>
  match cursor.rest with
  | [] => none
  | char :: rest =>
    if char.isDigit then numberedReference? cursor
    else if char = 'k' then
      match rest with
      | '<' :: name => relativeReference? '>' (cursor.goTo name)
      | '\'' :: name => relativeReference? '\'' (cursor.goTo name)
      | _ => none
    else if char = 'A' then some (.assertion [.plain '^'], cursor.goTo rest)
    else if char = 'z' then some (.assertion [.plain '$'], cursor.goTo rest)
    else if char = 'b' || char = 'B' then
      if rest.head? = some '{' then none else some (.assertion [.assertion], cursor.goTo rest)
    else if char = '<' || char = '>' then some (.wordEdge, cursor.goTo rest)
    else if char = 'K' || char = 'G' then some (.mark, cursor.goTo rest)
    else do
      let (escape, rest) ← Escape.read? cursor.rest
      some (cursor.character escape.symbolsOutside, cursor.goTo rest)

/-- Reads an atom. Before an operator, a bar, a closing parenthesis and the end stands the empty
one. -/
def atom? (group? : Reader) : Reader := fun cursor => do
  let cursor ← cursor.skipBlanks?
  match cursor.rest with
  | [] => some (.empty, cursor)
  | char :: rest =>
    if ['+', '*', '?', '|', ')'].contains char then some (.empty, cursor)
    else if char = '(' then group? (cursor.goTo rest)
    else if char = '\\' then escape? (cursor.goTo rest)
    else if char = '[' then do
      let (symbols, rest) ← BracketText.read? rest
      some (cursor.character symbols, cursor.goTo rest)
    else if char = '^' || char = '$' then some (cursor.edge char, cursor.goTo rest)
    else if char = '.' then some (cursor.anyCharacter, cursor.goTo rest)
    else some (cursor.character [.ofLiteral char], cursor.goTo rest)

/-- Reads an atom and the repetition on it. -/
def piece? (group? : Reader) : Reader := fun cursor => do
  let (atom, cursor) ← atom? group? cursor
  repetition? atom cursor

/-- Reads the branches of an alternation, of which the first has begun with the given pieces. A
piece that takes no character ends its branch. -/
def branches? (group? : Reader) (begun : List Expression) (cursor : Cursor) :
    Option (List Expression × Cursor) :=
  match piece? group? cursor with
  | none => none
  | some (piece, next) =>
    if next.rest.length < cursor.rest.length then branches? group? (begun ++ [piece]) next
    else
      match skipped : cursor.skipBlanks? with
      | none => none
      | some after =>
        match bar : after.rest with
        | '|' :: rest =>
          have : rest.length < cursor.rest.length := by
            have fewer := Cursor.length_le_of_skipBlanks? skipped
            rw [bar] at fewer
            exact fewer
          (branches? group? [] (after.goTo rest)).map
            (Prod.map (Expression.inSequence begun :: ·) id)
        | _ => some ([Expression.inSequence begun], after)
termination_by cursor.rest.length

/-- Reads an alternation. Outside of one, references by number do not go with named groups. -/
def alternation? (group? : Reader) : Reader := fun cursor => do
  let (branches, cursor) ← branches? group? [] cursor
  match branches with
  | [branch] =>
    if cursor.numbered && !cursor.names.isEmpty then none else some (branch, cursor)
  | branches => some (.alternation branches, cursor)

def content? (inner? : Reader) : Reader := fun cursor => do
  let (content, cursor) ← inner? cursor
  let cursor ← cursor.close?
  some (content, cursor)

def capture? (inner? : Reader) : Reader := fun cursor => do
  let (content, after) ← content? inner? cursor
  some (.group cursor.groups content, after)

def namedGroup? (inner? : Reader) : Reader := fun cursor => do
  let (name, cursor) ← name? '>' cursor.openGroup
  capture? inner? (cursor.nameGroup name)

/-- Reads flags, and the expression that they are set for if there is one. Behind it the flags are
as they were before. -/
def flagGroup? (inner? : Reader) : Reader := fun cursor => do
  let (ending, inside) ← flags? cursor.rest.length false cursor
  match ending with
  | .setting => some (.empty, inside)
  | .scope =>
    let (content, after) ← inner? inside
    let after ← after.expect? ')'
    some (content, after.setFlags cursor.flags)

/-- Reads a condition: a reference by number, by name or by distance, or an expression. -/
def condition? (inner? : Reader) : Reader := fun cursor =>
  match cursor.rest with
  | [] => none
  | char :: rest =>
    if char.isDigit then numberedReference? cursor
    else if char = '\'' then relativeReference? '\'' (cursor.goTo rest)
    else if char = '<' then relativeReference? '>' (cursor.goTo rest)
    else inner? cursor

/-- Reads a condition and the branches that depend on it. Only a reference can do without
branches. -/
def conditional? (inner? : Reader) : Reader := fun cursor => do
  let (condition, cursor) ← condition? inner? cursor
  let cursor ← cursor.close?
  let (body, after) ← inner? cursor
  let closed ← after.close?
  if after.rest.length = cursor.rest.length then
    match condition with
    | .reference number => some (.test number, closed)
    | _ => none
  else some (.inCondition condition body, closed)

def group? (inner? : Reader) : Reader := fun cursor => do
  let cursor ← cursor.skipBlanks?
  match cursor.rest with
  | '?' :: '=' :: rest | '?' :: '!' :: rest =>
    let (content, cursor) ← content? inner? (cursor.goTo rest)
    some (.lookAhead content, cursor)
  | '?' :: '<' :: '=' :: rest | '?' :: '<' :: '!' :: rest =>
    let (content, cursor) ← content? inner? (cursor.goTo rest)
    some (.lookBehind content, cursor)
  | '?' :: '<' :: rest | '?' :: 'P' :: '<' :: rest => namedGroup? inner? (cursor.goTo rest)
  | '?' :: 'P' :: '=' :: rest => namedReference? ')' (cursor.goTo rest)
  | '?' :: '>' :: rest =>
    let (content, cursor) ← content? inner? (cursor.goTo rest)
    some (.atomic content, cursor)
  | '?' :: '(' :: rest => conditional? inner? (cursor.goTo rest)
  | '?' :: rest => flagGroup? inner? (cursor.goTo rest)
  | _ => capture? inner? cursor.openGroup

/-- Reads an expression whose groups nest to the given depth at most. -/
def expression? : Nat → Reader
  | 0 => alternation? fun _ => none
  | depth + 1 => alternation? (group? (expression? depth))

def maxDepth : Nat := 63

/-- Reads a pattern from its first character to its last. -/
def Expression.ofPattern? (pattern : Text) : Option Expression :=
  match expression? maxDepth (.start pattern) with
  | some (expression, cursor) => if cursor.rest.isEmpty then some expression else none
  | none => none

end RegexProse.Syntax
