import RegexProse.Syntax.PlainFlags

/-!
# Bracket expressions in plain form

Where a bracket expression among symbols ends, and how deep it nests. Brackets nest, operators
between sets take two characters, and a range joins two characters in order. A bracket at the end of
a range stands for itself, so that an expression may end earlier than its brackets balance.
-/

set_option autoImplicit false

namespace RegexProse.Syntax

/-- How much of a bracket expression has been read, as far as the meaning of what comes next depends
on it. -/
inductive BracketStage where
  | opened
  | negated
  /-- Nothing but hyphens. -/
  | hyphens
  | inside
  deriving DecidableEq, Repr

/-- The part of a bracket expression that has been read: how deep its operands before the last
operator nest, and the members behind that. -/
structure BracketFrame where
  stage : BracketStage
  operands : Option Nat
  members : List Nat

namespace BracketFrame

def opened : BracketFrame := ⟨.opened, none, []⟩

/-- How deep things in a row nest. One on its own needs no row. -/
def rowDepth : List Nat → Nat
  | [] => 0
  | [depth] => depth
  | depths => depths.foldr max 0 + 1

def depth (frame : BracketFrame) : Nat :=
  match frame.operands with
  | none => rowDepth frame.members
  | some operands => max operands (rowDepth frame.members) + 1

def add (depth : Nat) (frame : BracketFrame) : BracketFrame :=
  { frame with stage := .inside, members := depth :: frame.members }

/-- Adds a hyphen that stands for itself before all else. -/
def addHyphen (frame : BracketFrame) : BracketFrame := { frame.add 0 with stage := .hyphens }

def operator (frame : BracketFrame) : BracketFrame := ⟨.inside, some frame.depth, []⟩

end BracketFrame

namespace PlainBracket

def classNames : List String :=
  ["alnum", "alpha", "ascii", "blank", "cntrl", "digit", "graph", "lower", "print", "punct",
    "space", "upper", "word", "xdigit"]

/-- Reads a class name between colons, and whether a caret takes its complement. -/
def className? : List Symbol → Option (Bool × List Symbol)
  | .plain ':' :: symbols =>
    let negated := symbols.head? = some (.plain '^')
    let body := if negated then symbols.tail else symbols
    match body.dropWhile (· ≠ .plain ':') with
    | .plain ':' :: .plain ']' :: rest =>
      if classNames.any fun name => Symbol.ofText name = body.takeWhile (· ≠ .plain ':') then
        some (negated, rest)
      else none
    | _ => none
  | _ => none

/-- Whether two symbols are the ends of a range: two characters in order. -/
def isRange (first last : Symbol) : Bool :=
  match first.char?, last.char? with
  | some low, some high => low ≤ high
  | _, _ => false

def isMember (flags : PlainFlags) (symbol : Symbol) : Bool := flags.unicode || symbol.isAscii

/-- The symbol that decides whether a hyphen in front of the given symbols makes a range. A number
sign on the way counts as a blank, whatever comes behind it. -/
def behindHyphen? (flags : PlainFlags) (symbols : List Symbol) : Option Symbol :=
  let isBlank := fun symbol : Symbol => symbol.plain?.any Text.isBlank
  if flags.freeSpacing then
    match symbols.dropWhile isBlank with
    | .plain '#' :: rest => (rest.dropWhile isBlank).head?
    | rest => rest.head?
  else symbols.head?

/-- Reads a range from its first character on, or the member alone if none follows. -/
def member? (flags : PlainFlags) (first : Symbol) (rest : List Symbol) : Option (List Symbol) :=
  if !isMember flags first then none
  else
    match flags.skip rest with
    | .plain '-' :: more =>
      let behind := behindHyphen? flags more
      if behind = some (.plain ']') || behind = some (.plain '-') then some (.plain '-' :: more)
      else
        match flags.skip more with
        | [] => none
        | last :: rest => if isMember flags last && isRange first last then some rest else none
    | rest => some rest

/-- What comes of a step: more to read, or the end of the outermost expression with its depth. -/
inductive Step where
  | further (outer : List BracketFrame) (frame : BracketFrame) (rest : List Symbol)
  | closed (depth : Nat) (rest : List Symbol)

def Step.rest : Step → List Symbol
  | .further _ _ rest => rest
  | .closed _ rest => rest

/-- The characters that make an operator when they stand twice. -/
def operatorChars : List Char := ['&', '-', '~']

/-- Whether a symbol is the first half of an operator. -/
def opensOperator (symbol : Symbol) (rest : List Symbol) : Bool :=
  symbol.plain?.any operatorChars.contains && rest.head? = some symbol

/-- Reads from a symbol on, within the innermost expression and those around it. Right behind an
opening bracket a caret, a closing bracket and hyphens have meanings of their own. -/
def step? (flags : PlainFlags) (outer : List BracketFrame) (frame : BracketFrame)
    (symbol : Symbol) (rest : List Symbol) : Option Step :=
  let first := frame.stage = .opened || frame.stage = .negated
  if frame.stage = .opened && symbol = .plain '^' then
    if flags.unicode then some (.further outer { frame with stage := .negated } rest) else none
  else if first && symbol = .plain ']' then some (.further outer (frame.add 0) rest)
  else if frame.stage ≠ .inside && symbol = .plain '-' then
    some (.further outer frame.addHyphen rest)
  else if symbol = .plain '[' then
    match className? rest with
    | some (negated, rest) =>
      if negated && !flags.unicode then none else some (.further outer (frame.add 0) rest)
    | none => some (.further (frame :: outer) .opened rest)
  else if symbol = .plain ']' then
    match outer with
    | [] => some (.closed (frame.depth + 1) rest)
    | around :: outer => some (.further outer (around.add (frame.depth + 1)) rest)
  else if opensOperator symbol rest then some (.further outer frame.operator rest.tail)
  else (member? flags symbol rest).map (.further outer (frame.add 0) ·)

theorem className?_length_le {symbols rest : List Symbol} {negated : Bool}
    (named : className? symbols = some (negated, rest)) : rest.length ≤ symbols.length := by
  unfold className? at named
  split at named
  case h_1 symbols =>
    dsimp only at named
    have kept := fun body : List Symbol =>
      (List.dropWhile_suffix (l := body) (· ≠ .plain ':')).length_le
    split at named
    case h_1 after tail =>
      have shorter := kept (if symbols.head? = some (.plain '^') then symbols.tail else symbols)
      grind
    case h_2 => simp at named
  case h_2 => simp at named

theorem member?_length_le {flags : PlainFlags} {first : Symbol} {symbols rest : List Symbol}
    (found : member? flags first symbols = some rest) : rest.length ≤ symbols.length := by
  have skipped := flags.length_skip_le
  unfold member? at found
  grind

theorem step?_length_le {flags : PlainFlags} {outer : List BracketFrame} {frame : BracketFrame}
    {symbol : Symbol} {rest : List Symbol} {step : Step}
    (stepped : step? flags outer frame symbol rest = some step) :
    step.rest.length ≤ rest.length := by
  have named := @className?_length_le
  have member := @member?_length_le
  unfold step? at stepped
  grind [Step.rest, Option.map_eq_some_iff]

/-- Reads up to the bracket that closes the outermost expression: how deep that nests, and the
symbols behind it. -/
def close? (flags : PlainFlags) (outer : List BracketFrame) (frame : BracketFrame)
    (symbols : List Symbol) : Option (Nat × List Symbol) :=
  match unread : flags.skip symbols with
  | [] => none
  | symbol :: rest =>
    match stepped : step? flags outer frame symbol rest with
    | none => none
    | some (.closed depth rest) => some (depth, rest)
    | some (.further outer frame after) =>
      have : after.length < symbols.length := by
        have skipped := flags.length_skip_le symbols
        have taken := step?_length_le stepped
        rw [unread] at skipped
        exact Nat.lt_of_le_of_lt taken skipped
      close? flags outer frame after
termination_by symbols.length

/-- Reads the bracket expression whose opening bracket stands in front of the symbols. -/
def read? (flags : PlainFlags) (symbols : List Symbol) : Option (Nat × List Symbol) :=
  close? flags [] .opened symbols

theorem close?_length_le {flags : PlainFlags} {outer : List BracketFrame} {frame : BracketFrame}
    {symbols rest : List Symbol} {depth : Nat}
    (closed : close? flags outer frame symbols = some (depth, rest)) :
    rest.length ≤ symbols.length := by
  fun_induction close? flags outer frame symbols with
  | case1 => simp at closed
  | case2 => simp at closed
  | case3 _ _ symbols symbol after unread depth rest stepped =>
    obtain ⟨rfl, rfl⟩ := Prod.mk.inj (Option.some.inj closed)
    have skipped := flags.length_skip_le symbols
    have taken := step?_length_le stepped
    rw [unread] at skipped
    exact Nat.le_trans taken (Nat.le_of_succ_le skipped)
  | case4 _ _ _ _ _ _ _ _ _ _ shorter ih => exact Nat.le_trans (ih closed) (Nat.le_of_lt shorter)

theorem read?_length_le {flags : PlainFlags} {symbols rest : List Symbol} {depth : Nat}
    (found : read? flags symbols = some (depth, rest)) : rest.length ≤ symbols.length :=
  close?_length_le found

end PlainBracket

end RegexProse.Syntax
