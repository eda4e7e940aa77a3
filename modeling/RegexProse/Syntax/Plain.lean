import RegexProse.Quantifier.Brace
import RegexProse.Syntax.PlainBracket
import RegexProse.Syntax.PlainOpening

/-!
# Plain syntax

The syntax that the written form of a plain expression has to follow. Written forms follow it by
themselves, but for the bounds of repetitions, for what a bracket expression leaves over that ends
before its brackets balance, and for the limit on nesting.
-/

set_option autoImplicit false

namespace RegexProse.Syntax

/-- An item in a row: how deep it nests, and whether it can be repeated. -/
structure PlainItem where
  depth : Nat
  repeatable : Bool

/-- The part of a group that has been read: the flags by now, how deep its finished branches nest,
and the items of the branch at hand, the latest first. -/
structure PlainFrame where
  flags : PlainFlags
  branches : List Nat
  items : List PlainItem

namespace PlainFrame

def empty (flags : PlainFlags) : PlainFrame := ⟨flags, [], []⟩

def branchDepth (frame : PlainFrame) : Nat := BracketFrame.rowDepth (frame.items.map (·.depth))

def depth (frame : PlainFrame) : Nat :=
  match frame.branches with
  | [] => frame.branchDepth
  | branches => branches.foldr max frame.branchDepth + 1

def add (depth : Nat) (frame : PlainFrame) : PlainFrame :=
  { frame with items := ⟨depth, true⟩ :: frame.items }

/-- Adds a setting of flags, which holds up to the end of the group. -/
def addSetting (flags : PlainFlags) (frame : PlainFrame) : PlainFrame :=
  { frame with flags := flags, items := ⟨0, false⟩ :: frame.items }

def nextBranch (frame : PlainFrame) : PlainFrame :=
  { frame with branches := frame.branchDepth :: frame.branches, items := [] }

def repeatLatest? (frame : PlainFrame) : Option PlainFrame :=
  match frame.items with
  | [] => none
  | item :: items =>
    if item.repeatable then some { frame with items := ⟨item.depth + 1, true⟩ :: items } else none

end PlainFrame

namespace Plain

/-- Whether the characters between braces are bounds: a number, or a least number and a comma,
behind which a number that is not smaller may stand. -/
def isBounds (body : Text) : Bool :=
  match body.dropWhile (· ≠ ',') with
  | [] => (Quantifier.bound? body).isSome
  | _ :: upper =>
    match Quantifier.bound? (body.takeWhile (· ≠ ',')), Quantifier.bound? upper with
    | some least, some most => least ≤ most
    | some _, none => upper.isEmpty
    | none, _ => false

/-- Reads the characters up to a closing brace, without blanks where spacing is free. -/
def braceBody? (flags : PlainFlags) (inComment : Bool) :
    List Symbol → Option (Text × List Symbol)
  | [] => none
  | symbol :: rest =>
    match flags.passes? inComment symbol with
    | some inComment => braceBody? flags inComment rest
    | none =>
      if symbol = .plain '}' then some ([], rest)
      else do
        let char ← symbol.plain?
        let (body, rest) ← braceBody? flags false rest
        some (char :: body, rest)

/-- The symbols behind a question mark, if one stands at their front. -/
def dropLazyMark : List Symbol → List Symbol
  | .plain '?' :: rest => rest
  | symbols => symbols

/-- The symbols behind bounds and the mark on them, whose opening brace stands in front of the given
ones. -/
def dropBounds? (flags : PlainFlags) (symbols : List Symbol) : Option (List Symbol) := do
  let (body, rest) ← braceBody? flags false symbols
  if isBounds body then some (dropLazyMark (flags.skip rest)) else none

/-- The groups around the innermost one, that one, and the names that groups have. -/
structure State where
  outer : List PlainFrame
  frame : PlainFrame
  names : List Text

namespace State

def start : State := ⟨[], .empty .start, []⟩

def enter (opening : PlainOpening) (state : State) : State :=
  if opening.isGroup then ⟨state.frame :: state.outer, .empty opening.flags, opening.names⟩
  else { state with frame := state.frame.addSetting opening.flags, names := opening.names }

def leave? (state : State) : Option State :=
  match state.outer with
  | [] => none
  | around :: outer =>
    some { state with outer := outer, frame := around.add (state.frame.depth + 1) }

def add (depth : Nat) (state : State) : State := { state with frame := state.frame.add depth }

def repeatLatest? (state : State) : Option State :=
  state.frame.repeatLatest?.map fun frame => { state with frame := frame }

end State

/-- The operators that repeat, but for bounds. -/
def repeaters : List Char := ['?', '*', '+']

/-- Whether a symbol may stand for an item. Where Unicode is off, a set has to be one of ASCII
characters. -/
def isItem (flags : PlainFlags) (symbol : Symbol) : Bool :=
  flags.unicode ||
    match symbol with
    | .plain char => char ≠ '.'
    | .set ascii => ascii
    | _ => true

/-- Reads from a symbol on. -/
def step? (state : State) (symbol : Symbol) (rest : List Symbol) :
    Option (State × List Symbol) :=
  let flags := state.frame.flags
  if symbol = .plain '(' then
    (PlainOpening.read? flags state.names rest).map (Prod.map state.enter id)
  else if symbol = .plain ')' then state.leave?.map (·, rest)
  else if symbol = .plain '|' then
    some ({ state with frame := state.frame.nextBranch }, rest)
  else if symbol = .plain '[' then (PlainBracket.read? flags rest).map (Prod.map state.add id)
  else if symbol = .plain '{' then do
    let rest ← dropBounds? flags rest
    let state ← state.repeatLatest?
    some (state, rest)
  else if symbol.plain?.any repeaters.contains then
    state.repeatLatest?.map (·, dropLazyMark rest)
  else if isItem flags symbol then some (state.add 0, rest)
  else none

theorem braceBody?_length_le {flags : PlainFlags} {inComment : Bool} {symbols rest : List Symbol}
    {body : Text} (found : braceBody? flags inComment symbols = some (body, rest)) :
    rest.length ≤ symbols.length := by
  fun_induction braceBody? flags inComment symbols generalizing body with
  | case1 => simp at found
  | case2 _ _ _ _ _ ih => exact Nat.le_succ_of_le (ih found)
  | case3 => grind
  | case4 _ _ _ _ _ ih =>
    simp only [Option.bind_eq_bind, Option.bind_eq_some_iff] at found
    obtain ⟨char, -, ⟨more, after⟩, inner, same⟩ := found
    obtain ⟨-, rfl⟩ := Prod.mk.inj (Option.some.inj same)
    exact Nat.le_succ_of_le (ih inner)

theorem length_dropLazyMark_le (symbols : List Symbol) :
    (dropLazyMark symbols).length ≤ symbols.length := by
  unfold dropLazyMark
  split <;> simp

theorem dropBounds?_length_le {flags : PlainFlags} {symbols rest : List Symbol}
    (found : dropBounds? flags symbols = some rest) : rest.length ≤ symbols.length := by
  simp only [dropBounds?, Option.bind_eq_bind, Option.bind_eq_some_iff] at found
  obtain ⟨⟨body, after⟩, read, bounds⟩ := found
  split at bounds
  · obtain rfl := Option.some.inj bounds
    exact Nat.le_trans (length_dropLazyMark_le _)
      (Nat.le_trans (flags.length_skip_le after) (braceBody?_length_le read))
  · simp at bounds

theorem step?_length_le {state next : State} {symbol : Symbol} {rest after : List Symbol}
    (stepped : step? state symbol rest = some (next, after)) : after.length ≤ rest.length := by
  have opened := @PlainOpening.read?_length_le
  have bracket := @PlainBracket.read?_length_le
  have bounds := @dropBounds?_length_le
  have lazyMark := length_dropLazyMark_le rest
  unfold step? at stepped
  grind [Option.map_eq_some_iff, Option.bind_eq_some_iff]

def depth? (state : State) (symbols : List Symbol) : Option Nat :=
  match unread : state.frame.flags.skip symbols with
  | [] => if state.outer.isEmpty then some state.frame.depth else none
  | symbol :: rest =>
    match stepped : step? state symbol rest with
    | none => none
    | some (next, after) =>
      have : after.length < symbols.length := by
        have skipped := state.frame.flags.length_skip_le symbols
        have taken := step?_length_le stepped
        rw [unread] at skipped
        exact Nat.lt_of_le_of_lt taken skipped
      depth? next after
termination_by symbols.length

def maxDepth : Nat := 250

def accepts (symbols : List Symbol) : Bool := (depth? .start symbols).any (· ≤ maxDepth)

end Plain

end RegexProse.Syntax
