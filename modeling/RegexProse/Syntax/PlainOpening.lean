import RegexProse.Syntax.PlainFlags
import RegexProse.Text.Alphanumeric

/-!
# Opening parentheses in plain form

What an opening parenthesis and the question mark behind it begin: a group, which may have a name or
set flags for its content, or a setting of flags that has no content.
-/

set_option autoImplicit false

namespace RegexProse.Syntax

/-- What an opening parenthesis begins: whether that is a group, the flags that hold behind it, and
the names that groups have by then, the latest first. -/
structure PlainOpening where
  isGroup : Bool
  flags : PlainFlags
  names : List Text

namespace PlainOpening

def isFlag (symbol : Symbol) : Bool := symbol.plain?.any PlainFlags.letters.contains

/-- Reads flags and the character that ends them. No flag comes twice, and a hyphen turns something
off. -/
def ofFlags? (flags : PlainFlags) (names : List Text) (symbols : List Symbol) :
    Option (PlainOpening × List Symbol) :=
  let listed := symbols.takeWhile isFlag
  if listed.Nodup ∧ listed.getLast? ≠ some (.plain '-') then
    let flags := flags.setAll (listed.filterMap Symbol.plain?)
    match symbols.dropWhile isFlag with
    | .plain ':' :: rest => some (⟨true, flags, names⟩, rest)
    | .plain ')' :: rest => if listed.isEmpty then none else some (⟨false, flags, names⟩, rest)
    | _ => none
  else none

/-- Whether the characters are a name, which begins with a letter or an underscore. -/
def isName : Text → Bool
  | [] => false
  | first :: rest =>
    (first = '_' || Text.isAlphabetic first) &&
      rest.all fun char => Text.isAlphanumeric char || ['_', '.', '[', ']'].contains char

/-- Reads the name of a group and the character that ends it. No two groups have the same name. -/
def ofName? (flags : PlainFlags) (names : List Text) (symbols : List Symbol) :
    Option (PlainOpening × List Symbol) :=
  match (symbols.takeWhile (· ≠ .plain '>')).mapM Symbol.plain?,
      symbols.dropWhile (· ≠ .plain '>') with
  | some name, _ :: rest =>
    if isName name && !names.contains name then some (⟨true, flags, name :: names⟩, rest) else none
  | _, _ => none

/-- Reads what follows an opening parenthesis, up to the content of a group. -/
def read? (flags : PlainFlags) (names : List Text) (symbols : List Symbol) :
    Option (PlainOpening × List Symbol) :=
  match flags.skip symbols with
  | .plain '?' :: .plain 'P' :: .plain '<' :: rest => ofName? flags names rest
  | .plain '?' :: .plain '<' :: rest => ofName? flags names rest
  | .plain '?' :: rest => ofFlags? flags names rest
  | rest => some (⟨true, flags, names⟩, rest)

theorem ofFlags?_length_le {flags : PlainFlags} {names : List Text} {symbols rest : List Symbol}
    {opening : PlainOpening} (found : ofFlags? flags names symbols = some (opening, rest)) :
    rest.length ≤ symbols.length := by
  have kept := (List.dropWhile_suffix (l := symbols) isFlag).length_le
  unfold ofFlags? at found
  grind

theorem ofName?_length_le {flags : PlainFlags} {names : List Text} {symbols rest : List Symbol}
    {opening : PlainOpening} (found : ofName? flags names symbols = some (opening, rest)) :
    rest.length ≤ symbols.length := by
  have kept := (List.dropWhile_suffix (l := symbols) (· ≠ .plain '>')).length_le
  unfold ofName? at found
  grind

theorem read?_length_le {flags : PlainFlags} {names : List Text} {symbols rest : List Symbol}
    {opening : PlainOpening} (found : read? flags names symbols = some (opening, rest)) :
    rest.length ≤ symbols.length := by
  have skipped := flags.length_skip_le symbols
  have ofName := @ofName?_length_le
  have ofFlags := @ofFlags?_length_le
  unfold read? at found
  grind

end PlainOpening

end RegexProse.Syntax
