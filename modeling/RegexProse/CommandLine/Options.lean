import RegexProse.Text.Basic

/-!
# Options

The arguments of the command line. A short option is a letter behind a hyphen, and several may share
the hyphen; a long option is a word behind two. No option may be given twice, and there is one
pattern at most. Behind two hyphens on their own there are no more options. Arguments are read from
left to right, up to the first one that asks for help or for the version or cannot be read.
-/

set_option autoImplicit false

namespace RegexProse.CommandLine

inductive Format where
  | text
  | json
  deriving DecidableEq, Repr

inductive Switch where
  | components
  | share
  | examples
  | verbose
  deriving DecidableEq, Repr

structure Options where
  pattern : Option Text
  format : Option Format
  components : Bool
  share : Bool
  examples : Bool
  verbose : Bool
  deriving DecidableEq, Repr

/-- Why arguments are not read to their end. -/
inductive Stop where
  | help
  | version
  | misuse
  deriving DecidableEq, Repr

inductive Argument where
  | pattern (pattern : Text)
  | endOfOptions
  | switches (switches : List Switch)
  /-- Switches and a format behind them. -/
  | format (switches : List Switch) (name : Text)
  /-- Switches and an option whose format is the next argument. -/
  | formatNext (switches : List Switch)
  /-- Switches and an option behind which nothing is read. -/
  | stop (switches : List Switch) (reason : Stop)
  deriving DecidableEq, Repr

def Format.ofName? (name : Text) : Option Format :=
  if name = ("text" : Text) then some .text
  else if name = ("json" : Text) then some .json
  else none

namespace Switch

def ofLetter? : Char → Option Switch
  | 'c' => some .components
  | 's' => some .share
  | 'e' => some .examples
  | 'v' => some .verbose
  | _ => none

def ofWord? (word : Text) : Option Switch :=
  if word = ("components" : Text) then some .components
  else if word = ("share" : Text) then some .share
  else if word = ("examples" : Text) then some .examples
  else if word = ("verbose" : Text) then some .verbose
  else none

end Switch

namespace Stop

def ofLetter? : Char → Option Stop
  | 'h' => some .help
  | 'V' => some .version
  | _ => none

def ofWord? (word : Text) : Option Stop :=
  if word = ("help" : Text) then some .help
  else if word = ("version" : Text) then some .version
  else none

end Stop

namespace Argument

/-- Reads short options behind the switches read so far. The format takes up all that follows its
letter; an equals sign before it does not count. -/
def ofLetters? (switches : List Switch) : Text → Option Argument
  | [] => some (.switches switches)
  | ['f'] => some (.formatNext switches)
  | 'f' :: '=' :: name => some (.format switches name)
  | 'f' :: name => some (.format switches name)
  | letter :: rest =>
    match Stop.ofLetter? letter with
    | some reason => some (.stop switches reason)
    | none => do
      let switch ← Switch.ofLetter? letter
      ofLetters? (switches ++ [switch]) rest

/-- Reads a long option. -/
def ofWord? (word : Text) : Option Argument :=
  let name := word.takeWhile (· ≠ '=')
  match word.dropWhile (· ≠ '=') with
  | [] =>
    if name = ("format" : Text) then some (.formatNext [])
    else ((Stop.ofWord? name).map (.stop [])).or
      ((Switch.ofWord? name).map fun switch => .switches [switch])
  | _ :: value => if name = ("format" : Text) then some (.format [] value) else none

/-- Reads an argument. A lone hyphen is a pattern. -/
def ofText? : Text → Option Argument
  | ['-', '-'] => some .endOfOptions
  | '-' :: '-' :: word => ofWord? word
  | ['-'] => some (.pattern ['-'])
  | '-' :: letters => ofLetters? [] letters
  | text => some (.pattern text)

end Argument

namespace Options

def empty : Options := ⟨none, none, false, false, false, false⟩

def addPattern? (options : Options) (pattern : Text) : Option Options :=
  match options.pattern with
  | none => some { options with pattern := some pattern }
  | some _ => none

def addFormat? (options : Options) (name : Text) : Option Options :=
  match options.format with
  | none => (Format.ofName? name).map fun format => { options with format := some format }
  | some _ => none

def addSwitch? (options : Options) (switch : Switch) : Option Options :=
  match switch with
  | .components => if options.components then none else some { options with components := true }
  | .share => if options.share then none else some { options with share := true }
  | .examples => if options.examples then none else some { options with examples := true }
  | .verbose => if options.verbose then none else some { options with verbose := true }

def addSwitches? (options : Options) (switches : List Switch) : Option Options :=
  switches.foldlM addSwitch? options

def orMisuse {α : Type} : Option α → Except Stop α
  | some value => .ok value
  | none => .error .misuse

/-- Reads the arguments behind those that the options come from. -/
def addArguments (options : Options) : List Text → Except Stop Options
  | [] => .ok options
  | text :: rest =>
    match Argument.ofText? text with
    | none => .error .misuse
    | some (.pattern pattern) => do
      addArguments (← orMisuse (options.addPattern? pattern)) rest
    | some .endOfOptions => orMisuse (rest.foldlM addPattern? options)
    | some (.switches switches) => do
      addArguments (← orMisuse (options.addSwitches? switches)) rest
    | some (.format switches name) => do
      let options ← orMisuse (options.addSwitches? switches)
      addArguments (← orMisuse (options.addFormat? name)) rest
    | some (.formatNext switches) =>
      match rest with
      | [] => .error .misuse
      | name :: others => do
        let options ← orMisuse (options.addSwitches? switches)
        addArguments (← orMisuse (options.addFormat? name)) others
    | some (.stop switches reason) => do
      let _ ← orMisuse (options.addSwitches? switches)
      .error reason

def ofArguments (arguments : List Text) : Except Stop Options := empty.addArguments arguments

def writesJson (options : Options) : Bool := options.format = some .json

/-- Whether the pattern has to come from standard input. -/
def readsInput (options : Options) : Bool := options.pattern.isNone && !options.examples

end Options

end RegexProse.CommandLine
