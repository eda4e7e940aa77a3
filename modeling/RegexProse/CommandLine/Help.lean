import RegexProse.CommandLine.Options

/-!
# Help

What is said to those who ask for help or for the version, and to those whose arguments cannot be
read.
-/

set_option autoImplicit false

namespace RegexProse.CommandLine

def versionText : Text := Text.line "rexplain 0.1.0"

def usageLine : Text := Text.line "Usage: rexplain [OPTIONS] [PATTERN]"

/-- What is said about any misuse. It does not tell the argument at fault. -/
def misuseText : Text :=
  usageLine ++ Text.line [] ++ Text.line "For more information, try '--help'."

def helpText : Text :=
  Text.line "Explain regular expressions in plain English." ++
    Text.line [] ++
    usageLine ++
    Text.line [] ++
    Text.line "Arguments:" ++
    Text.line "  [PATTERN]  Pattern to explain (read from stdin if omitted)" ++
    Text.line [] ++
    Text.line "Options:" ++
    Text.line
      "  -f, --format <FORMAT>  Output format [default: text] [possible values: text, json]" ++
    Text.line "  -c, --components       List each component on its own line" ++
    Text.line "  -s, --share            Print the pattern followed by its explanation" ++
    Text.line "  -e, --examples         Explain the built-in example patterns" ++
    Text.line "  -v, --verbose          Print diagnostics to stderr" ++
    Text.line "  -h, --help             Print help" ++
    Text.line "  -V, --version          Print version"

end RegexProse.CommandLine
