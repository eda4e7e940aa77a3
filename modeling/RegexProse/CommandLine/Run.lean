import RegexProse.CommandLine.Help
import RegexProse.Json.Printer
import RegexProse.Report.Diagnostics
import RegexProse.Report.Listing
import RegexProse.Report.Structured
import RegexProse.Validation

/-!
# Runs

What a run of the command line writes, and its exit code. A run either explains the samples, or it
explains one pattern, from the arguments or from standard input; a pattern that cannot be explained
leaves standard output empty.
-/

set_option autoImplicit false

namespace RegexProse.CommandLine

structure Outcome where
  code : Nat
  stdout : Text
  stderr : Text
  deriving DecidableEq, Repr

namespace Outcome

def success (stdout : Text) : Outcome := ⟨0, stdout, []⟩

def failure (stderr : Text) : Outcome := ⟨1, [], stderr⟩

/-- The same outcome with more on standard error, before what it holds. -/
def warn (stderr : Text) (outcome : Outcome) : Outcome :=
  { outcome with stderr := stderr ++ outcome.stderr }

def misuse : Outcome := ⟨2, [], misuseText⟩

end Outcome

/-- The sample with its explanation, or what to say if it has none. -/
def explainSample (sample : Sample) : Except Text (Sample × Explanation) :=
  match explain sample.pattern with
  | .error error =>
    .error (("Failed to explain example '" : Text) ++ sample.title ++ ("': " : Text) ++
      error.message)
  | .ok explanation => .ok (sample, explanation)

def sampleText (options : Options) (sample : Sample) (explanation : Explanation) : Text :=
  Text.line (sample.title ++ (" (" : Text) ++ sample.summary ++ [')']) ++
    Text.line (("  " : Text) ++ sample.pattern) ++
    Text.line (("  " : Text) ++ explanation.fullDescription) ++
    (if options.components then Report.listing 2 explanation.components else []) ++
    Text.line []

def samplesText (options : Options) (explained : List (Sample × Explanation)) : Text :=
  if options.writesJson then
    Text.line (Json.print (.list (explained.map fun (sample, explanation) =>
      Report.ofSample sample explanation)))
  else explained.flatMap fun (sample, explanation) => sampleText options sample explanation

/-- Explains the samples. If one of them has no explanation, the run fails with the first such. -/
def runSamples (options : Options) : Outcome :=
  match samples.mapM explainSample with
  | .error message => .failure (Text.line message)
  | .ok explained => .success (samplesText options explained)

def explanationText (options : Options) (pattern : Text) (explanation : Explanation) : Text :=
  (if options.share then Text.line pattern ++ Text.line [] else []) ++
    Text.line explanation.fullDescription ++
    (if options.components then
      Text.line [] ++ Report.listing 0 explanation.components
    else [])

def report (options : Options) (pattern : Text) (explanation : Explanation) : Text :=
  if options.writesJson then Text.line (Json.print (Report.ofExplanation explanation))
  else explanationText options pattern explanation

def complaint (error : PatternError) : Text :=
  Text.line "Please enter a valid regular expression" ++
    Text.line (error.kind ++ (": " : Text) ++ error.message)

/-- Text that only a verbose run writes. -/
def whenVerbose (options : Options) (text : Text) : Text :=
  if options.verbose then text else []

/-- The outcome for a pattern without what a verbose run says on the way to it. -/
def answer (options : Options) (pattern : Text) : Outcome :=
  match explain pattern with
  | .error error => .failure (complaint error)
  | .ok explanation => .success (report options pattern explanation)

/-- The tokens of the pattern, and warnings if it is explained. -/
def remarks (pattern : Text) : Text :=
  Report.tokenLines (Token.tokenize pattern) ++
    match explain pattern with
    | .error _ => []
    | .ok explanation => Report.warnings explanation.components

def runPattern (options : Options) (pattern : Text) : Outcome :=
  (answer options pattern).warn (whenVerbose options (remarks pattern))

/-- The text without one line ending at its end, a line feed that a carriage return may precede. -/
def withoutLineEnding (input : Text) : Text :=
  match input.reverse with
  | '\n' :: '\r' :: front => front.reverse
  | '\n' :: front => front.reverse
  | _ => input

/-- The pattern to explain. Standard input holds it if it is not among the options; there is none if
standard input, too, is missing. -/
def patternText? (options : Options) (input : Option Text) : Option Text :=
  options.pattern.or (input.map withoutLineEnding)

/-- Runs with the given options. Standard input is missing where it is not UTF-8 text. -/
def run (options : Options) (input : Option Text) : Outcome :=
  if options.examples then runSamples options
  else
    match patternText? options input with
    | some pattern => runPattern options pattern
    | none => .failure (Text.line "Failed to read stdin: stream did not contain valid UTF-8")

def runArguments (arguments : List Text) (input : Option Text) : Outcome :=
  match Options.ofArguments arguments with
  | .ok options => run options input
  | .error .help => .success helpText
  | .error .version => .success versionText
  | .error .misuse => .misuse

/-- The text that bytes encode in UTF-8. -/
def decode (bytes : ByteArray) : Option Text := (String.fromUTF8? bytes).map String.toList

end RegexProse.CommandLine
