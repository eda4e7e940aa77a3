import Mathlib.Logic.ExistsUnique
import RegexProse.CommandLine.Run

/-!
# Patterns from standard input

A pattern that standard input holds is explained like one among the arguments. At most one line
ending is taken away from what standard input holds, so it holds exactly one pattern.
-/

set_option autoImplicit false

namespace RegexProse.CommandLine

/-- The argument behind which there are no more options. -/
def endOfOptions : Text := "--"

/-- The arguments give no pattern and do not ask for the samples, and options may follow them.
Arguments that cannot be read are among them. -/
def Flags (arguments : List Text) : Prop :=
  endOfOptions ∉ arguments ∧ ∀ options ∈ (Options.ofArguments arguments).toOption,
    options.pattern = none ∧ options.examples = false

instance (arguments : List Text) : Decidable (Flags arguments) := instDecidableAnd

def writtenFormat : Option Format → List Text
  | none => []
  | some .text => ["--format", "text"]
  | some .json => ["--format", "json"]

def writtenSwitch (word : Text) (isSet : Bool) : List Text := if isSet then [word] else []

/-- The arguments that give the options, but for the pattern. -/
def written (options : Options) : List Text :=
  writtenFormat options.format ++ writtenSwitch "--components" options.components ++
    writtenSwitch "--share" options.share ++ writtenSwitch "--examples" options.examples ++
    writtenSwitch "--verbose" options.verbose

/-- What standard input is when it holds the pattern. A line feed behind the pattern, or nothing,
stands for the pattern only where the pattern does not end with a part of a line ending itself. -/
inductive Holds (pattern : Text) : Text → Prop where
  | beforeReturn : Holds pattern (pattern ++ ['\r', '\n'])
  | beforeFeed : pattern.getLast? ≠ some '\r' → Holds pattern (pattern ++ ['\n'])
  | alone : pattern.getLast? ≠ some '\n' → Holds pattern pattern

/-- The bytes of a text in UTF-8. -/
def encode (text : Text) : ByteArray := (String.ofList text).toUTF8

theorem decode_encode (text : Text) : decode (encode text) = some text := by
  have read : String.fromUTF8? (String.ofList text).toUTF8 = some (String.ofList text) :=
    dif_pos (String.ofList text).isValidUTF8
  rw [decode, encode, read, Option.map_some, String.toList_ofList]

theorem holds_withoutLineEnding (input : Text) : Holds (withoutLineEnding input) input := by
  unfold withoutLineEnding
  split
  case h_1 front reversed =>
    obtain rfl : input = front.reverse ++ ['\r', '\n'] := by
      simpa using congrArg List.reverse reversed
    exact .beforeReturn
  case h_2 front noReturn reversed =>
    obtain rfl : input = front.reverse ++ ['\n'] := by
      simpa using congrArg List.reverse reversed
    refine .beforeFeed ?_
    intro last
    rw [List.getLast?_reverse] at last
    obtain ⟨rest, rfl⟩ := List.head?_eq_some_iff.mp last
    exact noReturn rest rfl
  case h_3 noReturn noFeed =>
    refine .alone ?_
    intro last
    rw [← List.head?_reverse] at last
    obtain ⟨rest, reversed⟩ := List.head?_eq_some_iff.mp last
    exact noFeed rest reversed

theorem Holds.withoutLineEnding_eq {pattern input : Text} (holds : Holds pattern input) :
    withoutLineEnding input = pattern := by
  cases holds with
  | beforeReturn => simp [withoutLineEnding]
  | beforeFeed noReturn =>
      unfold withoutLineEnding
      split
      case h_1 front reversed =>
        obtain rfl : pattern = front.reverse ++ ['\r'] := by
          simpa [List.reverse_eq_iff] using reversed
        simp at noReturn
      case h_2 front _ reversed =>
        obtain rfl : pattern = front.reverse := by
          simpa [List.reverse_eq_iff] using reversed
        rfl
      case h_3 _ noFeed => exact absurd (by simp) (noFeed pattern.reverse)
  | alone noFeed =>
      unfold withoutLineEnding
      split
      case h_1 front reversed =>
        obtain rfl := List.reverse_eq_iff.mp reversed
        simp at noFeed
      case h_2 front _ reversed =>
        obtain rfl := List.reverse_eq_iff.mp reversed
        simp at noFeed
      case h_3 => rfl

private theorem ofLetters?_ne_endOfOptions (switches : List Switch) (letters : Text) :
    Argument.ofLetters? switches letters ≠ some .endOfOptions := by
  fun_induction Argument.ofLetters? switches letters with
  | case6 switches letter rest _ _ _ _ ih =>
      cases found : Switch.ofLetter? letter with
      | none => simp
      | some switch => simpa using ih switch
  | _ => simp

private theorem ofWord?_ne_endOfOptions (word : Text) :
    Argument.ofWord? word ≠ some .endOfOptions := by
  unfold Argument.ofWord?
  dsimp only
  split
  · split
    · simp
    · cases Stop.ofWord? (word.takeWhile (· ≠ '=')) <;> simp
  · split <;> simp

private theorem eq_endOfOptions {text : Text} (read : Argument.ofText? text = some .endOfOptions) :
    text = endOfOptions := by
  unfold Argument.ofText? at read
  split at read
  · rfl
  · exact absurd read (ofWord?_ne_endOfOptions _)
  · simp at read
  · exact absurd read (ofLetters?_ne_endOfOptions _ _)
  · simp at read

private theorem addFormat?_endOfOptions (options : Options) :
    options.addFormat? endOfOptions = none := by
  unfold Options.addFormat?
  split <;> rfl

/-- What stands behind the mark that ends the options is the pattern, whatever it looks like. A mark
that is taken for a missing format is misuse like the missing format itself. -/
theorem addArguments_append (pattern : Text) : ∀ (arguments : List Text) (options : Options),
    endOfOptions ∉ arguments →
      options.addArguments (arguments ++ [endOfOptions, pattern]) =
        options.addArguments arguments >>= fun read => Options.orMisuse (read.addPattern? pattern)
  | [], options, _ => by
      have mark : Argument.ofText? endOfOptions = some .endOfOptions := rfl
      simp only [List.nil_append, Options.addArguments, mark]
      exact congrArg Options.orMisuse (bind_pure (options.addPattern? pattern))
  | text :: rest, options, noEnd => by
      obtain ⟨notHere, notBehind⟩ : endOfOptions ≠ text ∧ endOfOptions ∉ rest := by
        simpa using noEnd
      have ih := fun more => addArguments_append pattern rest more notBehind
      simp only [List.cons_append, Options.addArguments]
      cases read : Argument.ofText? text with
      | none => rfl
      | some argument =>
          cases argument with
          | endOfOptions => exact absurd (eq_endOfOptions read).symm notHere
          | pattern | switches | format => simp [Options.orMisuse, ih]
          | stop switches reason =>
              dsimp only
              cases options.addSwitches? switches <;> rfl
          | formatNext switches =>
              cases rest with
              | nil =>
                  simp only [List.nil_append, addFormat?_endOfOptions]
                  cases options.addSwitches? switches <;> rfl
              | cons name others =>
                  have notLater : endOfOptions ∉ others :=
                    fun member => notBehind (List.mem_cons_of_mem _ member)
                  have ih := fun more => addArguments_append pattern others more notLater
                  simp [Options.orMisuse, ih]

theorem ofArguments_append {arguments : List Text} (noEnd : endOfOptions ∉ arguments)
    (pattern : Text) :
    Options.ofArguments (arguments ++ [endOfOptions, pattern]) =
      Options.ofArguments arguments >>= fun read =>
        Options.orMisuse (read.addPattern? pattern) :=
  addArguments_append pattern arguments .empty noEnd

theorem ofArguments_written {options : Options} (noPattern : options.pattern = none) :
    Options.ofArguments (written options) = .ok options := by
  obtain ⟨pattern, format, components, share, examples, verbose⟩ := options
  cases noPattern
  cases format with
  | none => cases components <;> cases share <;> cases examples <;> cases verbose <;> rfl
  | some format =>
      cases format <;> cases components <;> cases share <;> cases examples <;> cases verbose <;> rfl

private theorem runPattern_withPattern (options : Options) (given : Option Text) (pattern : Text) :
    runPattern { options with pattern := given } pattern = runPattern options pattern := rfl

section Holds

variable {pattern input : Text} (holds : Holds pattern input)
include holds

theorem patternText?_of_holds {options : Options} (noPattern : options.pattern = none) :
    patternText? options (some input) = some pattern := by
  rw [patternText?, noPattern, Option.map_some, holds.withoutLineEnding_eq]
  rfl

theorem run_of_holds {options : Options} (noPattern : options.pattern = none)
    (noExamples : options.examples = false) :
    run options (some input) = runPattern options pattern := by
  simp [run, noExamples, patternText?_of_holds holds noPattern]

private theorem run_eq_of_holds {options : Options} (noPattern : options.pattern = none)
    (noExamples : options.examples = false) (other : Option Text) :
    run options (some input) = run { options with pattern := some pattern } other := by
  calc
    run options (some input) = runPattern options pattern :=
      run_of_holds holds noPattern noExamples
    _ = runPattern { options with pattern := some pattern } pattern :=
      (runPattern_withPattern options (some pattern) pattern).symm
    _ = run { options with pattern := some pattern } other := by
      simp [run, noExamples, patternText?]

theorem runArguments_of_holds {options : Options} (noPattern : options.pattern = none)
    (noExamples : options.examples = false) :
    runArguments (written options) (some input) = runPattern options pattern := by
  rw [runArguments, ofArguments_written noPattern]
  exact run_of_holds holds noPattern noExamples

private theorem runArguments_eq_of_holds {arguments : List Text} (flags : Flags arguments)
    (other : Option Text) :
    runArguments arguments (some input) =
      runArguments (arguments ++ [endOfOptions, pattern]) other := by
  obtain ⟨noEnd, plain⟩ := flags
  unfold runArguments
  rw [ofArguments_append noEnd]
  cases read : Options.ofArguments arguments with
  | error reason => cases reason <;> rfl
  | ok options =>
      obtain ⟨noPattern, noExamples⟩ := plain options (by rw [read]; rfl)
      have added : options.addPattern? pattern = some { options with pattern := some pattern } := by
        rw [Options.addPattern?, noPattern]
      have given : (Except.ok options >>= fun read : Options =>
          Options.orMisuse (read.addPattern? pattern)) =
            .ok { options with pattern := some pattern } := congrArg Options.orMisuse added
      rw [given]
      exact run_eq_of_holds holds noPattern noExamples other

end Holds

/-- Standard input holds exactly one pattern. A run that finds its pattern there explains this one,
with all options but the one that asks for the samples and also when they are given as arguments;
and it has the same outcome as a run that is given the pattern, whatever that run would find on
standard input. -/
theorem input_eq_argument (input : Text) :
    (∃! pattern, Holds pattern input) ∧ ∀ pattern, Holds pattern input →
      (∀ options : Options, options.pattern = none → options.examples = false →
        patternText? options (decode (encode input)) = some pattern ∧
          run options (decode (encode input)) = runPattern options pattern ∧
          runArguments (written options) (decode (encode input)) = runPattern options pattern ∧
          ∀ other, run options (decode (encode input)) =
            run { options with pattern := some pattern } other) ∧
        ∀ arguments, Flags arguments → ∀ other,
          runArguments arguments (decode (encode input)) =
            runArguments (arguments ++ [endOfOptions, pattern]) other := by
  rw [decode_encode]
  refine ⟨⟨withoutLineEnding input, holds_withoutLineEnding input, ?_⟩, ?_⟩
  · intro pattern holds
    exact holds.withoutLineEnding_eq.symm
  · intro pattern holds
    refine ⟨?_, ?_⟩
    · intro options noPattern noExamples
      exact ⟨patternText?_of_holds holds noPattern, run_of_holds holds noPattern noExamples,
        runArguments_of_holds holds noPattern noExamples,
        run_eq_of_holds holds noPattern noExamples⟩
    · intro arguments flags other
      exact runArguments_eq_of_holds holds flags other

/-- Of two carriage returns before the line feed the first one belongs to the pattern. -/
theorem input_eq_argument_two_returns :
    Holds "(-\r" "(-\r\r\n" ∧ Flags ["-v", "-cf", "text"] ∧
      patternText? Options.empty (decode (encode "(-\r\r\n")) = some "(-\r" ∧
      run Options.empty (decode (encode "(-\r\r\n")) = runPattern Options.empty "(-\r" ∧
      runArguments ["--verbose"] (decode (encode "(-\r\r\n")) =
        runPattern { Options.empty with verbose := true } "(-\r" ∧
      run { Options.empty with verbose := true } (decode (encode "(-\r\r\n")) =
        run { Options.empty with verbose := true, pattern := some "(-\r" } none ∧
      runArguments ["-v", "-cf", "text"] (decode (encode "(-\r\r\n")) =
        runArguments ["-v", "-cf", "text", "--", "(-\r"] (some "a") := by
  have holds : Holds "(-\r" "(-\r\r\n" := .beforeReturn
  have flags : Flags ["-v", "-cf", "text"] := by decide +kernel
  obtain ⟨sameRun, sameArguments⟩ := (input_eq_argument "(-\r\r\n").2 "(-\r" holds
  obtain ⟨obtained, explained, -⟩ := sameRun .empty rfl rfl
  obtain ⟨-, -, argued, sameOutcome⟩ := sameRun { Options.empty with verbose := true } rfl rfl
  exact ⟨holds, flags, obtained, explained, argued, sameOutcome none,
    sameArguments _ flags (some "a")⟩

end RegexProse.CommandLine
