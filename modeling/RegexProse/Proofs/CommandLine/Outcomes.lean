import RegexProse.CommandLine.Run

/-!
# Outcomes of runs

What every run of the command line keeps to. A run that fails has written nothing to standard
output; a verbose run writes more to standard error and nothing else; and the samples are explained
in the same way whatever pattern comes with them.
-/

set_option autoImplicit false

namespace RegexProse.CommandLine

namespace Outcome

/-- The run succeeds, or it fails and has written nothing to standard output. -/
def AllOrNothing (outcome : Outcome) : Prop :=
  outcome.code = 0 ∨ outcome.code = 1 ∧ outcome.stdout = []

/-- The first outcome is the second one with more on standard error, before what it holds. -/
structure Extends (loud quiet : Outcome) : Prop where
  code : loud.code = quiet.code
  stdout : loud.stdout = quiet.stdout
  stderr : quiet.stderr <:+ loud.stderr

@[simp] theorem warn_nil (outcome : Outcome) : outcome.warn [] = outcome := rfl

theorem AllOrNothing.success (stdout : Text) : (success stdout).AllOrNothing := .inl rfl

theorem AllOrNothing.failure (stderr : Text) : (failure stderr).AllOrNothing := .inr ⟨rfl, rfl⟩

namespace Extends

variable {loud middle quiet : Outcome}

theorem refl (outcome : Outcome) : outcome.Extends outcome := ⟨rfl, rfl, List.suffix_refl _⟩

theorem trans (first : loud.Extends middle) (second : middle.Extends quiet) :
    loud.Extends quiet where
  code := first.code.trans second.code
  stdout := first.stdout.trans second.stdout
  stderr := second.stderr.trans first.stderr

theorem warn (stderr : Text) (outcome : Outcome) : (outcome.warn stderr).Extends outcome :=
  ⟨rfl, rfl, List.suffix_append _ _⟩

private theorem allOrNothing (louder : loud.Extends quiet) (disciplined : quiet.AllOrNothing) :
    loud.AllOrNothing := by
  rw [AllOrNothing, louder.code, louder.stdout]
  exact disciplined

end Extends

end Outcome

private theorem allOrNothing_answer (options : Options) (pattern : Text) :
    (answer options pattern).AllOrNothing := by
  unfold answer
  split
  · exact .failure _
  · exact .success _

private theorem code_answer_eq_zero_iff {options : Options} {pattern : Text} :
    (answer options pattern).code = 0 ↔ ∃ explanation, explain pattern = .ok explanation := by
  unfold answer
  cases explain pattern with
  | error error => simp [Outcome.failure]
  | ok explanation => simp [Outcome.success]

theorem runPattern_extends (options : Options) (pattern : Text) :
    (runPattern options pattern).Extends (answer options pattern) := .warn _ _

theorem runPattern_quiet (options : Options) (pattern : Text) :
    runPattern { options with verbose := false } pattern = answer options pattern := rfl

private theorem explainSample_eq {sample : Sample} (member : sample ∈ samples) :
    explainSample sample = .ok (sample, Explanation.ofPattern sample.pattern) := by
  have valid : ∀ sample ∈ samples, sample.pattern ≠ [] ∧
      sample.pattern.length ≤ maxPatternLength ∧ Syntax.accepts sample.pattern := by
    decide +kernel
  rw [explainSample, explain_of_accepted (validate_eq_ok_iff.mpr (valid sample member))]

private theorem mapM_explainSample {chosen : List Sample}
    (known : ∀ sample ∈ chosen, sample ∈ samples) :
    chosen.mapM explainSample =
      .ok (chosen.map fun sample => (sample, Explanation.ofPattern sample.pattern)) := by
  induction chosen with
  | nil => rfl
  | cons sample rest ih =>
      obtain ⟨head, tail⟩ := List.forall_mem_cons.mp known
      rw [List.mapM_cons, explainSample_eq head, ih tail]
      rfl

/-- Every sample has an explanation, so that a run which explains them never fails. -/
theorem runSamples_eq (options : Options) :
    runSamples options = .success (samplesText options
      (samples.map fun sample => (sample, Explanation.ofPattern sample.pattern))) := by
  rw [runSamples, mapM_explainSample fun _ member => member]

theorem allOrNothing_run (options : Options) (input : Option Text) :
    (run options input).AllOrNothing := by
  unfold run
  split
  · rw [runSamples_eq]
    exact .success _
  · cases patternText? options input with
    | none => exact .failure _
    | some pattern => exact (runPattern_extends _ _).allOrNothing (allOrNothing_answer _ _)

theorem code_run_eq_zero_iff {options : Options} {input : Option Text} :
    (run options input).code = 0 ↔ options.examples ∨
      ∃ pattern explanation, patternText? options input = some pattern ∧
        explain pattern = .ok explanation := by
  unfold run
  split
  case isTrue examples =>
    rw [runSamples_eq]
    simp [Outcome.success, examples]
  case isFalse noExamples =>
    cases obtained : patternText? options input with
    | none => simp [Outcome.failure, noExamples]
    | some pattern =>
        dsimp only
        rw [(runPattern_extends options pattern).code, code_answer_eq_zero_iff]
        simp [noExamples]

theorem run_verbose_extends (options : Options) (input : Option Text) :
    (run { options with verbose := true } input).Extends
      (run { options with verbose := false } input) := by
  unfold run
  dsimp only
  split
  · rw [runSamples_eq, runSamples_eq]
    exact .refl _
  · have loud : patternText? { options with verbose := true } input =
        patternText? options input := rfl
    have quiet : patternText? { options with verbose := false } input =
        patternText? options input := rfl
    rw [loud, quiet]
    cases patternText? options input with
    | none => exact .refl _
    | some pattern =>
        dsimp only
        rw [runPattern_quiet]
        exact runPattern_extends { options with verbose := true } pattern

end RegexProse.CommandLine
