import RegexProse.CommandLine.Run
import RegexProse.Proofs.Json.Injective

/-!
# Structured reports lose nothing

An explanation can be told from its report. A field that is left out of a record stands for one
value only, and what is written of the other values differs from it.
-/

set_option autoImplicit false

namespace RegexProse

namespace Report

/-- The fields that may be left out show what they are made from, also where they are missing. -/
private theorem optionalFields_inj {key mark : Text} {items others : List Json} {flag other : Bool}
    (same : itemsField key items ++ flagField mark flag =
      itemsField key others ++ flagField mark other) :
    items = others ∧ flag = other := by
  cases items with
  | nil =>
      cases others with
      | nil => cases flag <;> cases other <;> simp [itemsField, flagField] at same ⊢
      | cons first others => cases flag <;> simp [itemsField, flagField] at same
  | cons item items =>
      cases others with
      | nil => cases other <;> simp [itemsField, flagField] at same
      | cons first others =>
          simp only [itemsField, List.isEmpty_cons, Bool.false_eq_true, if_false, List.cons_append,
            List.nil_append, List.cons.injEq, Prod.mk.injEq, Json.list.injEq, true_and] at same
          obtain ⟨⟨rfl, rfl⟩, flags⟩ := same
          cases flag <;> cases other <;> simp [flagField] at flags ⊢

mutual

theorem ofComponent_inj (left right : Component) (same : ofComponent left = ofComponent right) :
    left = right := by
  match left, right with
  | ⟨kind, raw, description, children, unterminated⟩,
    ⟨otherKind, otherRaw, otherDescription, otherChildren, otherUnterminated⟩ =>
      simp only [ofComponent, textField, List.cons_append, List.nil_append, Json.record.injEq,
        List.cons.injEq, Prod.mk.injEq, Json.string.injEq, true_and] at same
      obtain ⟨names, rfl, rfl, optional⟩ := same
      obtain rfl := ComponentKind.name_injective names
      obtain ⟨contents, rfl⟩ := optionalFields_inj optional
      obtain rfl := ofComponents_inj children otherChildren contents
      rfl

theorem ofComponents_inj (left right : List Component)
    (same : ofComponents left = ofComponents right) : left = right := by
  match left, right with
  | [], [] => rfl
  | [], other :: others => simp [ofComponents] at same
  | component :: rest, [] => simp [ofComponents] at same
  | component :: rest, other :: others =>
      rw [ofComponents, ofComponents, List.cons.injEq] at same
      rw [ofComponent_inj component other same.1, ofComponents_inj rest others same.2]

end

theorem ofExplanation_inj {left right : Explanation}
    (same : ofExplanation left = ofExplanation right) : left = right := by
  obtain ⟨components, sentence⟩ := left
  obtain ⟨otherComponents, otherSentence⟩ := right
  simp only [ofExplanation, textField, Json.record.injEq, List.cons.injEq, Prod.mk.injEq,
    Json.list.injEq, Json.string.injEq, true_and, and_true] at same
  obtain ⟨contents, rfl⟩ := same
  obtain rfl := ofComponents_inj components otherComponents contents
  rfl

end Report

namespace CommandLine

/-- Runs that write JSON print the same text for the same explanation only, whatever its strings
hold and however deep it is. -/
theorem report_eq_iff {options others : Options} (json : options.writesJson)
    (alsoJson : others.writesJson) (pattern other : Text) (left right : Explanation) :
    report options pattern left = report others other right ↔ left = right := by
  rw [report, report, if_pos json, if_pos alsoJson]
  constructor
  · intro same
    exact Report.ofExplanation_inj (Json.print_inj (List.append_cancel_right same))
  · intro same
    rw [same]

/-- Two components that would be written alike if quotes and line feeds were not escaped. -/
theorem report_ne_lookalike :
    let options : Options := { Options.empty with format := some .json }
    let left : Component := ⟨.literal, "a\",\n      \"description\": \"b", "c", [], false⟩
    let right : Component := ⟨.literal, "a", "b\",\n      \"description\": \"c", [], false⟩
    options.writesJson ∧ report options "a" ⟨[left], "d"⟩ ≠ report options "a" ⟨[right], "d"⟩ := by
  intro options left right
  have json : options.writesJson := rfl
  refine ⟨json, fun same => ?_⟩
  have equal := (report_eq_iff json json "a" "a" ⟨[left], "d"⟩ ⟨[right], "d"⟩).mp same
  simp [left, right] at equal

end CommandLine

end RegexProse
