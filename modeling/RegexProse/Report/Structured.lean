import RegexProse.Explanation
import RegexProse.Json.Basic
import RegexProse.Samples

/-!
# Structured reports

Explanations as JSON values. The content of a component is left out where there is none, and so is
the mark of an unterminated group on all other components.
-/

set_option autoImplicit false

namespace RegexProse.Report

def textField (key text : Text) : Text × Json := (key, .string text)

/-- A field that is there if it has items. -/
def itemsField (key : Text) (items : List Json) : List (Text × Json) :=
  if items.isEmpty then [] else [(key, .list items)]

/-- A field that is there if it is set. -/
def flagField (key : Text) (flag : Bool) : List (Text × Json) :=
  if flag then [(key, .flag true)] else []

mutual

def ofComponent : Component → Json
  | ⟨kind, raw, description, children, unterminated⟩ =>
    .record <|
      [textField "kind" kind.name, textField "raw_value" raw,
        textField "description" description] ++
      itemsField "children" (ofComponents children) ++ flagField "unterminated" unterminated

def ofComponents : List Component → List Json
  | [] => []
  | component :: rest => ofComponent component :: ofComponents rest

end

def ofExplanation (explanation : Explanation) : Json :=
  .record [("components", .list (ofComponents explanation.components)),
    textField "full_description" explanation.fullDescription]

def ofSample (sample : Sample) (explanation : Explanation) : Json :=
  Json.sortKeys <| .record [textField "title" sample.title, textField "pattern" sample.pattern,
    textField "summary" sample.summary, ("explanation", ofExplanation explanation)]

end RegexProse.Report
