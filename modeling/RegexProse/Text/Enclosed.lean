import RegexProse.Text.Basic

/-!
# Enclosed texts

The part of a text between an opening and a closing mark. It exists exactly when the text is the
opening, that part and the closing mark.
-/

set_option autoImplicit false

namespace RegexProse.Text

/-- What follows an opening, if the text begins with it. -/
def after? : Text → Text → Option Text
  | [], text => some text
  | _ :: _, [] => none
  | mark :: opening, char :: text => if mark = char then after? opening text else none

/-- What precedes a closing mark, if the text ends with it. -/
def before? (closing : Char) (text : Text) : Option Text :=
  if text.getLast? = some closing then some text.dropLast else none

/-- What stands between an opening and a closing mark. -/
def enclosed? (opening : Text) (closing : Char) (text : Text) : Option Text :=
  (after? opening text).bind (before? closing)

theorem after?_eq_some_iff {opening text rest : Text} :
    after? opening text = some rest ↔ text = opening ++ rest := by
  induction opening generalizing text with
  | nil => simp [after?]
  | cons mark opening ih =>
    cases text with
    | nil => simp [after?]
    | cons char text => by_cases same : mark = char <;> simp [after?, same, ih, eq_comm]

theorem before?_eq_some_iff {closing : Char} {text front : Text} :
    before? closing text = some front ↔ text = front ++ [closing] := by
  simp only [before?, Option.ite_none_right_eq_some, Option.some.injEq]
  constructor
  · rintro ⟨last, rfl⟩
    obtain ⟨front, rfl⟩ := List.getLast?_eq_some_iff.mp last
    simp
  · rintro rfl
    simp

theorem enclosed?_eq_some_iff {opening text inner : Text} {closing : Char} :
    enclosed? opening closing text = some inner ↔ text = opening ++ inner ++ [closing] := by
  simp [enclosed?, Option.bind_eq_some_iff, after?_eq_some_iff, before?_eq_some_iff]

end RegexProse.Text
