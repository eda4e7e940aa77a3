import RegexProse.Proofs.Bracket.Language
import RegexProse.Proofs.Text.Cutting

/-!
# Bracket expressions by byte positions

The length of a bracket expression, found by going from one byte position to the next. A bracket
inside is measured on its own, on the text behind the position at which it stands. All the cuts on
the way are proper, and the length is that of the bracket expression which the scanner reads.
-/

set_option autoImplicit false

namespace RegexProse

open Cutting

namespace Text

/-- The position behind a mark, if the mark stands at the position, and else the position itself. -/
def stepOver (mark : Char) (input : Text) (position : Nat) : Cutting Nat := do
  return if (← behind input position).head? = some mark then position + 1 else position

mutual

/-- The bytes of the bracket expression at the front of the text, if it is closed. -/
def measureBracket (input : Text) : Cutting (Option Nat) := do
  let position ← stepOver '^' input 1
  let position ← stepOver ']' input position
  input |>.measureMembers position
partial_fixpoint

/-- Goes on at a position among the members. -/
def measureMembers (input : Text) (position : Nat) : Cutting (Option Nat) := do
  match ← behind input position with
  | [] => return none
  | '\\' :: _ =>
    let escaped := (← behind input (position + 1)).head?
    input |>.measureMembers (position + (1 + (escaped.map Char.utf8Size).getD 0))
  | '[' :: _ =>
    let nested ← behind input position
    match ← nested |>.measureBracket with
    | none => return none
    | some length => input |>.measureMembers (position + length)
  | ']' :: _ => return some (position + 1)
  | char :: _ => input |>.measureMembers (position + char.utf8Size)
partial_fixpoint

end

end Text

namespace Bracket

/-- A bracket among the members is one expression, or it closes nothing that is around it. -/
private theorem close?_nested (rest : Text) :
    close? 0 .members ('[' :: rest) =
      (scan? ('[' :: rest)).bind fun scan =>
        prepend scan.text (close? 0 .members scan.rest) := by
  cases scanned : scan? ('[' :: rest) with
  | some scan =>
      obtain ⟨expression, whole⟩ := (reads_scan? _ scan).mp scanned
      rw [← whole.trans (List.nil_append _)]
      exact expression.close? 0 scan.rest
  | none =>
      have absent := reads_scan?.eq_none_iff.mp scanned
      cases found : close? 0 .members ('[' :: rest) with
      | none => rfl
      | some parts =>
          obtain ⟨part, behind⟩ := parts
          have whole := close?_append found
          obtain ⟨inner, more, members, rfl, -⟩ := (remainder_of_close? found).split
          cases members with
          | nil | escape => simp at whole
          | @nested text others expression =>
              refine (absent () text expression ⟨?_, ?_⟩).elim
              · exact others ++ ']' :: more ++ behind
              · simpa using whole
          | plain plain =>
              obtain ⟨rfl, -⟩ := List.cons.inj whole
              simp at plain

/-- The bytes up to the bracket that closes the expression. -/
def remaining? (position : Position) (later : Text) : Option Nat :=
  (close? 0 position later).map fun (part, _) => part.byteLength

private theorem remaining?_of_prepend {position next : Position} {chars later rest : Text}
    (step : close? 0 position later = prepend chars (close? 0 next rest)) :
    remaining? position later = (remaining? next rest).map (chars.byteLength + ·) := by
  rw [remaining?, remaining?, step]
  cases close? 0 next rest <;> simp [prepend]

private theorem remaining?_nested (rest : Text) :
    remaining? .members ('[' :: rest) = (scan? ('[' :: rest)).bind fun scan =>
      (remaining? .members scan.rest).map (scan.text.byteLength + ·) := by
  have nested := close?_nested rest
  cases scanned : scan? ('[' :: rest) with
  | none =>
      rw [scanned] at nested
      simp [remaining?, nested]
  | some scan =>
      rw [scanned] at nested
      exact remaining?_of_prepend nested

theorem length?_eq_remaining? (rest : Text) :
    length? ('[' :: rest) = (remaining? .opening rest).map (Text.byteLength ['['] + ·) := by
  cases closed : close? 0 .opening rest <;> simp [length?, scan?, remaining?, closed]

private theorem yields_stepOver_mark {mark : Char} (oneByte : mark.utf8Size = 1)
    (front rest : Text) :
    Yields (Text.stepOver mark (front ++ mark :: rest) front.byteLength)
      (front.byteLength + Text.byteLength [mark]) := by
  refine (yields_behind front (mark :: rest)).bind ?_
  simp only [List.head?_cons, if_true, Text.byteLength_cons, Text.byteLength_nil, oneByte]
  exact yields_pure _

private theorem yields_stepOver_other {mark : Char} {rest : Text} (absent : rest.head? ≠ some mark)
    (front : Text) :
    Yields (Text.stepOver mark (front ++ rest) front.byteLength) front.byteLength := by
  refine (yields_behind front rest).bind ?_
  rw [if_neg absent]
  exact yields_pure _

/-- A mark that only counts at one place is stepped over there, and the scanner goes on behind
it. -/
private theorem exists_stepOver (mark : Char) {position next : Position}
    (oneByte : mark.utf8Size = 1)
    (stands : ∀ rest, close? 0 position (mark :: rest) = prepend [mark] (close? 0 next rest))
    (absent : ∀ {rest : Text}, rest.head? ≠ some mark →
      ∀ depth, close? depth position rest = close? depth next rest)
    (front later : Text) :
    ∃ covered rest : Text, later = covered ++ rest ∧
      Yields (Text.stepOver mark (front ++ later) front.byteLength)
        (front.byteLength + covered.byteLength) ∧
      remaining? position later = (remaining? next rest).map (covered.byteLength + ·) := by
  by_cases marked : later.head? = some mark
  · obtain ⟨rest, rfl⟩ := List.head?_eq_some_iff.mp marked
    exact ⟨[mark], rest, rfl, yields_stepOver_mark oneByte front rest,
      remaining?_of_prepend (stands rest)⟩
  · refine ⟨[], later, rfl, yields_stepOver_other marked front, remaining?_of_prepend ?_⟩
    rw [absent marked, prepend_nil]

/-- From any position before the text the bytes up to the closing bracket are found. -/
def Measured (later : Text) : Prop :=
  ∀ front : Text, Yields (Text.measureMembers (front ++ later) front.byteLength)
    ((remaining? .members later).map (front.byteLength + ·))

theorem Measured.behind {rest : Text} (measured : Measured rest) (front covered : Text) :
    Yields
      (Text.measureMembers (front ++ (covered ++ rest)) (front.byteLength + covered.byteLength))
      (((remaining? .members rest).map (covered.byteLength + ·)).map (front.byteLength + ·)) := by
  have further := measured (front ++ covered)
  simpa [Function.comp_def, Nat.add_assoc] using further

private theorem yields_measure_of_measured {rest : Text}
    (measured : ∀ later : Text, later.length ≤ rest.length → Measured later) :
    Yields (Text.measureBracket ('[' :: rest)) (length? ('[' :: rest)) := by
  obtain ⟨caret, later, rfl, negates, opening⟩ :=
    exists_stepOver '^' rfl (fun _ => rfl) close?_opening ['['] rest
  obtain ⟨leading, inner, rfl, leads, first⟩ :=
    exists_stepOver ']' rfl (fun _ => rfl) close?_first ('[' :: caret) later
  have shorter : inner.length ≤ (caret ++ (leading ++ inner)).length := by
    simp only [List.length_append]
    omega
  have inside := (measured inner shorter).behind ['['] (caret ++ leading)
  rw [Text.measureBracket, length?_eq_remaining?, opening, first]
  refine negates.bind (Yields.bind leads ?_)
  simpa [Function.comp_def, Nat.add_assoc] using inside

/-- The length of what is left is found from every position, by induction on what is left: a bracket
inside is measured on a text that begins later, and so is what stands behind it. -/
theorem measured (later : Text) : Measured later := by
  induction size : later.length using Nat.strongRecOn generalizing later with
  | _ size ih =>
      have shorter (rest : Text) (less : rest.length < later.length) : Measured rest :=
        ih rest.length (size ▸ less) rest rfl
      intro front
      rw [Text.measureMembers]
      refine (yields_behind front later).bind ?_
      split
      case h_1 => exact yields_pure none
      case h_2 more =>
        refine (yields_further front ['\\'] more).bind ?_
        cases more with
        | nil => exact (shorter [] (by simp)).behind front ['\\']
        | cons char rest =>
            rw [remaining?_of_prepend (close?_escape 0 .members char rest)]
            have less : rest.length < ('\\' :: char :: rest).length := by
              simp only [List.length_cons]
              omega
            exact (shorter rest less).behind front ['\\', char]
      case h_3 rest =>
        have smaller (inner : Text) (within : inner.length ≤ rest.length) : Measured inner :=
          shorter inner (by simpa using Nat.lt_succ_of_le within)
        refine (yields_behind front ('[' :: rest)).bind ?_
        refine (yields_measure_of_measured smaller).bind ?_
        rw [length?, remaining?_nested]
        cases scanned : scan? ('[' :: rest) with
        | none => exact yields_pure none
        | some scan =>
            have splits := scan?_splits scanned
            have behind := (shorter scan.rest splits.length_rest_lt).behind front scan.text
            rwa [splits.append] at behind
      case h_4 => exact yields_pure _
      case h_5 char rest notEscape notBracket notClosing =>
        have plain : char ∉ ['[', ']', '\\'] := by simp_all
        rw [remaining?_of_prepend (close?_plain plain (by simp) 0 rest)]
        exact (shorter rest (by simp)).behind front [char]

/-- All the cuts on the way are proper, those for the brackets inside among them. -/
theorem yields_measure (rest : Text) :
    Yields (Text.measureBracket ('[' :: rest)) (length? ('[' :: rest)) :=
  yields_measure_of_measured fun later _ => measured later

private theorem Expression.length_ge {text : Text} (expression : Expression text) :
    3 ≤ text.length := by
  cases expression with
  | @intro caret leading inner carets leadings members =>
      rcases leadings with rfl | ⟨rfl, inhabited⟩
      · simp
        omega
      · have positive := List.length_pos_iff.mpr inhabited
        simp
        omega

theorem covers_of_length? {input : Text} {length : Nat} (found : length? input = some length) :
    Text.Covers 3 length input := by
  obtain ⟨text, expression, front, measured⟩ := length?_eq_some_iff.mp found
  exact ⟨text, front, expression.length_ge, measured⟩

end Bracket

end RegexProse
