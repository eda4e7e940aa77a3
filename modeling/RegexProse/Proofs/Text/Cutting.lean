import RegexProse.Scan

/-!
# Cutting texts at byte positions

A text can be cut at a byte position that lies in it and not inside one of its characters. A reading
that works with byte positions cuts the texts that it reads; the cuts that it makes are noted, so
that they can be spoken about, and the reading fails at a position where no cut is possible.
-/

set_option autoImplicit false

namespace RegexProse

namespace Text

/-- The characters before a byte position and those behind it. There are none where the position
lies behind the text or inside a character. -/
def cut? : Nat → Text → Option (Text × Text)
  | 0, text => some ([], text)
  | _ + 1, [] => none
  | position + 1, char :: rest =>
    if char.utf8Size ≤ position + 1 then
      (cut? (position + 1 - char.utf8Size) rest).map fun (front, behind) => (char :: front, behind)
    else none

/-- The byte position of the first character with a property. -/
def position? (property : Char → Bool) : Text → Option Nat
  | [] => none
  | char :: rest =>
    if property char then some 0 else (position? property rest).map (char.utf8Size + ·)

/-- The text begins with at least so many characters that take so many bytes. -/
def Covers (least length : Nat) (text : Text) : Prop :=
  ∃ front : Text, front <+: text ∧ least ≤ front.length ∧ front.byteLength = length

theorem byteLength_pos {text : Text} (inhabited : text ≠ []) : 0 < text.byteLength := by
  cases text with
  | nil => exact absurd rfl inhabited
  | cons char rest =>
      have positive := char.utf8Size_pos
      rw [byteLength_cons]
      omega

theorem cut?_append (front rest : Text) :
    cut? front.byteLength (front ++ rest) = some (front, rest) := by
  induction front with
  | nil => cases rest <;> rfl
  | cons char front ih =>
      have positive := char.utf8Size_pos
      obtain ⟨position, total⟩ : ∃ position, char.utf8Size + byteLength front = position + 1 :=
        ⟨char.utf8Size + byteLength front - 1, by omega⟩
      have fits : char.utf8Size ≤ position + 1 := by omega
      have left : position + 1 - char.utf8Size = byteLength front := by omega
      rw [byteLength_cons, total, List.cons_append, cut?, if_pos fits, left, ih]
      rfl

theorem position?_append {stop : Char} {front : Text} (absent : stop ∉ front) (rest : Text) :
    position? (· = stop) (front ++ stop :: rest) = some front.byteLength := by
  induction front with
  | nil => simp [position?]
  | cons char front ih =>
      obtain ⟨differs, later⟩ : stop ≠ char ∧ stop ∉ front := by simpa using absent
      simp [position?, differs.symm, ih later]

theorem position?_eq_none {stop : Char} {text : Text} (absent : stop ∉ text) :
    position? (· = stop) text = none := by
  induction text with
  | nil => rfl
  | cons char rest ih =>
      obtain ⟨differs, later⟩ : stop ≠ char ∧ stop ∉ rest := by simpa using absent
      simp [position?, differs.symm, ih later]

theorem getD_position? (inside : Char → Bool) (text : Text) :
    (position? (fun char => !inside char) text).getD text.byteLength =
      byteLength (text.takeWhile inside) := by
  induction text with
  | nil => rfl
  | cons char rest ih =>
      cases within : inside char with
      | false => simp [position?, within]
      | true =>
          rw [List.takeWhile_cons_of_pos within, byteLength_cons, byteLength_cons, ← ih]
          cases later : position? (fun char => !inside char) rest <;>
            simp [position?, within, later]

end Text

theorem Scan.Splits.covers {α : Type} {scan : Scan α} {input : Text} (splits : scan.Splits input) :
    Text.Covers 1 scan.text.byteLength input :=
  ⟨scan.text, ⟨scan.rest, splits.append⟩, List.length_pos_iff.mpr splits.ne_nil, rfl⟩

/-- A cut of a text at a byte position. -/
structure Cut where
  text : Text
  position : Nat

/-- The position is in range, and all the bytes before it are those of whole characters. -/
def Cut.Proper (cut : Cut) : Prop :=
  cut.position ≤ cut.text.byteLength ∧
    ∃ front : Text, front <+: cut.text ∧ front.byteLength = cut.position

theorem Cut.proper_append (front rest : Text) : Cut.Proper ⟨front ++ rest, front.byteLength⟩ :=
  ⟨by simp, front, List.prefix_append front rest, rfl⟩

/-- A cut is proper if it leaves UTF-8 text on both sides. -/
theorem Cut.proper_iff_isValid {cut : Cut} :
    cut.Proper ↔ String.Pos.Raw.IsValid (String.ofList cut.text) ⟨cut.position⟩ := by
  rw [String.Pos.Raw.isValid_iff_exists_append]
  constructor
  · rintro ⟨-, front, ⟨rest, whole⟩, measured⟩
    refine ⟨String.ofList front, String.ofList rest, ?_, ?_⟩
    · rw [← whole, String.ofList_append]
    · rw [← measured, ← Text.utf8ByteSize_ofList]
      rfl
  · rintro ⟨front, rest, whole, same⟩
    have parts : cut.text = front.toList ++ rest.toList := by
      rw [← String.toList_append, ← whole, String.toList_ofList]
    have measured : Text.byteLength front.toList = cut.position := by
      rw [← Text.utf8ByteSize_ofList, String.ofList_toList]
      exact (congrArg String.Pos.Raw.byteIdx same).symm
    have proper := Cut.proper_append front.toList rest.toList
    rwa [← parts, measured] at proper

/-- A reading that cuts texts at byte positions. It goes on from the cuts made before it, and has no
outcome if it cuts where that is impossible, or never ends. -/
abbrev Cutting (α : Type) := StateT (List Cut) Option α

namespace Cutting

variable {α β : Type}

def cut (text : Text) (position : Nat) : Cutting (Text × Text) := fun made =>
  (text.cut? position).map fun parts => (parts, made ++ [⟨text, position⟩])

/-- The characters before a position. -/
def before (text : Text) (position : Nat) : Cutting Text := do
  return (← cut text position).1

/-- The characters behind a position. -/
def behind (text : Text) (position : Nat) : Cutting Text := do
  return (← cut text position).2

/-- Whatever cuts were made before, the reading ends with the value, and its own cuts are proper. -/
def Yields (reading : Cutting α) (value : α) : Prop :=
  ∀ made, ∃ cuts, reading.run made = some (value, made ++ cuts) ∧ ∀ cut ∈ cuts, cut.Proper

theorem yields_pure (value : α) : Yields (pure value) value := by
  intro made
  exact ⟨[], by simp, by simp⟩

theorem Yields.bind {reading : Cutting α} {next : α → Cutting β} {value : α} {result : β}
    (first : Yields reading value) (second : Yields (next value) result) :
    Yields (reading >>= next) result := by
  intro made
  obtain ⟨cuts, ran, proper⟩ := first made
  obtain ⟨later, ranLater, properLater⟩ := second (made ++ cuts)
  refine ⟨cuts ++ later, ?_, ?_⟩
  · rw [StateT.run_bind, ran, Option.bind_eq_bind, Option.bind_some, ranLater, List.append_assoc]
  · intro cut member
    exact (List.mem_append.mp member).elim (proper cut) (properLater cut)

private theorem yields_cut (front rest : Text) :
    Yields (cut (front ++ rest) front.byteLength) (front, rest) := by
  intro made
  refine ⟨[⟨front ++ rest, front.byteLength⟩], ?_, ?_⟩
  · simp [cut, StateT.run, Text.cut?_append]
  · intro cut member
    obtain rfl := List.mem_singleton.mp member
    exact Cut.proper_append front rest

theorem yields_before (front rest : Text) :
    Yields (before (front ++ rest) front.byteLength) front :=
  (yields_cut front rest).bind (yields_pure front)

theorem yields_behind (front rest : Text) :
    Yields (behind (front ++ rest) front.byteLength) rest :=
  (yields_cut front rest).bind (yields_pure rest)

theorem yields_further (front covered rest : Text) :
    Yields (behind (front ++ (covered ++ rest)) (front.byteLength + covered.byteLength)) rest := by
  rw [← List.append_assoc, ← Text.byteLength_append]
  exact yields_behind (front ++ covered) rest

end Cutting

end RegexProse
