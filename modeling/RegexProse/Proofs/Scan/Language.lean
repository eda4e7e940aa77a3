import RegexProse.Scan

/-!
# Languages of readings

A reading takes a text of its language from the front of the input whenever one stands there. So
what it takes is decided by the characters that it covers: any text may follow them. Two texts of
the language never stand at the front of one input.
-/

set_option autoImplicit false

namespace RegexProse

namespace Text

variable {inside : Char → Bool} {run rest : Text} {stop : Char}

theorem takeWhile_append_stop (within : ∀ char ∈ run, inside char) (stops : ¬ inside stop) :
    (run ++ stop :: rest).takeWhile inside = run := by
  simp [List.takeWhile_append_of_pos within, stops]

theorem dropWhile_append_stop (within : ∀ char ∈ run, inside char) (stops : ¬ inside stop) :
    (run ++ stop :: rest).dropWhile inside = stop :: rest := by
  simp [List.dropWhile_append_of_pos within, stops]

theorem eq_append_of_dropWhile {input : Text} (stopped : input.dropWhile inside = stop :: rest) :
    input = input.takeWhile inside ++ stop :: rest := by
  rw [← stopped, List.takeWhile_append_dropWhile]

/-- Where a run ends does not depend on how it is told from what follows. -/
theorem append_stop_inj {other : Char} {left right more : Text}
    (same : left ++ stop :: rest = right ++ other :: more)
    (withinLeft : ∀ char ∈ left, inside char) (withinRight : ∀ char ∈ right, inside char)
    (stops : ¬ inside stop) (otherStops : ¬ inside other) : stop = other ∧ rest = more := by
  have stopped := congrArg (List.dropWhile inside) same
  rw [dropWhile_append_stop withinLeft stops, dropWhile_append_stop withinRight otherStops]
    at stopped
  exact List.cons.inj stopped

section FirstStop

variable (absent : stop ∉ run)
include absent

theorem forall_ne_of_not_mem : ∀ char ∈ run, decide (char ≠ stop) := by
  intro char member
  simpa using ne_of_mem_of_not_mem member absent

theorem takeWhile_ne_append : (run ++ stop :: rest).takeWhile (· ≠ stop) = run :=
  takeWhile_append_stop (forall_ne_of_not_mem absent) (by simp)

theorem dropWhile_ne_append : (run ++ stop :: rest).dropWhile (· ≠ stop) = stop :: rest :=
  dropWhile_append_stop (forall_ne_of_not_mem absent) (by simp)

end FirstStop

theorem not_mem_takeWhile_ne (stop : Char) (input : Text) : stop ∉ input.takeWhile (· ≠ stop) := by
  intro member
  have within := List.all_eq_true.mp List.all_takeWhile _ member
  simp at within

theorem eq_of_dropWhile_ne {char : Char} {input : Text}
    (stopped : input.dropWhile (· ≠ stop) = char :: rest) : char = stop := by
  have kept := List.head?_dropWhile_not (· ≠ stop) input
  rw [stopped] at kept
  simpa using kept

end Text

namespace Scan

variable {α : Type} {announced : Text} {read? : Text → Option (Scan α)}
  {language : α → Text → Prop}

/-- The reading goes on behind the announced characters and takes exactly the texts of the
language. -/
def Reads (announced : Text) (read? : Text → Option (Scan α)) (language : α → Text → Prop) : Prop :=
  ∀ (input : Text) (scan : Scan α), read? input = some scan ↔
    language scan.value scan.text ∧ scan.text ++ scan.rest = announced ++ input

theorem Reads.eq_some (reads : Reads announced read? language) {value : α} {covered : Text}
    (spelled : language value (announced ++ covered)) (rest : Text) :
    read? (covered ++ rest) = some ⟨value, announced ++ covered, rest⟩ :=
  (reads _ _).mpr ⟨spelled, List.append_assoc announced covered rest⟩

/-- The meaning of what was read, and the bytes that it takes. -/
def extent (scan : Scan α) : α × Nat := (scan.value, scan.text.byteLength)

section Front

variable {input : Text} (reads : Reads announced read? language)
include reads

theorem Reads.unique {left right : α} {text other : Text} (spelled : language left text)
    (otherSpelled : language right other) (front : text <+: announced ++ input)
    (otherFront : other <+: announced ++ input) : left = right ∧ text = other := by
  obtain ⟨rest, whole⟩ := front
  obtain ⟨more, otherWhole⟩ := otherFront
  have read := (reads input ⟨left, text, rest⟩).mpr ⟨spelled, whole⟩
  have again := (reads input ⟨right, other, more⟩).mpr ⟨otherSpelled, otherWhole⟩
  rw [read] at again
  obtain ⟨sameValue, sameText, -⟩ := Scan.mk.inj (Option.some.inj again)
  exact ⟨sameValue, sameText⟩

theorem Reads.extent_eq_some_iff (value : α) (length : Nat) :
    (read? input).map extent = some (value, length) ↔
      ∃ text, language value text ∧ text <+: announced ++ input ∧ text.byteLength = length := by
  constructor
  · intro taken
    obtain ⟨scan, scanned, measured⟩ := Option.map_eq_some_iff.mp taken
    obtain ⟨spelled, whole⟩ := (reads input scan).mp scanned
    obtain ⟨rfl, rfl⟩ := Prod.mk.inj measured
    exact ⟨scan.text, spelled, ⟨scan.rest, whole⟩, rfl⟩
  · rintro ⟨text, spelled, ⟨rest, whole⟩, rfl⟩
    rw [(reads input ⟨value, text, rest⟩).mpr ⟨spelled, whole⟩]
    rfl

theorem Reads.eq_none_iff :
    read? input = none ↔ ∀ value text, language value text → ¬ text <+: announced ++ input := by
  constructor
  · rintro nothing value text spelled ⟨rest, whole⟩
    rw [(reads input ⟨value, text, rest⟩).mpr ⟨spelled, whole⟩] at nothing
    cases nothing
  · intro absent
    cases found : read? input with
    | none => rfl
    | some scan =>
        obtain ⟨spelled, whole⟩ := (reads input scan).mp found
        exact absurd ⟨scan.rest, whole⟩ (absent _ _ spelled)

end Front

end Scan

end RegexProse
