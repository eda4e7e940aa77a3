import RegexProse.Proofs.Group.OpenerKinds
import RegexProse.Proofs.Text.Cutting

/-!
# Group openers by byte positions

The opener at the front of a text and its length, found with byte positions only. The ways of
spelling an opener are tried one after the other; all the cuts on the way are proper, and what is
found is the opener that the scanner reads.
-/

set_option autoImplicit false

namespace RegexProse.Opener

open Cutting

/-- The openers that are always spelled in the same way. -/
def fixedOpeners : List (Text × GroupKind) :=
  [("(?<=", .positiveLookbehind), ("(?<!", .negativeLookbehind), ("(?:", .nonCapturing),
    ("(?=", .positiveLookahead), ("(?!", .negativeLookahead)]

/-- The name up to the first closing angle bracket, if it is one. -/
def nameBefore (rest : Text) : Cutting (Option Text) :=
  match rest.position? (· = '>') with
  | none => return none
  | some stop => do
    let name ← before rest stop
    return if isName name then some name else none

/-- The bytes of the opener at the front of the text, if it carries a name. -/
def measureNamed (input : Text) : Cutting (Option Nat) :=
  match (Text.after? "(?P<" input).or (Text.after? "(?<" input) with
  | none => return none
  | some rest => do
    return (← nameBefore rest).map fun name =>
      input.byteLength - rest.byteLength + name.byteLength + 1

/-- The opener at the front of the text and its bytes, if the opener has neither a name nor one of
the fixed spellings. -/
def measureFlagged (input : Text) : Cutting (Opener × Nat) :=
  match Text.after? "(?" input with
  | none => return (.group .capturing, 1)
  | some rest => do
    let flags := (rest.position? fun char => !inFlags char).getD rest.byteLength
    if 0 < flags then
      match ← behind rest flags with
      | ':' :: _ => return (.group .nonCapturing, flags + 3)
      | ')' :: _ => return (.setFlags, flags + 3)
      | _ => return (.group .capturing, 1)
    else return (.group .capturing, 1)

/-- The opener at the front of the text and its bytes. -/
def measure (input : Text) : Cutting (Opener × Nat) :=
  match fixedOpeners.find? (·.1.isPrefixOf input) with
  | some (text, kind) => return (.group kind, text.byteLength)
  | none => do
    match ← measureNamed input with
    | some length => return (.group .namedCapturing, length)
    | none => measureFlagged input

/-- What stands before the first closing bracket is the only name that can stand there. -/
private theorem scanName?_append {name : Text} (absent : '>' ∉ name) (announced more : Text) :
    scanName? announced (name ++ '>' :: more) =
      if isName name then
        some ⟨.group .namedCapturing, announced ++ name ++ ['>'], more⟩
      else none := by
  by_cases valid : isName name
  · rw [if_pos valid]
    exact scanName?_eq_some_iff.mpr ⟨name, more, valid, rfl, rfl⟩
  · rw [if_neg valid]
    cases scanned : scanName? announced (name ++ '>' :: more) with
    | none => rfl
    | some scan =>
        obtain ⟨other, rest, otherValid, same, -⟩ := scanName?_eq_some_iff.mp scanned
        have otherAbsent : '>' ∉ other := by
          intro member
          exact absurd (inName_of_isName otherValid '>' member) (by decide)
        have taken := congrArg (List.takeWhile (· ≠ '>')) same
        rw [Text.takeWhile_ne_append absent, Text.takeWhile_ne_append otherAbsent] at taken
        exact absurd (taken ▸ otherValid) valid

private theorem scanName?_eq_none {rest : Text} (absent : '>' ∉ rest) (announced : Text) :
    scanName? announced rest = none := by
  cases scanned : scanName? announced rest with
  | none => rfl
  | some scan =>
      obtain ⟨name, more, -, rfl, -⟩ := scanName?_eq_some_iff.mp scanned
      exact absurd (by simp) absent

/-- Whatever announces the name, the name that is found is the one that the scanner reads. -/
private theorem exists_nameBefore (rest : Text) :
    ∃ found, Yields (nameBefore rest) found ∧ ∀ announced : Text,
      (scanName? announced rest).map (fun scan => scan.text.byteLength) =
        found.map fun name => announced.byteLength + name.byteLength + 1 := by
  by_cases closed : '>' ∈ rest
  · obtain ⟨name, more, rfl, absent⟩ := List.eq_append_cons_of_mem closed
    refine ⟨if isName name then some name else none, ?_, ?_⟩
    · rw [nameBefore, Text.position?_append absent]
      exact (yields_before name ('>' :: more)).bind (yields_pure _)
    · intro announced
      rw [scanName?_append absent]
      split
      · simp [Nat.add_assoc, show '>'.utf8Size = 1 from rfl]
      · rfl
  · refine ⟨none, ?_, ?_⟩
    · rw [nameBefore, Text.position?_eq_none closed]
      exact yields_pure none
    · intro announced
      rw [scanName?_eq_none closed]
      rfl

private theorem yields_behindAnnounced {input announced rest : Text}
    (whole : input = announced ++ rest) :
    Yields
      (do return (← nameBefore rest).map fun name =>
        input.byteLength - rest.byteLength + name.byteLength + 1)
      ((scanName? announced rest).map fun scan => scan.text.byteLength) := by
  obtain ⟨found, yields, same⟩ := exists_nameBefore rest
  have announcement : input.byteLength - rest.byteLength = announced.byteLength := by simp [whole]
  rw [same announced, announcement]
  exact yields.bind (yields_pure _)

private theorem yields_measureNamed (input : Text) :
    Yields (measureNamed input)
      (((named? "(?P<" input).or (named? "(?<" input)).map fun scan => scan.text.byteLength) := by
  unfold measureNamed named?
  cases withP : Text.after? "(?P<" input with
  | some rest =>
      have whole := Text.after?_eq_some_iff.mp withP
      have notPlain : Text.after? "(?<" input = none := by
        rw [whole]
        rfl
      rw [notPlain]
      simpa using yields_behindAnnounced whole
  | none =>
      cases plain : Text.after? "(?<" input with
      | some rest => simpa using yields_behindAnnounced (Text.after?_eq_some_iff.mp plain)
      | none => exact yields_pure none

private theorem yields_measureFlagged (input : Text) :
    Yields (measureFlagged input)
      (((flagged? input).map Scan.extent).getD (.group .capturing, 1)) := by
  unfold measureFlagged flagged?
  cases asked : Text.after? "(?" input with
  | none => exact yields_pure _
  | some rest =>
      simp only [Text.getD_position?, Option.bind_some]
      have whole := List.takeWhile_append_dropWhile (p := inFlags) (l := rest)
      unfold scanFlags?
      generalize rest.takeWhile inFlags = flags at whole ⊢
      generalize rest.dropWhile inFlags = later at whole ⊢
      subst whole
      have length (stop : Char) (oneByte : stop.utf8Size = 1) :
          Text.byteLength ('(' :: '?' :: flags ++ [stop]) = Text.byteLength flags + 3 := by
        simp only [List.cons_append, Text.byteLength_cons, Text.byteLength_append,
          Text.byteLength_nil, oneByte, show '('.utf8Size = 1 from rfl,
          show '?'.utf8Size = 1 from rfl]
        omega
      cases flags with
      | nil => exact yields_pure _
      | cons flag flags =>
          rw [if_pos (Text.byteLength_pos (List.cons_ne_nil flag flags))]
          refine (yields_behind (flag :: flags) later).bind ?_
          split
          case h_1 =>
            rw [← length ':' rfl]
            exact yields_pure _
          case h_2 =>
            rw [← length ')' rfl]
            exact yields_pure _
          case h_3 => simpa using yields_pure (group .capturing, 1)

private theorem findSome?_of_find? {α β : Type} {applies : α → Bool} {result? : α → Option β}
    (agrees : ∀ choice, (result? choice).isSome = applies choice) (choices : List α) :
    choices.findSome? result? = (choices.find? applies).bind result? := by
  induction choices with
  | nil => rfl
  | cons choice choices ih =>
      have here := agrees choice
      cases found : result? choice with
      | none =>
          rw [found] at here
          simp [found, ← here, ih]
      | some value =>
          rw [found] at here
          simp [found, ← here]

private theorem isSome_fixed? (opener : Opener) (text input : Text) :
    (fixed? opener text input).isSome = text.isPrefixOf input := by
  rw [fixed?, Option.isSome_map, Bool.eq_iff_iff, Option.isSome_iff_exists,
    List.isPrefixOf_iff_prefix]
  simp only [Text.after?_eq_some_iff]
  constructor
  · rintro ⟨rest, rfl⟩
    exact List.prefix_append text rest
  · rintro ⟨rest, rfl⟩
    exact ⟨rest, rfl⟩

/-- The fixed spellings are tried first, then the names, then the flags. -/
theorem scanSpecial?_eq_or (rest : Text) :
    scanSpecial? rest =
      ((fixedOpeners.find? (·.1.isPrefixOf ('(' :: rest))).bind
          fun choice => fixed? (.group choice.2) choice.1 ('(' :: rest)).or
        (((named? "(?P<" ('(' :: rest)).or (named? "(?<" ('(' :: rest))).or
          (flagged? ('(' :: rest))) := by
  have order : attempts = fixedOpeners.map (fun choice => fixed? (.group choice.2) choice.1) ++
      [named? "(?P<", named? "(?<", flagged?] := rfl
  have agrees (choice : Text × GroupKind) :
      (fixed? (.group choice.2) choice.1 ('(' :: rest)).isSome =
        choice.1.isPrefixOf ('(' :: rest) := isSome_fixed? _ _ _
  rw [← findSome?_attempts (List.Perm.refl attempts) rest, order, List.findSome?_append,
    List.findSome?_map, ← findSome?_of_find? agrees]
  have others : [named? "(?P<", named? "(?<", flagged?].findSome? (· ('(' :: rest)) =
      ((named? "(?P<" ('(' :: rest)).or (named? "(?<" ('(' :: rest))).or
        (flagged? ('(' :: rest)) := by
    simp only [List.findSome?_cons, List.findSome?_nil]
    cases named? "(?P<" ('(' :: rest) <;> cases named? "(?<" ('(' :: rest) <;>
      cases flagged? ('(' :: rest) <;> rfl
  rw [others]
  rfl

theorem yields_measure (rest : Text) : Yields (measure ('(' :: rest)) (scan rest).extent := by
  rw [scan, scanSpecial?_eq_or]
  unfold measure
  cases found : fixedOpeners.find? (·.1.isPrefixOf ('(' :: rest)) with
  | some choice =>
      obtain ⟨text, kind⟩ := choice
      have begins : text.isPrefixOf ('(' :: rest) := by
        simpa using List.find?_some found
      obtain ⟨scan, read⟩ : ∃ scan, fixed? (.group kind) text ('(' :: rest) = some scan :=
        Option.isSome_iff_exists.mp ((isSome_fixed? _ _ _).trans begins)
      obtain ⟨value, covered, -⟩ := fixed?_eq_some_iff.mp read
      have extent : (group kind, text.byteLength) = scan.extent := by
        rw [Scan.extent, value, covered]
      simp only [Option.bind_some, read, Option.some_or, Option.getD_some, extent]
      exact yields_pure _
  | none =>
      rw [Option.bind_none, Option.none_or]
      refine (yields_measureNamed ('(' :: rest)).bind ?_
      cases named : (named? "(?P<" ('(' :: rest)).or (named? "(?<" ('(' :: rest)) with
      | some scan =>
          have value : scan.value = group .namedCapturing := by
            rcases Option.or_eq_some_iff.mp named with withP | ⟨-, plain⟩
            · exact (named?_eq_some_iff.mp withP).1
            · exact (named?_eq_some_iff.mp plain).1
          have extent : (group .namedCapturing, scan.text.byteLength) = scan.extent := by
            rw [Scan.extent, value]
          simp only [Option.map_some, Option.some_or, Option.getD_some, extent]
          exact yields_pure _
      | none =>
          have flagged := yields_measureFlagged ('(' :: rest)
          have alone : (group .capturing, 1) =
              (Scan.one (group .capturing) '(' rest).extent := rfl
          rw [alone, Option.getD_map] at flagged
          simpa using flagged

end RegexProse.Opener
