import RegexProse.Json.Printer

/-!
# Written JSON is unambiguous

A value in its written form shows where it ends. So a text begins with the written form of one value
at most, and two values are never written alike.
-/

set_option autoImplicit false

namespace RegexProse.Json

def hexValue (digit : Char) : Nat :=
  if digit.toNat < 87 then digit.toNat - 48 else digit.toNat - 87

theorem hexValue_hexDigit : ∀ value < 16, hexValue (hexDigit value) = value := by decide

/-- Reads back a character from the front of a string. -/
def unescape : Text → Option (Char × Text)
  | '\\' :: 'u' :: '0' :: '0' :: high :: low :: rest =>
    some (Char.ofNat (16 * hexValue high + hexValue low), rest)
  | '\\' :: 'b' :: rest => some ('\x08', rest)
  | '\\' :: 't' :: rest => some ('\t', rest)
  | '\\' :: 'n' :: rest => some ('\n', rest)
  | '\\' :: 'f' :: rest => some ('\x0c', rest)
  | '\\' :: 'r' :: rest => some ('\r', rest)
  | '\\' :: mark :: rest => some (mark, rest)
  | char :: rest => some (char, rest)
  | [] => none

theorem unescape_escaped (char : Char) (more : Text) :
    unescape (escaped char ++ more) = some (char, more) := by
  unfold escaped
  split
  case h_8 notQuote notBackslash notBackspace notTab notFeed notForm notReturn =>
    split
    case isTrue control =>
      have high := hexValue_hexDigit (char.toNat / 16) (by omega)
      have low := hexValue_hexDigit (char.toNat % 16) (by omega)
      show some (Char.ofNat (16 * hexValue _ + hexValue _), more) = _
      rw [high, low, Nat.div_add_mod, Char.ofNat_toNat]
    case isFalse =>
      rw [List.singleton_append, unescape]
      all_goals simp_all
  all_goals rfl

private theorem escaped_append_inj {left right : Char} {more other : Text}
    (same : escaped left ++ more = escaped right ++ other) : left = right ∧ more = other := by
  have read := congrArg unescape same
  rw [unescape_escaped, unescape_escaped] at read
  exact Prod.mk.inj (Option.some.inj read)

/-- No character is written as the quote that ends a string. -/
private theorem escaped_append_ne_quote (char : Char) (more other : Text) :
    escaped char ++ more ≠ '"' :: other := by
  unfold escaped
  split
  case h_8 notQuote _ _ _ _ _ _ =>
    split
    · simp
    · simpa using fun same => absurd same notQuote
  all_goals simp

private theorem flatMap_escaped_append_inj {left right more other : Text}
    (same : left.flatMap escaped ++ '"' :: more = right.flatMap escaped ++ '"' :: other) :
    left = right ∧ more = other := by
  induction left generalizing right with
  | nil =>
      cases right with
      | nil => exact ⟨rfl, (List.cons.inj same).2⟩
      | cons char right =>
          rw [List.flatMap_cons, List.append_assoc] at same
          exact absurd same.symm (escaped_append_ne_quote char _ _)
  | cons char left ih =>
      cases right with
      | nil =>
          rw [List.flatMap_cons, List.append_assoc] at same
          exact absurd same (escaped_append_ne_quote char _ _)
      | cons head right =>
          rw [List.flatMap_cons, List.flatMap_cons, List.append_assoc, List.append_assoc] at same
          obtain ⟨rfl, later⟩ := escaped_append_inj same
          obtain ⟨rfl, rest⟩ := ih later
          exact ⟨rfl, rest⟩

theorem quoted_append_inj {left right more other : Text}
    (same : quoted left ++ more = quoted right ++ other) : left = right ∧ more = other := by
  simp only [quoted, List.append_assoc, List.cons_append, List.nil_append, List.cons.injEq,
    true_and] at same
  exact flatMap_escaped_append_inj same

theorem render_list_cons (depth : Nat) (item : Json) (items : List Json) (more : Text) :
    render depth (.list (item :: items)) ++ more =
      '[' :: (newLine (depth + 1) ++ (render (depth + 1) item ++
        (renderItems (depth + 1) items ++ (newLine depth ++ ']' :: more)))) := by
  simp [render]

theorem render_record_cons (depth : Nat) (key : Text) (value : Json) (fields : List (Text × Json))
    (more : Text) :
    render depth (.record ((key, value) :: fields)) ++ more =
      '{' :: (newLine (depth + 1) ++ (quoted key ++ ((": " : Text) ++ (render (depth + 1) value ++
        (renderFields (depth + 1) fields ++ (newLine depth ++ '}' :: more)))))) := by
  simp [render]

theorem renderItems_cons (depth : Nat) (item : Json) (items : List Json) (more : Text) :
    renderItems depth (item :: items) ++ more =
      ',' :: (newLine depth ++ (render depth item ++ (renderItems depth items ++ more))) := by
  simp [renderItems]

theorem renderFields_cons (depth : Nat) (key : Text) (value : Json) (fields : List (Text × Json))
    (more : Text) :
    renderFields depth ((key, value) :: fields) ++ more =
      ',' :: (newLine depth ++ (quoted key ++ ((": " : Text) ++ (render depth value ++
        (renderFields depth fields ++ more))))) := by
  simp [renderFields]

/-- The character with which a value begins. -/
def mark : Json → Char
  | .string _ => '"'
  | .flag true => 't'
  | .flag false => 'f'
  | .list _ => '['
  | .record _ => '{'

theorem head?_render (depth : Nat) (json : Json) (more : Text) :
    (render depth json ++ more).head? = some json.mark := by
  match json with
  | .string text => rfl
  | .flag true => rfl
  | .flag false => rfl
  | .list [] => rfl
  | .list (item :: items) => rw [render_list_cons]; rfl
  | .record [] => rfl
  | .record ((key, value) :: fields) => rw [render_record_cons]; rfl

mutual

theorem render_append_inj (depth : Nat) (left right : Json) {more other : Text}
    (same : render depth left ++ more = render depth right ++ other) :
    left = right ∧ more = other := by
  have first := congrArg List.head? same
  rw [head?_render, head?_render, Option.some.injEq] at first
  match left, right with
  | .string text, .string otherText =>
      obtain ⟨rfl, rest⟩ := quoted_append_inj same
      exact ⟨rfl, rest⟩
  | .flag true, .flag true => exact ⟨rfl, List.append_cancel_left same⟩
  | .flag false, .flag false => exact ⟨rfl, List.append_cancel_left same⟩
  | .list [], .list [] => exact ⟨rfl, List.append_cancel_left same⟩
  | .list [], .list (item :: items) => simp [render, newLine] at same
  | .list (item :: items), .list [] => simp [render, newLine] at same
  | .list (item :: items), .list (otherItem :: others) =>
      rw [render_list_cons, render_list_cons, List.cons.injEq, List.append_cancel_left_eq] at same
      obtain ⟨rfl, behind⟩ := render_append_inj (depth + 1) item otherItem same.2
      obtain ⟨rfl, rest⟩ := renderItems_append_inj (depth + 1) depth items others behind
      exact ⟨rfl, (List.cons.inj rest).2⟩
  | .record [], .record [] => exact ⟨rfl, List.append_cancel_left same⟩
  | .record [], .record (field :: fields) => simp [render, newLine] at same
  | .record (field :: fields), .record [] => simp [render, newLine] at same
  | .record ((key, value) :: fields), .record ((otherKey, otherValue) :: others) =>
      rw [render_record_cons, render_record_cons, List.cons.injEq, List.append_cancel_left_eq]
        at same
      obtain ⟨rfl, colon⟩ := quoted_append_inj same.2
      obtain ⟨rfl, behind⟩ :=
        render_append_inj (depth + 1) value otherValue (List.append_cancel_left colon)
      obtain ⟨rfl, rest⟩ := renderFields_append_inj (depth + 1) depth fields others behind
      exact ⟨rfl, (List.cons.inj rest).2⟩

theorem renderItems_append_inj (depth outer : Nat) (left right : List Json) {more other : Text}
    (same : renderItems depth left ++ (newLine outer ++ more) =
      renderItems depth right ++ (newLine outer ++ other)) :
    left = right ∧ more = other := by
  cases left with
  | nil =>
      cases right with
      | nil => exact ⟨rfl, List.append_cancel_left same⟩
      | cons item right => simp [renderItems, newLine] at same
  | cons item left =>
      cases right with
      | nil => simp [renderItems, newLine] at same
      | cons head right =>
          rw [renderItems_cons, renderItems_cons, List.cons.injEq, List.append_cancel_left_eq]
            at same
          obtain ⟨rfl, later⟩ := render_append_inj depth item head same.2
          obtain ⟨rfl, rest⟩ := renderItems_append_inj depth outer left right later
          exact ⟨rfl, rest⟩

theorem renderFields_append_inj (depth outer : Nat) (left right : List (Text × Json))
    {more other : Text}
    (same : renderFields depth left ++ (newLine outer ++ more) =
      renderFields depth right ++ (newLine outer ++ other)) :
    left = right ∧ more = other := by
  match left, right with
  | [], [] => exact ⟨rfl, List.append_cancel_left same⟩
  | [], (key, value) :: right => simp [renderFields, newLine] at same
  | (key, value) :: left, [] => simp [renderFields, newLine] at same
  | (key, value) :: left, (otherKey, otherValue) :: right =>
      rw [renderFields_cons, renderFields_cons, List.cons.injEq, List.append_cancel_left_eq] at same
      obtain ⟨rfl, colon⟩ := quoted_append_inj same.2
      obtain ⟨rfl, behind⟩ :=
        render_append_inj depth value otherValue (List.append_cancel_left colon)
      obtain ⟨rfl, rest⟩ := renderFields_append_inj depth outer left right behind
      exact ⟨rfl, rest⟩

end

theorem print_inj {left right : Json} (same : print left = print right) : left = right := by
  have written : render 0 left ++ [] = render 0 right ++ [] := congrArg (· ++ []) same
  exact (render_append_inj 0 left right written).1

end RegexProse.Json
