import Mathlib.Data.List.Basic
import Mathlib.Data.List.TakeWhile
import RegexProse.Text.Blank

/-!
# Trimming

A text is what trimming leaves of it, between two runs of blanks. Where no blank stands between two
such runs, trimming takes both of them away.
-/

set_option autoImplicit false

namespace RegexProse.Text

def Blank (text : Text) : Prop := ∀ char ∈ text, isBlank char

def Solid (text : Text) : Prop := ∀ char ∈ text, ¬ isBlank char

/-- The text begins with a character that is no blank. -/
def SolidHead (text : Text) : Prop := ∃ char ∈ text.head?, ¬ isBlank char

/-- The text ends with a character that is no blank. -/
def SolidEnd (text : Text) : Prop := ∃ char ∈ text.getLast?, ¬ isBlank char

def BlankEnd (text : Text) : Prop := ∃ char ∈ text.getLast?, isBlank char

instance : DecidablePred SolidHead := fun text =>
  decidable_of_iff (text.head?.any fun char => !isBlank char) <| by
    cases begins : text.head? <;> simp [SolidHead, begins]

instance : DecidablePred SolidEnd := fun text =>
  decidable_of_iff (text.getLast?.any fun char => !isBlank char) <| by
    cases ends : text.getLast? <;> simp [SolidEnd, ends]

theorem blank_nil : Blank [] := List.forall_mem_nil _

theorem Solid.of_isDigit {text : Text} (digits : ∀ char ∈ text, char.isDigit) : Solid text := by
  have noDigit : blanks.all (fun char => !char.isDigit) = true := by decide
  intro char member blank
  have outside := List.all_eq_true.mp noDigit char (List.contains_iff_mem.mp blank)
  simp [digits char member] at outside

theorem trimEnd_eq_nil {text : Text} (blank : Blank text) : trimEnd text = [] := by
  induction text with
  | nil => rfl
  | cons char rest ih =>
      have head := blank char List.mem_cons_self
      have behind := ih fun other member => blank other (List.mem_cons_of_mem _ member)
      simp [trimEnd, behind, head]

theorem trimEnd_append_blank (text : Text) {after : Text} (blank : Blank after) :
    trimEnd (text ++ after) = trimEnd text := by
  induction text with
  | nil => exact trimEnd_eq_nil blank
  | cons char rest ih => rw [List.cons_append, trimEnd, ih, trimEnd]

theorem trimEnd_eq_self {text : Text} (solid : Solid text) : trimEnd text = text := by
  induction text with
  | nil => rfl
  | cons char rest ih =>
      have head := solid char List.mem_cons_self
      have kept := ih fun other member => solid other (List.mem_cons_of_mem _ member)
      cases rest with
      | nil => simp [trimEnd, head]
      | cons first more => rw [trimEnd, kept]

theorem trim_between {before kept after : Text} (blankBefore : Blank before) (solid : Solid kept)
    (blankAfter : Blank after) : trim (before ++ kept ++ after) = kept := by
  rw [trim, List.append_assoc, List.dropWhile_append_of_pos blankBefore]
  cases kept with
  | nil =>
      have nothing : after.dropWhile isBlank = [] := List.dropWhile_eq_nil_iff.mpr blankAfter
      rw [List.nil_append, nothing, trimEnd]
  | cons char rest =>
      have head := solid char List.mem_cons_self
      rw [List.cons_append, List.dropWhile_cons_of_neg head, ← List.cons_append,
        trimEnd_append_blank _ blankAfter, trimEnd_eq_self solid]

theorem exists_eq_trim (text : Text) :
    ∃ before after, Blank before ∧ Blank after ∧ text = before ++ trim text ++ after := by
  obtain ⟨after, ends, blank⟩ := trimEnd_append (text.dropWhile isBlank)
  refine ⟨text.takeWhile isBlank, after, List.all_eq_true.mp List.all_takeWhile, blank, ?_⟩
  rw [trim, List.append_assoc, ← ends, List.takeWhile_append_dropWhile]

theorem trim_eq_nil_iff {text : Text} : trim text = [] ↔ Blank text := by
  constructor
  · intro nothing
    obtain ⟨before, after, blankBefore, blankAfter, whole⟩ := exists_eq_trim text
    rw [nothing, List.append_nil] at whole
    rw [whole]
    exact List.forall_mem_append.mpr ⟨blankBefore, blankAfter⟩
  · intro blank
    have solid : Solid [] := List.forall_mem_nil _
    simpa using trim_between blank solid blank_nil

theorem SolidHead.append {left : Text} (solid : SolidHead left) (right : Text) :
    SolidHead (left ++ right) := by
  obtain ⟨char, begins, notBlank⟩ := solid
  rw [Option.mem_def] at begins
  exact ⟨char, by rw [List.head?_append, begins]; rfl, notBlank⟩

theorem SolidEnd.append {right : Text} (solid : SolidEnd right) (left : Text) :
    SolidEnd (left ++ right) := by
  obtain ⟨char, ends, notBlank⟩ := solid
  rw [Option.mem_def] at ends
  exact ⟨char, by rw [List.getLast?_append, ends]; rfl, notBlank⟩

theorem SolidHead.ne_nil {text : Text} (solid : SolidHead text) : text ≠ [] := by
  rintro rfl
  obtain ⟨char, begins, -⟩ := solid
  cases begins

theorem SolidEnd.ne_nil {text : Text} (solid : SolidEnd text) : text ≠ [] := by
  rintro rfl
  obtain ⟨char, ends, -⟩ := solid
  cases ends

theorem SolidEnd.not_blankEnd {text : Text} (solid : SolidEnd text) : ¬ BlankEnd text := by
  intro blankEnd
  obtain ⟨char, ends, notBlank⟩ := solid
  obtain ⟨other, alsoEnds, blank⟩ := blankEnd
  exact notBlank (Option.mem_unique ends alsoEnds ▸ blank)

theorem blankEnd_append_iff (left : Text) {right : Text} (inhabited : right ≠ []) :
    BlankEnd (left ++ right) ↔ BlankEnd right := by
  rw [BlankEnd, BlankEnd, List.getLast?_append_of_ne_nil left inhabited]

theorem solidEnd_trimEnd {text : Text} (kept : trimEnd text ≠ []) : SolidEnd (trimEnd text) := by
  induction text with
  | nil => exact absurd rfl kept
  | cons char rest ih =>
      cases later : trimEnd rest with
      | nil =>
          by_cases head : isBlank char
          · simp [trimEnd, later, head] at kept
          · have whole : trimEnd (char :: rest) = [char] := by simp [trimEnd, later, head]
            rw [whole]
            exact ⟨char, rfl, head⟩
      | cons first more =>
          have whole : trimEnd (char :: rest) = [char] ++ trimEnd rest := by
            simp [trimEnd, later]
          rw [whole]
          exact (ih (by simp [later])).append [char]

theorem blankEnd_of_blank {text : Text} (blank : Blank text) (inhabited : text ≠ []) :
    BlankEnd text := by
  cases ends : text.getLast? with
  | none => exact absurd (List.getLast?_eq_none_iff.mp ends) inhabited
  | some char => exact ⟨char, ends, blank char (List.mem_of_getLast? ends)⟩

theorem trim_eq_trimEnd {text : Text} (solid : SolidHead text) : trim text = trimEnd text := by
  obtain ⟨char, begins, notBlank⟩ := solid
  obtain ⟨rest, rfl⟩ := List.head?_eq_some_iff.mp begins
  rw [trim, List.dropWhile_cons_of_neg notBlank]

/-- From a text that begins with no blank, trimming takes away a tail of blanks. There is one exactly
where the text ends with a blank. -/
theorem exists_tail_of_solidHead {text : Text} (solid : SolidHead text) :
    ∃ tail, text = trim text ++ tail ∧ Blank tail ∧ SolidEnd (trim text) ∧
      (tail ≠ [] ↔ BlankEnd text) := by
  rw [trim_eq_trimEnd solid]
  obtain ⟨tail, whole, blank⟩ := trimEnd_append text
  have kept : trimEnd text ≠ [] := by
    intro nothing
    obtain ⟨char, begins, notBlank⟩ := solid
    rw [nothing, List.nil_append] at whole
    rw [whole] at begins
    exact notBlank (blank char (List.mem_of_mem_head? begins))
  have solidEnd := solidEnd_trimEnd kept
  refine ⟨tail, whole, blank, solidEnd, ?_⟩
  constructor
  · intro inhabited
    rw [whole, blankEnd_append_iff _ inhabited]
    exact blankEnd_of_blank blank inhabited
  · rintro blankEnd rfl
    rw [List.append_nil] at whole
    rw [whole] at blankEnd
    exact solidEnd.not_blankEnd blankEnd

end RegexProse.Text
