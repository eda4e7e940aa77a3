import Mathlib.Data.List.Forall2
import RegexProse.Proofs.Component.Shape
import RegexProse.Proofs.Explanation.Characters
import RegexProse.Report.Listing

/-!
# Listings show the tree

The listing of an explanation has one line for each component. A line shows the depth and the kind of
its component in front, whatever characters and words stand behind them. So a listing tells the shape
of the tree, as long as the pattern does not break its lines.
-/

set_option autoImplicit false

namespace RegexProse

namespace Text

/-- Lines are read back from a text if none of them holds a line feed. -/
private theorem splitOn_flatMap_line {rows : List Text} (noFeed : ∀ row ∈ rows, '\n' ∉ row) :
    (rows.flatMap line).splitOn '\n' = rows ++ [[]] := by
  induction rows with
  | nil => rfl
  | cons row rows ih =>
      obtain ⟨head, tail⟩ := List.forall_mem_cons.mp noFeed
      have stays : ∀ char ∈ row, (char == '\n') = false := by
        intro char member
        simpa using ne_of_mem_of_not_mem member head
      have split := ih tail
      rw [List.splitOn_eq_splitOnP] at split ⊢
      rw [List.flatMap_cons, line, List.append_assoc, List.singleton_append,
        List.splitOnP_append_cons_of_forall_mem stays '\n' rfl, split, List.cons_append]

end Text

namespace ComponentKind

private theorem name_begins (kind : ComponentKind) :
    ∃ letter letters, kind.name = letter :: letters ∧ letter ≠ ' ' := by
  cases kind <;> exact ⟨_, _, rfl, by decide⟩

private theorem noSpace_name (kind : ComponentKind) : ∀ char ∈ kind.name, decide (char ≠ ' ') := by
  have none : kind.name.all fun char => decide (char ≠ ' ') := by cases kind <;> decide
  exact List.all_eq_true.mp none

end ComponentKind

namespace Report

open Text

/-- The row is indented to the depth and shows the name of the kind, and then more. -/
def Shows (depth : Nat) (kind : ComponentKind) (row : Text) : Prop :=
  ∃ rest, row = spaces (2 * depth) ++ (kind.name ++ ' ' :: rest)

private theorem shows_listingRow (depth : Nat) (component : Component) :
    Shows depth component.kind (listingRow depth component) := by
  let missing := spaces (16 - component.kind.name.length)
  have moved : missing ++ [' '] = ' ' :: missing := by
    simp only [missing, spaces, ← List.replicate_succ', ← List.replicate_succ]
  refine ⟨missing ++ (pad .left 12 component.raw ++ ' ' :: component.description), ?_⟩
  have behind : ' ' :: (missing ++ (pad .left 12 component.raw ++ ' ' :: component.description)) =
      missing ++ [' '] ++ (pad .left 12 component.raw ++ ' ' :: component.description) := by
    rw [moved, List.cons_append]
  rw [behind]
  simp [listingRow, pad, missing]

/-- A row shows one depth and one kind only. -/
theorem Shows.unique {depth other : Nat} {left right : ComponentKind} {row : Text}
    (shows : Shows depth left row) (alsoShows : Shows other right row) :
    depth = other ∧ left = right := by
  obtain ⟨rest, rfl⟩ := shows
  obtain ⟨more, same⟩ := alsoShows
  obtain ⟨letter, letters, begins, solid⟩ := left.name_begins
  obtain ⟨otherLetter, otherLetters, otherBegins, otherSolid⟩ := right.name_begins
  have indented (count : Nat) : ∀ char ∈ spaces count, decide (char = ' ') := by
    intro char member
    exact decide_eq_true (List.eq_of_mem_replicate member)
  have names : left.name ++ ' ' :: rest = right.name ++ ' ' :: more := by
    rw [begins, otherBegins] at same ⊢
    obtain ⟨rfl, behind⟩ := append_stop_inj same (indented _) (indented _)
      (by simpa using solid) (by simpa using otherSolid)
    exact congrArg (List.cons letter) behind
  rw [names] at same
  have indents := congrArg List.length (List.append_cancel_right same)
  simp only [spaces, List.length_replicate] at indents
  obtain ⟨-, rfl⟩ :=
    append_stop_inj names left.noSpace_name right.noSpace_name (by decide) (by decide)
  refine ⟨by omega, ?_⟩
  exact ComponentKind.name_injective (List.append_cancel_right names)

theorem listing_eq (depth : Nat) (components : List Component) :
    listing depth components =
      ((Component.outlineOf depth components).map fun entry =>
        listingRow entry.1 entry.2).flatMap line := by
  rw [List.flatMap_map]
  rfl

private theorem noFeed_listingRow {pattern : Text} (noFeed : '\n' ∉ pattern) {piece : Piece}
    (member : piece ∈ Piece.nodesOf (Piece.ofTokens (Token.tokenize pattern))) (depth : Nat) :
    '\n' ∉ listingRow depth (Piece.component piece) := by
  have raw : '\n' ∉ (Piece.component piece).raw := fun held =>
    noFeed (Piece.raw_subset member held)
  have description : '\n' ∉ (Piece.component piece).description := by
    intro held
    rcases Piece.drawnFrom_description (Piece.stands_of_mem_nodesOf member) _ held with
      printable | held
    · exact absurd printable (by decide)
    · exact raw held
  have name : '\n' ∉ (Piece.component piece).kind.name := by
    cases (Piece.component piece).kind <;> decide
  simp [listingRow, pad, spaces, raw, description, name]

/-- The lines of a listing are the rows of the components, one for each of them. -/
theorem splitOn_listing {pattern : Text} (noFeed : '\n' ∉ pattern) (depth : Nat) :
    (listing depth (Explanation.ofPattern pattern).components).splitOn '\n' =
      ((Component.outlineOf depth (Explanation.ofPattern pattern).components).map fun entry =>
        listingRow entry.1 entry.2) ++ [[]] := by
  rw [listing_eq]
  apply splitOn_flatMap_line
  intro row member
  obtain ⟨entry, held, rfl⟩ := List.mem_map.mp member
  have node : entry.2 ∈ (Piece.nodesOf (Piece.ofTokens (Token.tokenize pattern))).map
      Piece.component := by
    rw [← Piece.outlineOf_components depth]
    exact List.mem_map_of_mem held
  obtain ⟨piece, among, same⟩ := List.mem_map.mp node
  rw [← same]
  exact noFeed_listingRow noFeed among entry.1

theorem marks_eq_of_rows {depth : Nat} {left right : List Component}
    (same : (Component.outlineOf depth left).map (fun entry => listingRow entry.1 entry.2) =
      (Component.outlineOf depth right).map fun entry => listingRow entry.1 entry.2) :
    Component.marks depth left = Component.marks depth right := by
  rw [← List.forall₂_eq_eq_eq, List.forall₂_map_left_iff, List.forall₂_map_right_iff] at same
  rw [Component.marks, Component.marks, ← List.forall₂_eq_eq_eq, List.forall₂_map_left_iff,
    List.forall₂_map_right_iff]
  apply same.imp
  intro entry other row
  have shows := shows_listingRow entry.1 entry.2
  rw [row] at shows
  obtain ⟨depths, kinds⟩ := shows.unique (shows_listingRow other.1 other.2)
  rw [depths, kinds]

/-- The listing of a pattern without line feeds has one line for each component in the order of the
outline, and each line shows the depth and the kind of its component. So patterns with the same
listing have component trees of the same shape. -/
theorem listing_shows_tree (depth : Nat) {pattern other : Text} (noFeed : '\n' ∉ pattern)
    (otherNoFeed : '\n' ∉ other) :
    let components := (Explanation.ofPattern pattern).components
    let others := (Explanation.ofPattern other).components
    (∃ rows, (listing depth components).splitOn '\n' = rows ++ [[]] ∧
        List.Forall₂ (fun entry row => Shows entry.1 entry.2.kind row)
          (Component.outlineOf depth components) rows) ∧
      (listing depth components = listing depth others →
        Component.shapes components = Component.shapes others) := by
  intro components others
  constructor
  · refine ⟨_, splitOn_listing noFeed depth, ?_⟩
    rw [List.forall₂_map_right_iff, List.forall₂_same]
    intro entry _
    exact shows_listingRow entry.1 entry.2
  · intro same
    have rows := congrArg (List.splitOn '\n') same
    rw [splitOn_listing noFeed, splitOn_listing otherNoFeed] at rows
    exact Component.shapes_eq_of_marks (marks_eq_of_rows (List.append_cancel_right rows))

/-- Whether a character stands in a group or behind it shows in the listing. -/
theorem listing_shows_content :
    let inside : Text := "(\\n\r)"
    let behind : Text := "(\\n)\r"
    '\n' ∉ inside ∧ '\n' ∉ behind ∧
      listing 2 (Explanation.ofPattern inside).components ≠
        listing 2 (Explanation.ofPattern behind).components := by
  intro inside behind
  have noFeed : '\n' ∉ inside := by decide
  have behindNoFeed : '\n' ∉ behind := by decide
  refine ⟨noFeed, behindNoFeed, fun same => ?_⟩
  have lengths := congrArg List.length ((listing_shows_tree 2 noFeed behindNoFeed).2 same)
  exact absurd lengths (by decide +kernel)

end Report

end RegexProse
