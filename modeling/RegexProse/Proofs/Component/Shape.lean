import RegexProse.Component.Outline

/-!
# Shapes of component trees

The shape of a tree is what is left of it when only the kinds of its components are kept. The depths
and kinds in the order of an outline are enough to tell it: the content of a component ends where an
entry follows that lies no deeper than the component itself.
-/

set_option autoImplicit false

namespace RegexProse.Component

/-- A tree of kinds. -/
inductive Shape where
  | node (kind : ComponentKind) (content : List Shape)

mutual

def shape : Component → Shape
  | ⟨kind, _, _, children, _⟩ => .node kind (shapes children)

def shapes : List Component → List Shape
  | [] => []
  | component :: rest => shape component :: shapes rest

end

/-- The depth and the kind of each component in an outline. -/
def marks (depth : Nat) (components : List Component) : List (Nat × ComponentKind) :=
  (outlineOf depth components).map fun entry => (entry.1, entry.2.kind)

@[simp] theorem marks_nil (depth : Nat) : marks depth [] = [] := by
  rw [marks, outlineOf, List.map_nil]

private theorem marks_cons (depth : Nat) (component : Component) (rest : List Component) :
    marks depth (component :: rest) =
      (depth, component.kind) :: (marks (depth + 1) component.children ++ marks depth rest) := by
  rw [marks, outlineOf, outline_eq]
  simp only [List.cons_append, List.map_cons, List.map_append]
  rfl

/-- The entries do not begin at the given depth or deeper. -/
def Above (depth : Nat) (entries : List (Nat × ComponentKind)) : Prop :=
  ∀ entry ∈ entries.head?, entry.1 < depth

theorem Above.behind {depth : Nat} {entries : List (Nat × ComponentKind)}
    (above : Above depth entries) (rest : List Component) :
    Above (depth + 1) (marks depth rest ++ entries) := by
  intro entry first
  cases rest with
  | nil =>
      rw [marks_nil] at first
      exact Nat.lt_succ_of_lt (above entry first)
  | cons component rest =>
      rw [marks_cons] at first
      obtain rfl := Option.some.inj first
      exact Nat.lt_succ_self depth

private theorem Above.ne_cons {depth : Nat} {entries : List (Nat × ComponentKind)}
    (above : Above depth entries) (kind : ComponentKind) (rest : List (Nat × ComponentKind)) :
    entries ≠ (depth, kind) :: rest := by
  intro begins
  subst begins
  exact Nat.lt_irrefl depth (above (depth, kind) rfl)

/-- Components in a row are told by their marks, and so is where they end. -/
private theorem marks_append_inj (depth : Nat) (left right : List Component)
    {more other : List (Nat × ComponentKind)}
    (same : marks depth left ++ more = marks depth right ++ other)
    (above : Above depth more) (otherAbove : Above depth other) :
    shapes left = shapes right ∧ more = other := by
  match left, right with
  | [], [] =>
      rw [marks_nil] at same
      exact ⟨rfl, same⟩
  | [], component :: rest =>
      rw [marks_nil, marks_cons] at same
      exact absurd same (above.ne_cons _ _)
  | component :: rest, [] =>
      rw [marks_nil, marks_cons] at same
      exact absurd same.symm (otherAbove.ne_cons _ _)
  | ⟨kind, _, _, children, _⟩ :: rest, ⟨otherKind, _, _, otherChildren, _⟩ :: others =>
      rw [marks_cons, marks_cons, List.cons_append, List.cons_append, List.append_assoc,
        List.append_assoc, List.cons.injEq, Prod.mk.injEq] at same
      obtain ⟨⟨-, rfl⟩, contents⟩ := same
      obtain ⟨sameChildren, later⟩ := marks_append_inj (depth + 1) children otherChildren contents
        (above.behind rest) (otherAbove.behind others)
      obtain ⟨sameRest, behind⟩ := marks_append_inj depth rest others later above otherAbove
      refine ⟨?_, behind⟩
      rw [shapes, shapes, shape, shape, sameChildren, sameRest]

theorem shapes_eq_of_marks {depth : Nat} {left right : List Component}
    (same : marks depth left = marks depth right) : shapes left = shapes right := by
  have ended : marks depth left ++ [] = marks depth right ++ [] := by rw [same]
  exact (marks_append_inj depth left right ended nofun nofun).1

end RegexProse.Component
