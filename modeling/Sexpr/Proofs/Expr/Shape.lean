import Mathlib.Data.List.Forall2
import Sexpr.Expr.Shape

/-!
# Related expressions

Expressions are related exactly if they have the same shape and their leaves, from left to right,
are related one by one: expressions of the same shape have equally many leaves, so the leaves of
their items cannot get out of step.
-/

namespace Sexpr.Expr

mutual

theorem length_leaves (e : Expr) : e.leaves.length = e.shape.leafCount := by
  cases e with
  | atom literal => rfl
  | list items => exact length_leavesAll items

theorem length_leavesAll (forest : List Expr) :
    (leavesAll forest).length = Shape.leafCountAll (shapeAll forest) := by
  cases forest with
  | nil => rfl
  | cons e rest =>
      rw [leavesAll, List.length_append, length_leaves e, length_leavesAll rest]
      rfl

end

variable {r : Literal → Literal → Prop}

/-- Two rows of leaves with as many leaves in the first part are related part by part. -/
theorem forall₂_append_iff {first other : List Literal} (same : first.length = other.length)
    {rest others : List Literal} :
    List.Forall₂ r (first ++ rest) (other ++ others) ↔
      List.Forall₂ r first other ∧ List.Forall₂ r rest others := by
  constructor
  · intro h
    have front := List.forall₂_take first.length h
    have back := List.forall₂_drop first.length h
    rw [List.take_left, same, List.take_left] at front
    rw [List.drop_left, same, List.drop_left] at back
    exact ⟨front, back⟩
  · rintro ⟨front, back⟩
    exact List.rel_append front back

mutual

/-- Expressions are related exactly if they have the same shape and related leaves. -/
theorem related_iff (a b : Expr) :
    Related r a b ↔ a.shape = b.shape ∧ List.Forall₂ r a.leaves b.leaves := by
  cases a with
  | atom l =>
      cases b with
      | atom m => simp [Related, shape, leaves]
      | list others => simp [Related, shape]
  | list items =>
      cases b with
      | atom m => simp [Related, shape]
      | list others => simpa [Related, shape, leaves] using relatedAll_iff items others

/-- Forests are related exactly if they have the same shapes and related leaves. -/
theorem relatedAll_iff (forest others : List Expr) :
    RelatedAll r forest others ↔
      shapeAll forest = shapeAll others ∧
        List.Forall₂ r (leavesAll forest) (leavesAll others) := by
  cases forest with
  | nil =>
      cases others with
      | nil => simp [RelatedAll, leavesAll]
      | cons f others => simp [RelatedAll, shapeAll]
  | cons e rest =>
      cases others with
      | nil => simp [RelatedAll, shapeAll]
      | cons f others =>
          rw [RelatedAll, related_iff e f, relatedAll_iff rest others, shapeAll, shapeAll,
            List.cons.injEq, leavesAll, leavesAll]
          constructor
          · rintro ⟨⟨shape, front⟩, shapes, back⟩
            exact ⟨⟨shape, shapes⟩, List.rel_append front back⟩
          · rintro ⟨⟨shape, shapes⟩, together⟩
            have same : e.leaves.length = f.leaves.length := by
              rw [length_leaves, length_leaves, shape]
            obtain ⟨front, back⟩ := (forall₂_append_iff same).1 together
            exact ⟨⟨shape, front⟩, shapes, back⟩

end

end Sexpr.Expr
