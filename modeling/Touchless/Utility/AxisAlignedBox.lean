import Touchless.Foundations.RealArithmetic

/-!
# Axis-aligned boxes

`ClosestPoint` of `Utility/AxisAlignedBox.h` clamps every coordinate to the box. With exact
arithmetic it finds the point of the box that is nearest in every coordinate, and so in every
distance that only depends on these (`abs_sub_closestPoint_le`); a point of the box stays where it
is (`closestPoint_of_mem`).
-/

namespace Touchless

/-- A box, by two of its corners. -/
structure AxisAlignedBox (F : Type) (dim : ℕ) where
  min : Fin dim → F
  max : Fin dim → F

namespace AxisAlignedBox

variable {F K : Type} [Arithmetic F] {dim : ℕ}

/-- `ClosestPoint`. -/
def closestPoint (box : AxisAlignedBox F dim) (pos : Fin dim → F) : Fin dim → F := fun i ↦
  Arithmetic.min (Arithmetic.max (pos i) (box.min i)) (box.max i)

variable [Field K] [LinearOrder K] (exact : ExactRoots F K) (box : AxisAlignedBox F dim)

/-- The coordinates of a point of the box in one direction. -/
def side (i : Fin dim) : Set K := Set.Icc (exact.value (box.min i)) (exact.value (box.max i))

theorem value_closestPoint (pos : Fin dim → F) (i : Fin dim) :
    exact.value (box.closestPoint pos i) =
      Min.min (Max.max (exact.value (pos i)) (exact.value (box.min i)))
        (exact.value (box.max i)) := by
  rw [closestPoint, exact.value_min, exact.value_max]

variable {exact box} {i : Fin dim}

/-- The closest point is a point of the box. -/
theorem closestPoint_mem (hvalid : exact.value (box.min i) ≤ exact.value (box.max i))
    (pos : Fin dim → F) : exact.value (box.closestPoint pos i) ∈ box.side exact i := by
  rw [value_closestPoint]
  exact ⟨le_min (le_max_right _ _) hvalid, min_le_right _ _⟩

/-- A point of the box is closest to itself. -/
theorem closestPoint_of_mem {pos : Fin dim → F} (hpos : exact.value (pos i) ∈ box.side exact i) :
    exact.value (box.closestPoint pos i) = exact.value (pos i) := by
  rw [value_closestPoint, max_eq_left hpos.1, min_eq_left hpos.2]

/-- **No point of the box is closer**, in any coordinate. -/
theorem abs_sub_closestPoint_le [IsStrictOrderedRing K] (pos : Fin dim → F) {q : K}
    (hq : q ∈ box.side exact i) :
    |exact.value (box.closestPoint pos i) - exact.value (pos i)| ≤ |q - exact.value (pos i)| := by
  rw [value_closestPoint]
  generalize exact.value (pos i) = x
  obtain ⟨hlow, hhigh⟩ := hq
  rcases le_total x (exact.value (box.min i)) with hx | hx
  · rw [max_eq_right hx, min_eq_left (hlow.trans hhigh), abs_of_nonneg (sub_nonneg.2 hx)]
    exact (sub_le_sub_right hlow x).trans (le_abs_self _)
  · rw [max_eq_left hx]
    rcases le_total x (exact.value (box.max i)) with hx' | hx'
    · rw [min_eq_left hx', sub_self, abs_zero]
      exact abs_nonneg _
    · rw [min_eq_right hx', abs_sub_comm, abs_of_nonneg (sub_nonneg.2 hx'), abs_sub_comm]
      exact (sub_le_sub_left hhigh x).trans (le_abs_self _)

end AxisAlignedBox

end Touchless
