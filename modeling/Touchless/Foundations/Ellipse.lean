import Mathlib.Algebra.Order.Field.Basic
import Mathlib.Tactic.FieldSimp
import Mathlib.Tactic.Linarith
import Mathlib.Tactic.LinearCombination
import Touchless.Foundations.ExactOperations

/-!
# An ellipse in a box

An ellipse is given by a unit vector along its first axis, a scale for each axis, and a radius: a
point belongs to it if its two coordinates along the axes, scaled, are together within the radius.
How far the ellipse reaches along the coordinates of the plane follows from the inequality of Cauchy
and Schwarz (`sq_le_reach_mul`). On a grid, a box that reaches as far as the ellipse has the cells
whose middle is in the ellipse, though its corners are rounded toward zero (`truncate_le_of_reach`,
`lt_truncate_of_reach`).
-/

namespace Touchless.Ellipse

variable {K : Type} [Field K] [LinearOrder K] [IsStrictOrderedRing K]

/-- The square of the distance, with the axes scaled. -/
def distSq (a : K × K) (s t : K) (p : K × K) : K :=
  (p.1 * (a.1 * s) + p.2 * (a.2 * s)) * (p.1 * (a.1 * s) + p.2 * (a.2 * s)) +
    (p.1 * (a.2 * t) + p.2 * (-a.1 * t)) * (p.1 * (a.2 * t) + p.2 * (-a.1 * t))

/-- The square of how far the unit ellipse reaches, for the components of the axes. -/
def reachSq (s t : K) (c d : K) : K := c / s * (c / s) + d / t * (d / t)

/-- The inequality of Cauchy and Schwarz in the plane. -/
theorem add_sq_le (p q r u : K) :
    (p * q + r * u) * (p * q + r * u) ≤ (p * p + r * r) * (q * q + u * u) := by
  have hsq := mul_self_nonneg (p * u - r * q)
  linear_combination hsq

variable {a p : K × K} {s t : K}

/-- **How far an ellipse reaches** along the first coordinate, -/
theorem sq_le_reach_mul (hunit : a.1 * a.1 + a.2 * a.2 = 1) (hs : s ≠ 0) (ht : t ≠ 0) :
    p.1 * p.1 ≤ reachSq s t a.1 a.2 * distSq a s t p := by
  have hx : p.1 = a.1 / s * (p.1 * (a.1 * s) + p.2 * (a.2 * s)) +
      a.2 / t * (p.1 * (a.2 * t) + p.2 * (-a.1 * t)) := by
    field_simp
    linear_combination -p.1 * hunit
  calc p.1 * p.1
      = (a.1 / s * (p.1 * (a.1 * s) + p.2 * (a.2 * s)) +
          a.2 / t * (p.1 * (a.2 * t) + p.2 * (-a.1 * t))) *
        (a.1 / s * (p.1 * (a.1 * s) + p.2 * (a.2 * s)) +
          a.2 / t * (p.1 * (a.2 * t) + p.2 * (-a.1 * t))) := by rw [← hx]
    _ ≤ reachSq s t a.1 a.2 * distSq a s t p := add_sq_le _ _ _ _

/-- and along the second. -/
theorem sq_le_reach_mul' (hunit : a.1 * a.1 + a.2 * a.2 = 1) (hs : s ≠ 0) (ht : t ≠ 0) :
    p.2 * p.2 ≤ reachSq s t a.2 (-a.1) * distSq a s t p := by
  have hy : p.2 = a.2 / s * (p.1 * (a.1 * s) + p.2 * (a.2 * s)) +
      -a.1 / t * (p.1 * (a.2 * t) + p.2 * (-a.1 * t)) := by
    field_simp
    linear_combination -p.2 * hunit
  calc p.2 * p.2
      = (a.2 / s * (p.1 * (a.1 * s) + p.2 * (a.2 * s)) +
          -a.1 / t * (p.1 * (a.2 * t) + p.2 * (-a.1 * t))) *
        (a.2 / s * (p.1 * (a.1 * s) + p.2 * (a.2 * s)) +
          -a.1 / t * (p.1 * (a.2 * t) + p.2 * (-a.1 * t))) := by rw [← hy]
    _ ≤ reachSq s t a.2 (-a.1) * distSq a s t p := add_sq_le _ _ _ _

theorem reachSq_nonneg (s t c d : K) : 0 ≤ reachSq s t c d :=
  add_nonneg (mul_self_nonneg _) (mul_self_nonneg _)

/-- A coordinate is within reach, if the point is within a radius. -/
theorem within_reach {x q d radiusSq reach : K} (hx : x * x ≤ q * d) (hq : 0 ≤ q)
    (hd : d ≤ radiusSq) (hreach : 0 ≤ reach) (hsquare : reach * reach = q * radiusSq) :
    -reach ≤ x ∧ x ≤ reach := by
  refine abs_le.1 (abs_le_of_sq_le_sq ?_ hreach)
  calc x ^ 2 = x * x := sq x
    _ ≤ q * d := hx
    _ ≤ q * radiusSq := mul_le_mul_of_nonneg_left hd hq
    _ = reach ^ 2 := by rw [← hsquare, sq]

/-! ### On a grid -/

variable [FloorRing K] {center reach : K} {i : ℤ}

/-- A cell whose middle is within reach is not before the lower corner, -/
theorem truncate_le_of_reach (hi : 0 ≤ i) (h : -reach ≤ (i : K) + 1 / 2 - center) :
    truncate (center - reach) ≤ i := by
  rw [truncate]
  split_ifs with hsign
  · have hfloor := Int.floor_le (center - reach)
    have hlt : ((⌊center - reach⌋ : ℤ) : K) < ((i + 1 : ℤ) : K) := by
      push_cast
      linarith
    exact Int.lt_add_one_iff.1 (Int.cast_lt.1 hlt)
  · refine le_trans (Int.ceil_le.2 ?_) hi
    rw [Int.cast_zero]
    exact (not_le.1 hsign).le

/-- and before the upper corner. -/
theorem lt_truncate_of_reach (hi : 0 ≤ i) (h : (i : K) + 1 / 2 - center ≤ reach) :
    i < truncate (center + reach + 1) := by
  have hpositive : (0 : K) ≤ center + reach + 1 := by
    have : (0 : K) ≤ i := Int.cast_nonneg hi
    linarith
  rw [truncate, if_pos hpositive]
  refine Int.lt_of_add_one_le (Int.le_floor.2 ?_)
  push_cast
  linarith

end Touchless.Ellipse
