import Mathlib.Analysis.Real.Sqrt
import Touchless.Foundations.ExactOperations

/-!
# Exact roots

Exact arithmetic with square roots, as it is needed for lengths. The rational numbers do not have
it, but the real numbers do (`ExactRoots.real`), so what is proved of exact roots is not empty.
-/

namespace Touchless

/-- `std::min`. -/
def Arithmetic.min {F : Type} [Arithmetic F] (x y : F) : F := if Arithmetic.lt y x then y else x

/-- `std::max`. -/
def Arithmetic.max {F : Type} [Arithmetic F] (x y : F) : F := if Arithmetic.lt x y then y else x

/-- Exact arithmetic with exact square roots. -/
structure ExactRoots (F K : Type) [Arithmetic F] [Field K] [LinearOrder K] extends
    ExactSigns F K where
  eq_iff : ∀ {x y}, Arithmetic.eq x y = true ↔ value x = value y
  value_sqrt : ∀ {x}, 0 ≤ value x → 0 ≤ value (Arithmetic.sqrt x) ∧
    value (Arithmetic.sqrt x) * value (Arithmetic.sqrt x) = value x

section

variable {F K : Type} [Arithmetic F] [Field K] [LinearOrder K] (exact : ExactOrder F K)

@[simp]
theorem ExactOrder.value_min (x y : F) :
    exact.value (Arithmetic.min x y) = min (exact.value x) (exact.value y) := by
  rw [Arithmetic.min]
  split_ifs with h
  · exact (min_eq_right (exact.lt_iff.1 h).le).symm
  · exact (min_eq_left (not_lt.1 fun hlt ↦ h (exact.lt_iff.2 hlt))).symm

@[simp]
theorem ExactOrder.value_max (x y : F) :
    exact.value (Arithmetic.max x y) = max (exact.value x) (exact.value y) := by
  rw [Arithmetic.max]
  split_ifs with h
  · exact (max_eq_right (exact.lt_iff.1 h).le).symm
  · exact (max_eq_left (not_lt.1 fun hlt ↦ h (exact.lt_iff.2 hlt))).symm

end

/-- The real numbers. -/
@[reducible]
noncomputable def realArithmetic : Arithmetic ℝ where
  lit q := q
  sqrt x := √x
  abs x := |x|
  lt x y := decide (x < y)
  le x y := decide (x ≤ y)
  eq x y := decide (x = y)

/-- Their conversions to whole numbers. -/
@[reducible]
noncomputable def realRounding : Rounding ℝ where
  floor x := ⌊x⌋
  round x := roundHalfAway x
  toInt x := truncate x

/-- **The arithmetic of the real numbers is exact**, with their roots. -/
noncomputable def ExactRoots.real : @ExactRoots ℝ ℝ realArithmetic _ _ :=
  letI := realArithmetic
  { value := id
    value_lit := fun _ ↦ rfl
    value_div := fun _ _ ↦ rfl
    le_iff := decide_eq_true_iff
    value_add := fun _ _ ↦ rfl
    value_sub := fun _ _ ↦ rfl
    value_mul := fun _ _ ↦ rfl
    lt_iff := decide_eq_true_iff
    value_neg := fun _ ↦ rfl
    value_abs := fun _ ↦ rfl
    eq_iff := decide_eq_true_iff
    value_sqrt := fun h ↦ ⟨Real.sqrt_nonneg _, Real.mul_self_sqrt h⟩ }

/-- Its operations. -/
noncomputable def ExactOperations.real : @ExactOperations ℝ ℝ realArithmetic _ _ :=
  letI := realArithmetic
  ExactRoots.real.toExactOperations

theorem ExactRounding.real :
    @ExactRounding ℝ ℝ realArithmetic realRounding _ _ _ ExactOperations.real :=
  @ExactRounding.mk ℝ ℝ realArithmetic realRounding _ _ _ _ (fun _ ↦ rfl) (fun _ ↦ rfl)
    fun _ ↦ rfl

end Touchless
