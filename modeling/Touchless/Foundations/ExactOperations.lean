import Mathlib.Algebra.Group.Prod
import Mathlib.Algebra.Order.Floor.Ring
import Mathlib.Tactic.Linarith
import Touchless.Foundations.Arithmetic

/-!
# Exact operations

The laws of the operations without rounding errors, for results about sums, differences and
products: each number stands for an element of an ordered field. Vectors stand for triples, and the
conversions to whole numbers for those of an ordered field with a floor.

Rounding to the nearest whole number leaves a difference of at most one half, however halves are
rounded, and rounding down one in `[0, 1)`.
-/

namespace Touchless

/-- Exact arithmetic, with the operations that sums and products are made of. -/
structure ExactOperations (F K : Type) [Arithmetic F] [Field K] [LinearOrder K] extends
    ExactArithmetic F K where
  value_add : ∀ x y, value (x + y) = value x + value y
  value_sub : ∀ x y, value (x - y) = value x - value y
  value_mul : ∀ x y, value (x * y) = value x * value y

/-- Exact arithmetic whose strict comparison is exact too. -/
structure ExactOrder (F K : Type) [Arithmetic F] [Field K] [LinearOrder K] extends
    ExactOperations F K where
  lt_iff : ∀ {x y}, Arithmetic.lt x y = true ↔ value x < value y

/-- Exact arithmetic whose signs are exact too. -/
structure ExactSigns (F K : Type) [Arithmetic F] [Field K] [LinearOrder K] extends
    ExactOrder F K where
  value_neg : ∀ x, value (-x) = -value x
  value_abs : ∀ x, value (Arithmetic.abs x) = |value x|

namespace ExactOperations

/-- The operations of the rational numbers are exact. -/
def rational (sqrt : ℚ → ℚ) : @ExactOperations ℚ ℚ (rationalArithmetic sqrt) _ _ :=
  @ExactOperations.mk ℚ ℚ (rationalArithmetic sqrt) _ _ (ExactArithmetic.rational sqrt)
    (fun _ _ ↦ rfl) (fun _ _ ↦ rfl) fun _ _ ↦ rfl

variable {F K : Type} [Arithmetic F] [Field K] [LinearOrder K] (exact : ExactOperations F K)

attribute [simp] value_add value_sub value_mul

@[simp]
theorem value_zero : exact.value (lit 0) = 0 := by
  rw [exact.value_lit, Rat.cast_zero]

@[simp]
theorem value_one : exact.value (lit 1) = 1 := by
  rw [exact.value_lit, Rat.cast_one]

/-- The triple that a vector stands for. -/
def vector (v : Vector3 F) : K × K × K := (exact.value v.x, exact.value v.y, exact.value v.z)

@[simp]
theorem vector_add (v w : Vector3 F) : exact.vector (v + w) = exact.vector v + exact.vector w := by
  show (exact.value (v.x + w.x), exact.value (v.y + w.y), exact.value (v.z + w.z)) = _
  simp [vector]

@[simp]
theorem vector_sub (v w : Vector3 F) : exact.vector (v - w) = exact.vector v - exact.vector w := by
  show (exact.value (v.x - w.x), exact.value (v.y - w.y), exact.value (v.z - w.z)) = _
  simp [vector]

@[simp]
theorem vector_zero : exact.vector Vector3.zero = 0 := by
  show (exact.value (lit 0), exact.value (lit 0), exact.value (lit 0)) = 0
  simp only [value_zero]
  rfl

end ExactOperations

/-- The comparison of the rational numbers is exact. -/
def ExactOrder.rational (sqrt : ℚ → ℚ) : @ExactOrder ℚ ℚ (rationalArithmetic sqrt) _ _ :=
  @ExactOrder.mk ℚ ℚ (rationalArithmetic sqrt) _ _ (ExactOperations.rational sqrt)
    decide_eq_true_iff

/-- The signs of the rational numbers are exact. -/
def ExactSigns.rational (sqrt : ℚ → ℚ) : @ExactSigns ℚ ℚ (rationalArithmetic sqrt) _ _ :=
  @ExactSigns.mk ℚ ℚ (rationalArithmetic sqrt) _ _ (ExactOrder.rational sqrt)
    (fun _ ↦ rfl) fun _ ↦ rfl

/-- The nearest whole number, halves away from zero. -/
def roundHalfAway {K : Type} [Field K] [LinearOrder K] [FloorRing K] (x : K) : ℤ :=
  if 0 ≤ x then ⌊x + 1 / 2⌋ else ⌈x - 1 / 2⌉

/-- The whole number toward zero. -/
def truncate {K : Type} [Field K] [LinearOrder K] [FloorRing K] (x : K) : ℤ :=
  if 0 ≤ x then ⌊x⌋ else ⌈x⌉

/-- Exact conversions to whole numbers. -/
structure ExactRounding {F K : Type} [Arithmetic F] [Rounding F] [Field K] [LinearOrder K]
    [FloorRing K] (exact : ExactOperations F K) : Prop where
  value_floor : ∀ x, exact.value (Rounding.floor x) = ⌊exact.value x⌋
  value_round : ∀ x, exact.value (Rounding.round x) = roundHalfAway (exact.value x)
  toInt_eq : ∀ x, Rounding.toInt x = truncate (exact.value x)

/-- The conversions of the rational numbers are exact. -/
theorem ExactRounding.rational (sqrt : ℚ → ℚ) :
    @ExactRounding ℚ ℚ (rationalArithmetic sqrt) rationalRounding _ _ _
      (ExactOperations.rational sqrt) :=
  @ExactRounding.mk ℚ ℚ (rationalArithmetic sqrt) rationalRounding _ _ _ _ (fun _ ↦ rfl)
    (fun x ↦ (apply_ite (Int.cast : ℤ → ℚ) (0 ≤ x) _ _).symm) fun _ ↦ rfl

section Whole

variable {K : Type} [Field K] [LinearOrder K] [IsStrictOrderedRing K] [FloorRing K]

/-- What is left after rounding is at most one half. -/
theorem abs_sub_roundHalfAway_le (x : K) : |x - roundHalfAway x| ≤ 1 / 2 := by
  rw [roundHalfAway]
  split_ifs with hx
  · have hle := Int.floor_le (x + 1 / 2)
    have hlt := Int.lt_floor_add_one (x + 1 / 2)
    exact abs_le.2 ⟨by linarith, by linarith⟩
  · have hle := Int.le_ceil (x - 1 / 2)
    have hlt := Int.ceil_lt_add_one (x - 1 / 2)
    exact abs_le.2 ⟨by linarith, by linarith⟩

/-- A whole number is its own truncation. -/
@[simp]
theorem truncate_intCast (n : ℤ) : truncate (n : K) = n := by
  rw [truncate, Int.floor_intCast, Int.ceil_intCast, ite_self]

end Whole

end Touchless
