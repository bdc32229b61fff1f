import Mathlib.Data.Rat.Defs
import Mathlib.Data.Rat.Floor
import Mathlib.Algebra.Order.Ring.Unbundled.Rat
import Mathlib.Data.Rat.Cast.Order

/-!
# Machine arithmetic without laws

The program computes with `float` and `double`. Its control flow compares such numbers, but nothing
that is proved about it depends on what they are: the operations below have no laws, so the results
hold however the machine rounds, and for NaN. Where a result is about exact arithmetic, it says so
with `ExactArithmetic`. To run a definition on an example, the rational numbers will do.
-/

namespace Touchless

/-- The operations on floating-point numbers the program uses. -/
class Arithmetic (F : Type) extends Add F, Sub F, Mul F, Div F, Neg F where
  /-- a literal, or a converted integer -/
  lit : ℚ → F
  sqrt : F → F
  abs : F → F
  /-- `x < y` -/
  lt : F → F → Bool
  /-- `x <= y` -/
  le : F → F → Bool
  /-- `x == y` -/
  eq : F → F → Bool

export Arithmetic (lit)

/-- The rational numbers, with a given square root. -/
@[reducible]
def rationalArithmetic (sqrt : ℚ → ℚ) : Arithmetic ℚ where
  lit x := x
  sqrt := sqrt
  abs x := |x|
  lt x y := decide (x < y)
  le x y := decide (x ≤ y)
  eq x y := decide (x = y)

/-- Exact arithmetic: numbers stand for elements of an ordered field, and what is used of the
operations and comparisons is exact. -/
structure ExactArithmetic (F K : Type) [Arithmetic F] [Field K] [LinearOrder K] where
  value : F → K
  value_lit : ∀ q : ℚ, value (lit q) = q
  value_div : ∀ x y, value (x / y) = value x / value y
  le_iff : ∀ {x y}, Arithmetic.le x y = true ↔ value x ≤ value y

/-- The arithmetic of the rational numbers is exact. -/
def ExactArithmetic.rational (sqrt : ℚ → ℚ) :
    @ExactArithmetic ℚ ℚ (rationalArithmetic sqrt) _ _ :=
  @ExactArithmetic.mk ℚ ℚ (rationalArithmetic sqrt) _ _ id (fun _ ↦ (Rat.cast_id _).symm)
    (fun _ _ ↦ rfl) decide_eq_true_iff

/-- The conversions to whole numbers. -/
class Rounding (F : Type) where
  floor : F → F
  /-- the nearest whole number, halves away from zero -/
  round : F → F
  /-- the conversion to `int`, toward zero -/
  toInt : F → ℤ

/-- The conversions of the rational numbers. -/
@[reducible]
def rationalRounding : Rounding ℚ where
  floor x := ⌊x⌋
  round x := if 0 ≤ x then ⌊x + 1 / 2⌋ else ⌈x - 1 / 2⌉
  toInt x := if 0 ≤ x then ⌊x⌋ else ⌈x⌉

/-- `Leap::Vector`. -/
structure Vector3 (F : Type) where
  x : F
  y : F
  z : F
  deriving DecidableEq

namespace Vector3

variable {F : Type} [Arithmetic F]

/-- `Vector::zero()`. -/
def zero : Vector3 F := ⟨lit 0, lit 0, lit 0⟩

instance : Add (Vector3 F) := ⟨fun v w ↦ ⟨v.x + w.x, v.y + w.y, v.z + w.z⟩⟩
instance : Sub (Vector3 F) := ⟨fun v w ↦ ⟨v.x - w.x, v.y - w.y, v.z - w.z⟩⟩

/-- `operator*` with a number. -/
def scale (v : Vector3 F) (s : F) : Vector3 F := ⟨v.x * s, v.y * s, v.z * s⟩

/-- `operator/` with a number. -/
def div (v : Vector3 F) (s : F) : Vector3 F := ⟨v.x / s, v.y / s, v.z / s⟩

/-- `dot`. -/
def dot (v w : Vector3 F) : F := v.x * w.x + v.y * w.y + v.z * w.z

/-- `magnitudeSquared`. -/
def magnitudeSquared (v : Vector3 F) : F := v.dot v

/-- `magnitude`. -/
def magnitude (v : Vector3 F) : F := Arithmetic.sqrt v.magnitudeSquared

/-- `distanceTo`. -/
def distanceTo (v w : Vector3 F) : F := (v - w).magnitude

end Vector3

end Touchless
