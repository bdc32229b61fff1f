import Mathlib.Algebra.Order.Field.Rat
import Mathlib.Data.Finset.Max
import Mathlib.Data.Finset.Range

/-!
# Doubles as rational numbers

A finite double stands for a rational number. What is read from a decimal text is the finite double
nearest to its value; the file says what this means, and that there is always one
(`exists_nearest`).
-/

namespace Touchless.Binary64

/-- The exponent, as it is stored. -/
def exponent (bits : UInt64) : ℕ := bits.toNat / 2 ^ 52 % 2 ^ 11

/-- The stored part of the mantissa. -/
def mantissa (bits : UInt64) : ℕ := bits.toNat % 2 ^ 52

/-- Neither an infinity nor a NaN. -/
def Finite (bits : UInt64) : Prop := exponent bits ≠ 2047

instance (bits : UInt64) : Decidable (Finite bits) := inferInstanceAs (Decidable (_ ≠ _))

/-- The number of a finite double. -/
def value (bits : UInt64) : ℚ :=
  (if bits.toNat < 2 ^ 63 then 1 else -1) *
    if exponent bits = 0 then (mantissa bits : ℚ) * 2 ^ (-1074 : ℤ)
    else (2 ^ 52 + mantissa bits : ℚ) * 2 ^ ((exponent bits : ℤ) - 1075)

/-- The least number that is too large: it lies half a step above the greatest finite double. -/
def overflow : ℚ := (2 ^ 54 - 1) * 2 ^ 970

/-- The double is finite, and none is nearer to the number. -/
structure Nearest (bits : UInt64) (q : ℚ) : Prop where
  finite : Finite bits
  le : ∀ bits', Finite bits' → |value bits - q| ≤ |value bits' - q|

theorem exists_nearest (q : ℚ) : ∃ bits, Nearest bits q := by
  obtain ⟨n, hn, hle⟩ := Finset.exists_min_image
    {n ∈ Finset.range (2 ^ 64) | Finite (UInt64.ofNat n)} (fun n ↦ |value (UInt64.ofNat n) - q|)
    ⟨0, Finset.mem_filter.2 ⟨Finset.mem_range.2 (Nat.two_pow_pos 64), by decide⟩⟩
  refine ⟨UInt64.ofNat n, (Finset.mem_filter.1 hn).2, fun bits hbits ↦ ?_⟩
  have hle := hle bits.toNat
  rw [UInt64.ofNat_toNat] at hle
  refine hle (Finset.mem_filter.2 ⟨Finset.mem_range.2 bits.toNat_lt, ?_⟩)
  rwa [UInt64.ofNat_toNat]

end Touchless.Binary64
