import Mathlib.Data.List.Basic
import Touchless.Foundations.Bytes

/-!
# Numbers in big-endian order

The bytes of a number in the order of a little-endian machine, the loop that exchanges them in place
from both ends, and the bytes in big-endian order, from which the number is read back.
-/

namespace Touchless

/-- The bytes of a number of a given size, the least significant one first. -/
def littleEndian : ℕ → ℕ → Bytes
  | 0, _ => []
  | size + 1, n => UInt8.ofNat n :: littleEndian size (n / 256)

/-- The bytes of a number of a given size, the most significant one first. -/
def bigEndian (size n : ℕ) : Bytes := (littleEndian size n).reverse

/-- The number that bytes denote, the most significant one first. -/
def ofBigEndian (bytes : Bytes) : ℕ := bytes.foldl (fun n b ↦ 256 * n + b.toNat) 0

@[simp]
theorem length_littleEndian (size n : ℕ) : (littleEndian size n).length = size := by
  induction size generalizing n with
  | zero => rfl
  | succ size ih => simp [littleEndian, ih]

@[simp]
theorem length_bigEndian (size n : ℕ) : (bigEndian size n).length = size := by
  rw [bigEndian, List.length_reverse, length_littleEndian]

/-- **Reading a number back.** -/
theorem ofBigEndian_bigEndian (size n : ℕ) : ofBigEndian (bigEndian size n) = n % 256 ^ size := by
  rw [ofBigEndian, bigEndian, List.foldl_reverse]
  induction size generalizing n with
  | zero => simp [littleEndian, Nat.mod_one]
  | succ size ih =>
    have hpow : 256 ^ (size + 1) = 256 * 256 ^ size := Nat.pow_succ'
    rw [littleEndian, List.foldr_cons, ih, UInt8.toNat_ofNat', hpow, Nat.mod_mul]
    omega

/-! ### Exchanging the bytes in place -/

section Swap

variable {α : Type*}

/-- Two elements change places. -/
def swapAt (xs : List α) (i j : ℕ) : List α :=
  match xs[i]?, xs[j]? with
  | some x, some y => (xs.set i y).set j x
  | _, _ => xs

/-- The loop over the first half, which exchanges each element with the one as far from the end. -/
def swapEnds (xs : List α) : List α :=
  (List.range (xs.length / 2)).foldl (fun ys i ↦ swapAt ys i (xs.length - 1 - i)) xs

/-- The list after some turns. -/
theorem getElem?_swapEnds (xs : List α) (k : ℕ) (hk : k ≤ xs.length / 2) (j : ℕ)
    (hj : j < xs.length) :
    ((List.range k).foldl (fun ys i ↦ swapAt ys i (xs.length - 1 - i)) xs)[j]? =
      if j < k ∨ xs.length - k ≤ j then xs[xs.length - 1 - j]? else xs[j]? := by
  induction k generalizing j with
  | zero =>
    rw [if_neg (by omega)]
    rfl
  | succ k ih =>
    have ih := ih (by omega)
    rw [List.range_succ, List.foldl_append]
    set ys := (List.range k).foldl (fun ys i ↦ swapAt ys i (xs.length - 1 - i)) xs
    have hx := ih k (by omega)
    have hy := ih (xs.length - 1 - k) (by omega)
    rw [if_neg (by omega), List.getElem?_eq_getElem (show k < xs.length by omega)] at hx
    rw [if_neg (by omega), List.getElem?_eq_getElem (show xs.length - 1 - k < xs.length by omega)]
      at hy
    have hlow : k < ys.length := (List.getElem?_eq_some_iff.1 hx).1
    have hhigh : xs.length - 1 - k < ys.length := (List.getElem?_eq_some_iff.1 hy).1
    show (swapAt ys k (xs.length - 1 - k))[j]? = _
    rw [swapAt, hx, hy]
    dsimp only
    rw [List.getElem?_set, List.getElem?_set, List.length_set]
    -- the two places that this turn exchanges, and the others
    by_cases hfirst : xs.length - 1 - k = j
    · rw [if_pos hfirst, if_pos (hfirst ▸ hhigh), if_pos (by omega)]
      rw [List.getElem?_eq_getElem (by omega)]
      congr 2
      omega
    · rw [if_neg hfirst]
      by_cases hsecond : k = j
      · rw [if_pos hsecond, if_pos (hsecond ▸ hlow), if_pos (by omega)]
        rw [List.getElem?_eq_getElem (by omega)]
        congr 2
        omega
      · rw [if_neg hsecond, ih j hj]
        by_cases hdone : j < k ∨ xs.length - k ≤ j
        · rw [if_pos hdone, if_pos (by omega)]
        · rw [if_neg hdone, if_neg (by omega)]

theorem length_swapEnds (xs : List α) : (swapEnds xs).length = xs.length := by
  have hstep : ∀ (ys : List α) i j, (swapAt ys i j).length = ys.length := by
    intro ys i j
    rw [swapAt]
    split <;> simp
  exact List.foldlRecOn (motive := fun ys : List α ↦ ys.length = xs.length) _ _ rfl
    fun ys hys i _ ↦ (hstep ys _ _).trans hys

/-- **The loop reverses the list.** -/
theorem swapEnds_eq_reverse (xs : List α) : swapEnds xs = xs.reverse := by
  refine List.ext_getElem? fun j ↦ ?_
  by_cases hj : j < xs.length
  · rw [List.getElem?_reverse hj, swapEnds, getElem?_swapEnds xs _ le_rfl j hj]
    split_ifs with hside
    · rfl
    · -- the middle one stays
      congr 1
      omega
  · rw [List.getElem?_eq_none (by rw [length_swapEnds]; omega),
      List.getElem?_eq_none (by rw [List.length_reverse]; omega)]

end Swap

end Touchless
