import Mathlib.Algebra.Group.Int.Defs
import Mathlib.Algebra.Group.Nat.Defs
import Mathlib.Data.List.Lex
import Mathlib.Order.Lattice

/-!
# Byte strings

Byte strings are lists of `UInt8` in lexicographic order, which is the order of `std::string`. The
file has the decimal notation of natural numbers and integers as byte strings, and how it is read
back.
-/

namespace Touchless

/-- A byte string. -/
abbrev Bytes := List UInt8

instance instLinearOrderUInt8 : LinearOrder UInt8 where
  le_refl := UInt8.le_refl
  le_trans _ _ _ := UInt8.le_trans
  le_antisymm _ _ := UInt8.le_antisymm
  le_total := UInt8.le_total
  lt_iff_le_not_ge a b := by
    rw [UInt8.lt_iff_toNat_lt, UInt8.le_iff_toNat_le, UInt8.le_iff_toNat_le]
    omega
  toDecidableLE := inferInstance

/-- The bytes of a text of ASCII characters. -/
def ascii (text : String) : Bytes := text.toList.map fun c ↦ UInt8.ofNat c.toNat

/-! ### Decimal notation -/

/-- Is the byte one of `0` to `9`? -/
def isDigit (c : UInt8) : Bool := 0x30 ≤ c && c ≤ 0x39

/-- A natural number in decimal notation. -/
def decimal (n : ℕ) : Bytes := (Nat.toDigits 10 n).map fun c ↦ UInt8.ofNat c.toNat

/-- An integer in decimal notation. -/
def decimalInt (n : ℤ) : Bytes := if n < 0 then 0x2D :: decimal n.natAbs else decimal n.natAbs

/-- The number a string of digits denotes. -/
def ofDecimal (digits : Bytes) : ℕ := digits.foldl (fun n c ↦ 10 * n + (c.toNat - 0x30)) 0

/-- The bytes of the digits are those of the characters. -/
theorem toNat_of_mem_toDigits {n : ℕ} {c : Char} (h : c ∈ Nat.toDigits 10 n) :
    (UInt8.ofNat c.toNat).toNat = c.toNat ∧ 48 ≤ c.toNat ∧ c.toNat ≤ 57 := by
  have hdigit : c.isDigit = true := Nat.isDigit_of_mem_toDigits (by decide) (by decide) h
  simp only [Char.isDigit, Bool.and_eq_true, decide_eq_true_eq] at hdigit
  have hlow : 48 ≤ c.toNat := by simpa [UInt32.le_iff_toNat_le] using hdigit.1
  have hhigh : c.toNat ≤ 57 := by simpa [UInt32.le_iff_toNat_le] using hdigit.2
  refine ⟨?_, hlow, hhigh⟩
  rw [UInt8.toNat_ofNat']
  omega

/-- Decimal notation consists of digits. -/
theorem isDigit_of_mem_decimal {n : ℕ} {c : UInt8} (h : c ∈ decimal n) : isDigit c = true := by
  obtain ⟨d, hd, rfl⟩ := List.mem_map.1 h
  obtain ⟨heq, hlow, hhigh⟩ := toNat_of_mem_toDigits hd
  simp only [isDigit, Bool.and_eq_true, decide_eq_true_eq, UInt8.le_iff_toNat_le, heq]
  exact ⟨hlow, hhigh⟩

theorem decimal_ne_nil (n : ℕ) : decimal n ≠ [] := by
  simp [decimal, Nat.toDigits_ne_nil]

/-- **Reading decimal notation back.** -/
theorem ofDecimal_decimal (n : ℕ) : ofDecimal (decimal n) = n := by
  have hfold : ∀ (cs : List Char) (k : ℕ), (∀ c ∈ cs, (UInt8.ofNat c.toNat).toNat = c.toNat) →
      (cs.map fun c ↦ UInt8.ofNat c.toNat).foldl (fun n c ↦ 10 * n + (c.toNat - 0x30)) k =
        Nat.ofDigitChars 10 cs k := by
    intro cs
    induction cs with
    | nil => intro k _; simp [Nat.ofDigitChars_nil]
    | cons c cs ih =>
      intro k h
      rw [List.map_cons, List.foldl_cons, ih _ fun d hd ↦ h d (List.mem_cons_of_mem c hd),
        Nat.ofDigitChars_cons, h c List.mem_cons_self]
      rfl
  rw [ofDecimal, decimal, hfold _ _ fun c hc ↦ (toNat_of_mem_toDigits hc).1,
    Nat.ofDigitChars_toDigits (by decide) (by decide)]

theorem decimal_zero : decimal 0 = [0x30] := rfl

/-- The notation of a positive number does not begin with `0`. -/
theorem head_decimal_ne_zero {n : ℕ} (hn : 0 < n) : (decimal n).head (decimal_ne_nil n) ≠ 0x30 := by
  induction n using Nat.strongRecOn with
  | ind n ih =>
    by_cases hsmall : n < 10
    · have hall : ∀ m : Fin 10, 0 < m.val → (decimal m).head (decimal_ne_nil m) ≠ 0x30 := by decide
      exact hall ⟨n, hsmall⟩ hn
    · have hstep : decimal n = decimal (n / 10) ++ [UInt8.ofNat (n % 10).digitChar.toNat] := by
        simp [decimal, Nat.toDigits_of_base_le (by decide) (Nat.not_lt.1 hsmall)]
      simp only [hstep, List.head_append_of_ne_nil (decimal_ne_nil (n / 10))]
      exact ih (n / 10) (by omega) (by omega)

end Touchless
