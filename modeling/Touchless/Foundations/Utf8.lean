import Touchless.Foundations.Bytes

/-!
# UTF-8 and UTF-16

The encodings of Unicode scalar values, which are Lean's characters. The UTF-8 encoding is
`String.utf8EncodeChar`, by sums and remainders; programs compute it by shifts and masks, and the
file shows that these are the same (`encode1` to `encode4`). The UTF-16 encoding is
`utf16EncodeChar`.
-/

namespace Touchless.Utf8

/-- High bits and low bits do not meet. -/
theorem or_low (i k size : ℕ) {high low : ℕ} (hhigh : high = k * size) (hsize : size = 2 ^ i)
    (hlow : low < size) : high ||| low = high + low := by
  subst hsize hhigh
  rw [← Nat.shiftLeft_eq, Nat.shiftLeft_add_eq_or_of_lt hlow]

/-- A mask of low bits is a remainder. -/
theorem and_mask (v i size : ℕ) {mask : ℕ} (hmask : mask = size - 1) (hsize : size = 2 ^ i) :
    v &&& mask = v % size := by
  subst hsize hmask
  exact Nat.and_two_pow_sub_one_eq_mod v i

/-! ### The four lengths, by shifts and masks -/

def bytes2 (v : ℕ) : Bytes :=
  [UInt8.ofNat (0xC0 ||| v >>> 6), UInt8.ofNat (0x80 ||| v &&& 0x3F)]

def bytes3 (v : ℕ) : Bytes :=
  [UInt8.ofNat (0xE0 ||| v >>> 12), UInt8.ofNat (0x80 ||| v >>> 6 &&& 0x3F),
    UInt8.ofNat (0x80 ||| v &&& 0x3F)]

def bytes4 (v : ℕ) : Bytes :=
  [UInt8.ofNat (0xF0 ||| v >>> 18), UInt8.ofNat (0x80 ||| v >>> 12 &&& 0x3F),
    UInt8.ofNat (0x80 ||| v >>> 6 &&& 0x3F), UInt8.ofNat (0x80 ||| v &&& 0x3F)]

/-- A continuation byte. -/
theorem continuation (v : ℕ) : 0x80 ||| v &&& 0x3F = v % 0x40 + 0x80 := by
  have hlow : v &&& 0x3F = v % 0x40 := and_mask v 6 0x40 (by decide) (by decide)
  have hbyte : 0x80 ||| v % 0x40 = 0x80 + v % 0x40 :=
    or_low 6 2 0x40 (by decide) (by decide) (Nat.mod_lt _ (by decide))
  rw [hlow, hbyte, Nat.add_comm]

/-! The first bytes. -/

theorem first2 {v : ℕ} (h : v ≤ 0x7FF) : 0xC0 ||| v >>> 6 = 0xC0 + v / 64 := by
  rw [Nat.shiftRight_eq_div_pow]
  exact or_low 5 6 0x20 (by decide) (by decide) (by omega)

theorem first3 {v : ℕ} (h : v ≤ 0xFFFF) : 0xE0 ||| v >>> 12 = 0xE0 + v / 4096 := by
  rw [Nat.shiftRight_eq_div_pow]
  exact or_low 4 14 0x10 (by decide) (by decide) (by omega)

theorem first4 {v : ℕ} (h : v < 0x110000) : 0xF0 ||| v >>> 18 = 0xF0 + v / 262144 := by
  rw [Nat.shiftRight_eq_div_pow]
  exact or_low 3 30 0x08 (by decide) (by decide) (by omega)

/-- The surrogates are not scalar values. -/
theorem toNat_scalar (c : Char) :
    c.toNat < 0xD800 ∨ 0xDFFF < c.toNat ∧ c.toNat < 0x110000 := c.valid

/-- A scalar value is a character. -/
theorem exists_char {unicode : ℕ}
    (h : unicode < 0xD800 ∨ 0xDFFF < unicode ∧ unicode < 0x110000) :
    ∃ c : Char, c.toNat = unicode := by
  refine ⟨⟨UInt32.ofNat unicode, ?_⟩, ?_⟩
  · rw [UInt32.isValidChar, UInt32.toNat_ofNat_of_lt' (show unicode < 2 ^ 32 by omega)]
    exact h
  · exact UInt32.toNat_ofNat_of_lt' (show unicode < 2 ^ 32 by omega)

variable {c : Char}

theorem encode1 (h : c.toNat ≤ 0x7F) : String.utf8EncodeChar c = [UInt8.ofNat c.toNat] := if_pos h

theorem encode2 (h : 0x7F < c.toNat) (h' : c.toNat ≤ 0x7FF) :
    String.utf8EncodeChar c = bytes2 c.toNat := by
  have hfirst : 0xC0 ||| c.toNat >>> 6 = c.toNat / 64 % 0x20 + 0xC0 := by
    rw [first2 h']
    omega
  rw [bytes2, hfirst, continuation]
  exact (if_neg (Nat.not_le.2 h)).trans (if_pos h')

theorem encode3 (h : 0x7FF < c.toNat) (h' : c.toNat ≤ 0xFFFF) :
    String.utf8EncodeChar c = bytes3 c.toNat := by
  have hfirst : 0xE0 ||| c.toNat >>> 12 = c.toNat / 4096 % 0x10 + 0xE0 := by
    rw [first3 h']
    omega
  have h1 : 0x7F < c.toNat := by omega
  rw [bytes3, hfirst, continuation, continuation, Nat.shiftRight_eq_div_pow]
  exact (if_neg (Nat.not_le.2 h1)).trans ((if_neg (Nat.not_le.2 h)).trans (if_pos h'))

theorem encode4 (h : 0xFFFF < c.toNat) : String.utf8EncodeChar c = bytes4 c.toNat := by
  have hscalar := toNat_scalar c
  have hfirst : 0xF0 ||| c.toNat >>> 18 = c.toNat / 262144 % 0x08 + 0xF0 := by
    rw [first4 (by omega)]
    omega
  have h1 : 0x7F < c.toNat := by omega
  have h2 : 0x7FF < c.toNat := by omega
  rw [bytes4, hfirst, continuation, continuation, continuation, Nat.shiftRight_eq_div_pow,
    Nat.shiftRight_eq_div_pow]
  exact (if_neg (Nat.not_le.2 h1)).trans
    ((if_neg (Nat.not_le.2 h2)).trans (if_neg (Nat.not_le.2 h)))

theorem le_ofNat {k : ℕ} (h : 0x80 ≤ k) (hlt : k < 0x100) : 0x80 ≤ (UInt8.ofNat k).toNat := by
  rwa [UInt8.toNat_ofNat_of_lt' (show k < 2 ^ 8 from hlt)]

/-- Every byte of a character above the ASCII range is above it too. -/
theorem le_of_mem_encode (h : 0x7F < c.toNat) {b : UInt8} (hb : b ∈ String.utf8EncodeChar c) :
    0x80 ≤ b.toNat := by
  have hscalar := toNat_scalar c
  have hcontinuation : ∀ v, 0x80 ≤ (UInt8.ofNat (0x80 ||| v &&& 0x3F)).toNat := by
    intro v
    rw [continuation]
    exact le_ofNat (by omega) (by omega)
  by_cases h2 : c.toNat ≤ 0x7FF
  · rw [encode2 h h2, bytes2, first2 h2] at hb
    rcases List.mem_pair.1 hb with rfl | rfl
    · exact le_ofNat (by omega) (by omega)
    · exact hcontinuation _
  by_cases h3 : c.toNat ≤ 0xFFFF
  · rw [encode3 (by omega) h3, bytes3, first3 h3] at hb
    rcases List.mem_cons.1 hb with rfl | hb
    · exact le_ofNat (by omega) (by omega)
    · rcases List.mem_pair.1 hb with rfl | rfl <;> exact hcontinuation _
  · rw [encode4 (by omega), bytes4, first4 (by omega)] at hb
    rcases List.mem_cons.1 hb with rfl | hb
    · exact le_ofNat (by omega) (by omega)
    · rcases List.mem_cons.1 hb with rfl | hb
      · exact hcontinuation _
      · rcases List.mem_pair.1 hb with rfl | rfl <;> exact hcontinuation _

/-! ### UTF-16 -/

/-- The code units of a character: one, or a pair of surrogates. -/
def utf16EncodeChar (c : Char) : List ℕ :=
  if c.toNat ≤ 0xFFFF then [c.toNat]
  else [0xD800 + (c.toNat - 0x10000) / 0x400, 0xDC00 + (c.toNat - 0x10000) % 0x400]

end Touchless.Utf8
