import Mathlib.Algebra.Order.Field.Rat
import Touchless.Foundations.JsonGrammar

/-!
# The numbers that texts of JSON stand for

A number of the grammar consists of a sign, digits, a fraction and an exponent, and its characters
show where one ends and the next begins (`split_parts`). So it has one value, a rational number, and
is an integer as it is written or else has a fraction or an exponent (`isReal_iff`).
-/

namespace Touchless.Json

/-- The text has a point or the letter of an exponent: as it is written, it is no integer. -/
def IsReal (text : Bytes) : Prop := 0x2E ∈ text ∨ 0x65 ∈ text ∨ 0x45 ∈ text

instance (text : Bytes) : Decidable (IsReal text) := inferInstanceAs (Decidable (_ ∨ _))

/-- The parts of a number: sign, digits, fraction and exponent. -/
def split (text : Bytes) : Bytes × Bytes × Bytes × Bytes :=
  let unsigned := text.dropWhile (· = 0x2D)
  let more := unsigned.dropWhile isDigit
  (text.takeWhile (· = 0x2D), unsigned.takeWhile isDigit,
    more.takeWhile fun c ↦ c = 0x2E || isDigit c, more.dropWhile fun c ↦ c = 0x2E || isDigit c)

/-- The value of a fraction, with its point. -/
def fractionValue (fraction : Bytes) : ℚ :=
  ofDecimal fraction.tail / 10 ^ fraction.tail.length

/-- The power of ten that an exponent stands for, with its letter. -/
def exponentValue (exponent : Bytes) : ℤ :=
  match exponent.tail with
  | 0x2D :: digits => -ofDecimal digits
  | 0x2B :: digits => ofDecimal digits
  | digits => ofDecimal digits

/-- The value of a number. -/
def numberValue (text : Bytes) : ℚ :=
  let (sign, int, fraction, exponent) := split text
  (if sign = [] then 1 else -1) * (ofDecimal int + fractionValue fraction) *
    10 ^ exponentValue exponent

/-! ### The parts -/

/-- Where a part of a text ends, something stands that cannot belong to it. -/
theorem span_append {p : UInt8 → Bool} {first second : Bytes} (h : ∀ c ∈ first, p c = true)
    (hsecond : ∀ c ∈ second.head?, p c = false) :
    (first ++ second).takeWhile p = first ∧ (first ++ second).dropWhile p = second := by
  rw [List.takeWhile_append_of_pos h, List.dropWhile_append_of_pos h]
  cases second with
  | nil => simp
  | cons c second =>
    have hc : p c = false := hsecond c rfl
    simp [hc]

variable {sign int fraction exponent : Bytes}

theorem IsFraction.mem (h : IsFraction fraction) :
    ∀ c ∈ fraction, (c = 0x2E || isDigit c) = true := by
  cases h with
  | none => simp
  | digits h =>
    refine List.forall_mem_cons.2 ⟨by decide, fun c hc ↦ ?_⟩
    rw [h.2 c hc, Bool.or_true]

theorem IsExponent.head (h : IsExponent exponent) :
    ∀ c ∈ exponent.head?, c = 0x65 ∨ c = 0x45 := by
  cases h with
  | none => simp
  | digits he hsign h => simpa using he

/-- Behind the digits comes a point, or the letter of an exponent. -/
theorem head_fraction_exponent (hfraction : IsFraction fraction) (hexponent : IsExponent exponent) :
    ∀ c ∈ (fraction ++ exponent).head?, c = 0x2E ∨ c = 0x65 ∨ c = 0x45 := by
  cases hfraction with
  | none => exact fun c hc ↦ .inr (hexponent.head c hc)
  | digits h => simp

/-- **The parts** are found again. -/
theorem split_parts (hsign : sign = [] ∨ sign = [0x2D]) (hint : IsInt int)
    (hfraction : IsFraction fraction) (hexponent : IsExponent exponent) :
    split (sign ++ int ++ fraction ++ exponent) = (sign, int, fraction, exponent) := by
  obtain ⟨c, digits, rfl⟩ := List.exists_cons_of_ne_nil hint.1.1
  have hc : c ≠ 0x2D := by
    rintro rfl
    exact absurd (hint.1.2 _ List.mem_cons_self) (by decide)
  have hsignSpan := @span_append (· = 0x2D) sign (c :: digits ++ (fraction ++ exponent))
    (by rcases hsign with rfl | rfl <;> simp) (by simpa using hc)
  have hintSpan := @span_append isDigit (c :: digits) (fraction ++ exponent) hint.1.2 (by
    intro d hd
    rcases head_fraction_exponent hfraction hexponent d hd with rfl | rfl | rfl <;> decide)
  have hfractionSpan := @span_append (fun c ↦ c = 0x2E || isDigit c) fraction exponent hfraction.mem
    (by intro d hd; rcases hexponent.head d hd with rfl | rfl <;> decide)
  simp only [split, List.append_assoc, hsignSpan.1, hsignSpan.2, hintSpan.1, hintSpan.2,
    hfractionSpan.1, hfractionSpan.2]

/-- **The value of a number**, from its parts. -/
theorem numberValue_parts (hsign : sign = [] ∨ sign = [0x2D]) (hint : IsInt int)
    (hfraction : IsFraction fraction) (hexponent : IsExponent exponent) :
    numberValue (sign ++ int ++ fraction ++ exponent) =
      (if sign = [] then 1 else -1) * (ofDecimal int + fractionValue fraction) *
        10 ^ exponentValue exponent := by
  rw [numberValue, split_parts hsign hint hfraction hexponent]

/-- **An integer** stands for its digits. -/
theorem numberValue_integer (hsign : sign = [] ∨ sign = [0x2D]) (hint : IsInt int) :
    numberValue (sign ++ int) = ((if sign = [] then 1 else -1) * (ofDecimal int : ℤ) : ℤ) := by
  have hvalue := numberValue_parts hsign hint .none .none
  rw [List.append_nil, List.append_nil] at hvalue
  rw [hvalue, show fractionValue [] = 0 by simp [fractionValue, ofDecimal],
    show exponentValue [] = 0 from rfl, zpow_zero, mul_one, add_zero]
  split_ifs <;> push_cast <;> rfl

/-- A sign and digits have no point and no letter. -/
theorem not_isReal_integer (hsign : sign = [] ∨ sign = [0x2D]) (hint : IsInt int) :
    ¬IsReal (sign ++ int) := by
  have hdigit : ∀ c ∈ sign ++ int, c = 0x2D ∨ isDigit c = true := by
    intro c hc
    rcases List.mem_append.1 hc with hc | hc
    · rcases hsign with rfl | rfl
      · cases hc
      · exact .inl (List.mem_singleton.1 hc)
    · exact .inr (hint.1.2 c hc)
  rintro (h | h | h) <;> exact absurd (hdigit _ h) (by decide)

/-- **Integers** are the numbers without a fraction and an exponent. -/
theorem isReal_iff (hsign : sign = [] ∨ sign = [0x2D]) (hint : IsInt int)
    (hfraction : IsFraction fraction) (hexponent : IsExponent exponent) :
    IsReal (sign ++ int ++ fraction ++ exponent) ↔ fraction ≠ [] ∨ exponent ≠ [] := by
  constructor
  · intro h
    by_contra hnone
    obtain ⟨rfl, rfl⟩ : fraction = [] ∧ exponent = [] := by simpa [not_or] using hnone
    rw [List.append_nil, List.append_nil] at h
    exact not_isReal_integer hsign hint h
  · rintro (hne | hne)
    · cases hfraction with
      | none => exact absurd rfl hne
      | digits h => exact .inl (by simp)
    · cases hexponent with
      | none => exact absurd rfl hne
      | digits he hsign h => rcases he with rfl | rfl <;> simp [IsReal]

end Touchless.Json
