import Touchless.Utility.ValueRoundTrip

/-!
# Values with integers by value

The integer types of `Value` differ in how a number is stored, not in the number. `canonical` puts
every integer of a value into a 64-bit type, so that two values are the same up to the types of
their integers if their canonical forms are equal (`sameUpToKind_of_canonical_eq`).
-/

namespace Touchless.Value

/-- An integer of at most 64 bits. -/
def ofInt (n : ℤ) : Value :=
  if 0 ≤ n then ulonglong (UInt64.ofNat n.toNat) else longlong (Int64.ofInt n)

mutual

/-- The value with its integers in 64-bit types. -/
def canonical : Value → Value
  | int n => ofInt n.toInt
  | uint n => ofInt n.toNat
  | longlong n => ofInt n.toInt
  | ulonglong n => ofInt n.toNat
  | array elements => array (canonicalElements elements)
  | hash entries => hash (canonicalEntries entries)
  | null => null
  | bool b => bool b
  | double bits => double bits
  | longDouble bits => longDouble bits
  | string s => string s
  | foreign typeName => foreign typeName

/-- The elements in canonical form. -/
def canonicalElements : List Value → List Value
  | [] => []
  | value :: elements => canonical value :: canonicalElements elements

/-- The entries with their values in canonical form. -/
def canonicalEntries : List (Bytes × Value) → List (Bytes × Value)
  | [] => []
  | (key, value) :: entries => (key, canonical value) :: canonicalEntries entries

end

theorem canonicalEntries_eq_map (entries : List (Bytes × Value)) :
    canonicalEntries entries = entries.map fun p ↦ (p.1, p.2.canonical) := by
  induction entries with
  | nil => rfl
  | cons entry entries ih =>
    obtain ⟨key, value⟩ := entry
    rw [canonicalEntries, ih, List.map_cons]

/-- The 64-bit types hold their integers. -/
theorem integer?_ofInt {n : ℤ} (hlow : -2 ^ 63 ≤ n) (hhigh : n < 2 ^ 64) :
    integer? (ofInt n) = some n := by
  rw [ofInt]
  split_ifs with hn
  · rw [integer?, UInt64.toNat_ofNat', Nat.mod_eq_of_lt (by omega), Int.toNat_of_nonneg hn]
  · rw [integer?, Int64.toInt_ofInt_of_le hlow (by omega)]

theorem integer?_canonical (value : Value) : integer? value.canonical = integer? value := by
  cases value with
  | int n =>
    have hlow := n.le_toInt
    have hhigh := n.toInt_lt
    exact integer?_ofInt (by omega) (by omega)
  | uint n =>
    have hhigh := n.toNat_lt
    exact integer?_ofInt (by omega) (by omega)
  | longlong n =>
    have hlow := n.le_toInt
    have hhigh := n.toInt_lt
    exact integer?_ofInt (by omega) (by omega)
  | ulonglong n =>
    have hhigh := n.toNat_lt
    exact integer?_ofInt (by omega) (by omega)
  | _ => rfl

/-- Only an integer has the canonical form of one. -/
theorem integer?_eq_of_canonical_eq {value value' : Value}
    (h : value.canonical = value'.canonical) : integer? value' = integer? value := by
  rw [← integer?_canonical value', ← h, integer?_canonical]

mutual

/-- **Values with one canonical form** are the same up to the types of their integers. -/
theorem sameUpToKind_of_canonical_eq : ∀ value value' : Value, value.Exact →
    value.canonical = value'.canonical → SameUpToKind value value'
  | int n, value', _, h => by
    simpa only [SameUpToKind, integer?] using integer?_eq_of_canonical_eq h
  | uint n, value', _, h => by
    simpa only [SameUpToKind, integer?] using integer?_eq_of_canonical_eq h
  | longlong n, value', _, h => by
    simpa only [SameUpToKind, integer?] using integer?_eq_of_canonical_eq h
  | ulonglong n, value', _, h => by
    simpa only [SameUpToKind, integer?] using integer?_eq_of_canonical_eq h
  | array elements, value', hexact, h => by
    have hinteger := integer?_eq_of_canonical_eq h
    cases value' <;> simp [integer?, canonical] at hinteger h
    simp only [Exact, everywhere, Bool.and_eq_true] at hexact
    simpa only [SameUpToKind] using sameElements_of_canonical_eq elements _ hexact.2 h
  | hash entries, value', hexact, h => by
    have hinteger := integer?_eq_of_canonical_eq h
    cases value' <;> simp [integer?, canonical] at hinteger h
    simp only [Exact, everywhere, Bool.and_eq_true] at hexact
    simpa only [SameUpToKind] using sameEntries_of_canonical_eq entries _ hexact.2 h
  | null, value', _, h => by
    have hinteger := integer?_eq_of_canonical_eq h
    cases value' <;> simp [integer?, canonical] at hinteger h
    simp [SameUpToKind]
  | bool b, value', _, h => by
    have hinteger := integer?_eq_of_canonical_eq h
    cases value' <;> simp [integer?, canonical] at hinteger h
    simpa [SameUpToKind] using h
  | string s, value', _, h => by
    have hinteger := integer?_eq_of_canonical_eq h
    cases value' <;> simp [integer?, canonical] at hinteger h
    simpa [SameUpToKind] using h
  | double _, _, hexact, _ => absurd hexact (by simp [Exact, everywhere, exactType])
  | longDouble _, _, hexact, _ => absurd hexact (by simp [Exact, everywhere, exactType])
  | foreign _, _, hexact, _ => absurd hexact (by simp [Exact, everywhere, exactType])

theorem sameElements_of_canonical_eq : ∀ elements elements' : List Value,
    everywhereElements exactType elements = true →
    canonicalElements elements = canonicalElements elements' → SameElements elements elements'
  | [], [], _, _ => by simp [SameElements]
  | [], _ :: _, _, h => by simp [canonicalElements] at h
  | _ :: _, [], _, h => by simp [canonicalElements] at h
  | value :: elements, value' :: elements', hexact, h => by
    simp only [everywhereElements, Bool.and_eq_true] at hexact
    simp only [canonicalElements, List.cons.injEq] at h
    simp only [SameElements]
    exact ⟨sameUpToKind_of_canonical_eq value value' hexact.1 h.1,
      sameElements_of_canonical_eq elements elements' hexact.2 h.2⟩

theorem sameEntries_of_canonical_eq : ∀ entries entries' : List (Bytes × Value),
    everywhereEntries exactType entries = true →
    canonicalEntries entries = canonicalEntries entries' → SameEntries entries entries'
  | [], [], _, _ => by simp [SameEntries]
  | [], _ :: _, _, h => by simp [canonicalEntries] at h
  | _ :: _, [], _, h => by simp [canonicalEntries] at h
  | (key, value) :: entries, (key', value') :: entries', hexact, h => by
    simp only [everywhereEntries, Bool.and_eq_true] at hexact
    simp only [canonicalEntries, List.cons.injEq, Prod.mk.injEq] at h
    simp only [SameEntries]
    exact ⟨h.1.1, sameUpToKind_of_canonical_eq value value' hexact.1 h.1.2,
      sameEntries_of_canonical_eq entries entries' hexact.2 h.2⟩

end

/-- The canonical form of an integer. -/
theorem canonical_eq_ofInt {value : Value} {n : ℤ} (h : integer? value = some n) :
    value.canonical = ofInt n := by
  cases value <;> simp [integer?] at h <;> rw [canonical, h]

theorem canonical_canonical_of_integer {value : Value} {n : ℤ} (h : integer? value = some n) :
    value.canonical.canonical = value.canonical := by
  rw [canonical_eq_ofInt ((integer?_canonical value).trans h), canonical_eq_ofInt h]

mutual

/-- The canonical form is canonical. -/
theorem canonical_canonical : ∀ value : Value, value.canonical.canonical = value.canonical
  | int _ => canonical_canonical_of_integer rfl
  | uint _ => canonical_canonical_of_integer rfl
  | longlong _ => canonical_canonical_of_integer rfl
  | ulonglong _ => canonical_canonical_of_integer rfl
  | array elements => by
    rw [canonical, canonical, canonicalElements_canonicalElements elements]
  | hash entries => by
    rw [canonical, canonical, canonicalEntries_canonicalEntries entries]
  | null => rfl
  | bool _ => rfl
  | double _ => rfl
  | longDouble _ => rfl
  | string _ => rfl
  | foreign _ => rfl

theorem canonicalElements_canonicalElements : ∀ elements : List Value,
    canonicalElements (canonicalElements elements) = canonicalElements elements
  | [] => rfl
  | value :: elements => by
    rw [canonicalElements, canonicalElements, canonical_canonical value,
      canonicalElements_canonicalElements elements]

theorem canonicalEntries_canonicalEntries : ∀ entries : List (Bytes × Value),
    canonicalEntries (canonicalEntries entries) = canonicalEntries entries
  | [] => rfl
  | (key, value) :: entries => by
    rw [canonicalEntries, canonicalEntries, canonical_canonical value,
      canonicalEntries_canonicalEntries entries]

end

/-- **A value and its canonical form** are the same up to the types of their integers. -/
theorem sameUpToKind_canonical {value : Value} (h : value.Exact) :
    SameUpToKind value value.canonical :=
  sameUpToKind_of_canonical_eq value value.canonical h (canonical_canonical value).symm

end Touchless.Value
