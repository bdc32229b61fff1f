import Touchless.Utility.Value

/-!
# What the text of a value can say

The writer puts nothing on the stream for an object of a type the class has no case for. Where such
a foreign object is a later element of an array, its place is an empty one between two commas, which
the reader passes over; where it is the only element, the array reads as the empty one. Anywhere
else the reader throws. `legible` tells which values have a text that can be read, and `known` is
what is left of them: the value without the foreign elements of its arrays.

What is left of a legible value has no foreign object (`foreignFree_known`), and a value without
foreign objects is legible and left as it is (`legible_of_foreignFree`, `known_of_foreignFree`).
-/

namespace Touchless.Value

variable {p q : Value → Bool}

/-! ### What the reader makes of a value -/

/-- The mathematical value of an integer. -/
def integer? : Value → Option ℤ
  | int n => some n.toInt
  | uint n => some (n.toNat : ℤ)
  | longlong n => some n.toInt
  | ulonglong n => some (n.toNat : ℤ)
  | _ => none

/-- The reader's value for an integer. -/
def ofInteger (n : ℤ) : Value := readInteger (0 ≤ n) n.natAbs

mutual

/-- The value the reader returns for the text of a value. -/
def asRead : Value → Value
  | int n => ofInteger n.toInt
  | uint n => ofInteger n.toNat
  | longlong n => ofInteger n.toInt
  | ulonglong n => ofInteger n.toNat
  | string s => string (cString s)
  | array elements => array (asReadElements elements)
  | hash entries => hash (asReadEntries entries [])
  | null => null
  | bool b => bool b
  | double bits => double bits
  | longDouble bits => longDouble bits
  | foreign typeName => foreign typeName

/-- The elements as they are read. -/
def asReadElements : List Value → List Value
  | [] => []
  | value :: elements => asRead value :: asReadElements elements

/-- The entries as they are read, inserted into those read before. -/
def asReadEntries : List (Bytes × Value) → List (Bytes × Value) → List (Bytes × Value)
  | [], done => done
  | (key, value) :: entries, done =>
    asReadEntries entries (SortedAssoc.insert (cString key) (asRead value) done)

end

mutual

/-- A test that holds of a value and of all values in it. -/
def everywhere (p : Value → Bool) : Value → Bool
  | array elements => p (array elements) && everywhereElements p elements
  | hash entries => p (hash entries) && everywhereEntries p entries
  | value => p value

/-- The test holds throughout the elements. -/
def everywhereElements (p : Value → Bool) : List Value → Bool
  | [] => true
  | value :: elements => everywhere p value && everywhereElements p elements

/-- The test holds throughout the values of the entries. -/
def everywhereEntries (p : Value → Bool) : List (Bytes × Value) → Bool
  | [] => true
  | (_, value) :: entries => everywhere p value && everywhereEntries p entries

end

/-- Is the value of a type that JSON text can carry exactly? Floating-point numbers are printed
rounded, and a foreign object is not printed at all. -/
def exactType : Value → Bool
  | double _ => false
  | longDouble _ => false
  | foreign _ => false
  | _ => true

/-- Do the value itself and its keys have no NUL? -/
def nulFreeText : Value → Bool
  | string s => decide (0 ∉ s)
  | hash entries => entries.all fun p ↦ decide (0 ∉ p.1)
  | _ => true

/-- Are the entries in key order, as in a `std::map`? -/
def orderedEntries : Value → Bool
  | hash entries => decide (SortedAssoc.Sorted entries)
  | _ => true

/-- Is the value no floating-point number? -/
def floatFreeType : Value → Bool
  | double _ => false
  | longDouble _ => false
  | _ => true

/-- Is the value of a type the class has a case for? -/
def foreignFreeType : Value → Bool
  | foreign _ => false
  | _ => true

/-- No floating-point number and no foreign object in the value. -/
def Exact (value : Value) : Prop := value.everywhere exactType = true

/-- No floating-point number in the value. -/
def FloatFree (value : Value) : Prop := value.everywhere floatFreeType = true

/-- No foreign object in the value. -/
def ForeignFree (value : Value) : Prop := value.everywhere foreignFreeType = true

/-- No NUL in any string or key of the value. -/
def NulFree (value : Value) : Prop := value.everywhere nulFreeText = true

/-- Every hash in the value is a `std::map`. -/
def Ordered (value : Value) : Prop := value.everywhere orderedEntries = true

instance (value : Value) : Decidable value.Exact := inferInstanceAs (Decidable (_ = _))
instance (value : Value) : Decidable value.FloatFree := inferInstanceAs (Decidable (_ = _))
instance (value : Value) : Decidable value.ForeignFree := inferInstanceAs (Decidable (_ = _))
instance (value : Value) : Decidable value.NulFree := inferInstanceAs (Decidable (_ = _))
instance (value : Value) : Decidable value.Ordered := inferInstanceAs (Decidable (_ = _))

/-! ### Tests that hold everywhere -/

theorem of_everywhere {value : Value} (h : value.everywhere p = true) : p value = true := by
  cases value with
  | array elements => exact (Bool.and_eq_true_iff.1 h).1
  | hash entries => exact (Bool.and_eq_true_iff.1 h).1
  | _ => exact h

mutual

theorem everywhere_and : ∀ value : Value, value.everywhere (fun v ↦ p v && q v) = true ↔
    value.everywhere p = true ∧ value.everywhere q = true
  | null | bool _ | int _ | uint _ | longlong _ | ulonglong _ | double _ | longDouble _ | string _
  | foreign _ => by simp [everywhere]
  | array elements => by
    simp only [everywhere, Bool.and_eq_true, everywhereElements_and elements]
    tauto
  | hash entries => by
    simp only [everywhere, Bool.and_eq_true, everywhereEntries_and entries]
    tauto

theorem everywhereElements_and : ∀ elements : List Value,
    everywhereElements (fun v ↦ p v && q v) elements = true ↔
      everywhereElements p elements = true ∧ everywhereElements q elements = true
  | [] => by simp [everywhereElements]
  | value :: elements => by
    simp only [everywhereElements, Bool.and_eq_true, everywhere_and value,
      everywhereElements_and elements]
    tauto

theorem everywhereEntries_and : ∀ entries : List (Bytes × Value),
    everywhereEntries (fun v ↦ p v && q v) entries = true ↔
      everywhereEntries p entries = true ∧ everywhereEntries q entries = true
  | [] => by simp [everywhereEntries]
  | (_, value) :: entries => by
    simp only [everywhereEntries, Bool.and_eq_true, everywhere_and value,
      everywhereEntries_and entries]
    tauto

end

/-- JSON text carries exactly the values without floating-point numbers and foreign objects. -/
theorem exact_iff (value : Value) : value.Exact ↔ value.FloatFree ∧ value.ForeignFree := by
  have htype : exactType = fun v ↦ floatFreeType v && foreignFreeType v := by
    funext v
    cases v <;> rfl
  rw [Exact, FloatFree, ForeignFree, htype]
  exact everywhere_and value

theorem everywhereEntries_iff {entries : List (Bytes × Value)} :
    everywhereEntries p entries = true ↔ ∀ e ∈ entries, e.2.everywhere p = true := by
  induction entries with
  | nil => simp [everywhereEntries]
  | cons e entries ih =>
    obtain ⟨key, value⟩ := e
    simp [everywhereEntries, ih]

theorem everywhereElements_iff {elements : List Value} :
    everywhereElements p elements = true ↔ ∀ value ∈ elements, value.everywhere p = true := by
  induction elements with
  | nil => simp [everywhereElements]
  | cons value elements ih => simp [everywhereElements, ih]

/-- A test that holds in a hash and in a value holds in the hash with the value inserted. -/
theorem everywhereEntries_insert {entries : List (Bytes × Value)}
    (hentries : everywhereEntries p entries = true) (key : Bytes) {value : Value}
    (hvalue : value.everywhere p = true) :
    everywhereEntries p (SortedAssoc.insert key value entries) = true := by
  rw [everywhereEntries_iff] at hentries ⊢
  intro e he
  rcases SortedAssoc.mem_insert he with rfl | he
  · exact hvalue
  · exact hentries e he

/-! ### Foreign objects -/

/-- Only an object of a type the class has no case for is foreign. -/
theorem foreignFreeType_eq_false_iff (value : Value) :
    foreignFreeType value = false ↔ ∃ typeName, value = foreign typeName := by
  cases value <;> simp [foreignFreeType]

/-- Does a comma follow the opening bracket? It does where the first of several elements is foreign.
-/
def emptyFirst : List Value → Bool
  | value :: _ :: _ => !foreignFreeType value
  | _ => false

mutual

/-- Can the reader make anything of the text of a value? -/
def legible : Value → Bool
  | foreign _ => false
  | array elements => !emptyFirst elements && legibleElements elements
  | hash entries => legibleEntries entries
  | _ => true

/-- The later elements of an array: between commas nothing is as good as a value. -/
def legibleElements : List Value → Bool
  | [] => true
  | value :: elements => (!foreignFreeType value || legible value) && legibleElements elements

/-- The entries of a hash: behind a colon there must be a value. -/
def legibleEntries : List (Bytes × Value) → Bool
  | [] => true
  | (_, value) :: entries => legible value && legibleEntries entries

end

mutual

/-- What is left of a value in its text: everything but the foreign elements of its arrays. -/
def known : Value → Value
  | array elements => array (knownElements elements)
  | hash entries => hash (knownEntries entries)
  | value => value

/-- The elements that are left. -/
def knownElements : List Value → List Value
  | [] => []
  | value :: elements =>
    if foreignFreeType value then known value :: knownElements elements
    else knownElements elements

/-- The entries, with what is left of their values. -/
def knownEntries : List (Bytes × Value) → List (Bytes × Value)
  | [] => []
  | (key, value) :: entries => (key, known value) :: knownEntries entries

end

theorem knownEntries_eq_map (entries : List (Bytes × Value)) :
    knownEntries entries = entries.map fun e ↦ (e.1, e.2.known) := by
  induction entries with
  | nil => rfl
  | cons e entries ih => rw [knownEntries, ih, List.map_cons]

theorem legibleEntries_iff {entries : List (Bytes × Value)} :
    legibleEntries entries = true ↔ ∀ e ∈ entries, e.2.legible = true := by
  induction entries with
  | nil => simp [legibleEntries]
  | cons e entries ih => simp [legibleEntries, ih]

mutual

/-- A value without foreign objects can be read. -/
theorem legible_of_foreignFree : ∀ value : Value, value.ForeignFree → value.legible = true
  | null, _ | bool _, _ | int _, _ | uint _, _ | longlong _, _ | ulonglong _, _ | double _, _
  | longDouble _, _ | string _, _ => by simp [legible]
  | foreign _, h => absurd h (by simp [ForeignFree, everywhere, foreignFreeType])
  | array elements, h => by
    simp only [ForeignFree, everywhere, Bool.and_eq_true] at h
    rw [legible, Bool.and_eq_true]
    refine ⟨?_, legibleElements_of_foreignFree elements h.2⟩
    match elements, h.2 with
    | [], _ => rfl
    | [_], _ => rfl
    | value :: _ :: _, hall =>
      rw [everywhereElements, Bool.and_eq_true] at hall
      simp [emptyFirst, of_everywhere hall.1]
  | hash entries, h => by
    simp only [ForeignFree, everywhere, Bool.and_eq_true] at h
    rw [legible]
    exact legibleEntries_of_foreignFree entries h.2

theorem legibleElements_of_foreignFree : ∀ elements : List Value,
    everywhereElements foreignFreeType elements = true → legibleElements elements = true
  | [], _ => by simp [legibleElements]
  | value :: elements, h => by
    rw [everywhereElements, Bool.and_eq_true] at h
    rw [legibleElements, legible_of_foreignFree value h.1,
      legibleElements_of_foreignFree elements h.2, Bool.or_true, Bool.and_true]

theorem legibleEntries_of_foreignFree : ∀ entries : List (Bytes × Value),
    everywhereEntries foreignFreeType entries = true → legibleEntries entries = true
  | [], _ => by simp [legibleEntries]
  | (_, value) :: entries, h => by
    rw [everywhereEntries, Bool.and_eq_true] at h
    rw [legibleEntries, legible_of_foreignFree value h.1,
      legibleEntries_of_foreignFree entries h.2, Bool.and_true]

end

mutual

/-- Nothing is lost of a value without foreign objects. -/
theorem known_of_foreignFree : ∀ value : Value, value.ForeignFree → value.known = value
  | null, _ | bool _, _ | int _, _ | uint _, _ | longlong _, _ | ulonglong _, _ | double _, _
  | longDouble _, _ | string _, _ | foreign _, _ => by simp [known]
  | array elements, h => by
    simp only [ForeignFree, everywhere, Bool.and_eq_true] at h
    rw [known, knownElements_of_foreignFree elements h.2]
  | hash entries, h => by
    simp only [ForeignFree, everywhere, Bool.and_eq_true] at h
    rw [known, knownEntries_of_foreignFree entries h.2]

theorem knownElements_of_foreignFree : ∀ elements : List Value,
    everywhereElements foreignFreeType elements = true → knownElements elements = elements
  | [], _ => by simp [knownElements]
  | value :: elements, h => by
    rw [everywhereElements, Bool.and_eq_true] at h
    rw [knownElements, if_pos (of_everywhere h.1), known_of_foreignFree value h.1,
      knownElements_of_foreignFree elements h.2]

theorem knownEntries_of_foreignFree : ∀ entries : List (Bytes × Value),
    everywhereEntries foreignFreeType entries = true → knownEntries entries = entries
  | [], _ => by simp [knownEntries]
  | (_, value) :: entries, h => by
    rw [everywhereEntries, Bool.and_eq_true] at h
    rw [knownEntries, known_of_foreignFree value h.1, knownEntries_of_foreignFree entries h.2]

end

mutual

/-- What is left of a legible value has no foreign object. -/
theorem foreignFree_known : ∀ value : Value, value.legible = true → value.known.ForeignFree
  | null, _ | bool _, _ | int _, _ | uint _, _ | longlong _, _ | ulonglong _, _ | double _, _
  | longDouble _, _ | string _, _ => by simp [known, ForeignFree, everywhere, foreignFreeType]
  | foreign _, h => by simp [legible] at h
  | array elements, h => by
    rw [legible, Bool.and_eq_true] at h
    simp only [known, ForeignFree, everywhere, foreignFreeType, Bool.true_and]
    exact foreignFree_knownElements elements h.2
  | hash entries, h => by
    rw [legible] at h
    simp only [known, ForeignFree, everywhere, foreignFreeType, Bool.true_and]
    exact foreignFree_knownEntries entries h

theorem foreignFree_knownElements : ∀ elements : List Value, legibleElements elements = true →
    everywhereElements foreignFreeType (knownElements elements) = true
  | [], _ => by simp [knownElements, everywhereElements]
  | value :: elements, h => by
    rw [legibleElements, Bool.and_eq_true] at h
    have hlater := foreignFree_knownElements elements h.2
    cases hforeign : foreignFreeType value with
    | false => simpa [knownElements, hforeign] using hlater
    | true =>
      have hvalue : value.known.ForeignFree :=
        foreignFree_known value (by simpa [hforeign] using h.1)
      rw [knownElements, if_pos hforeign, everywhereElements, Bool.and_eq_true]
      exact ⟨hvalue, hlater⟩

theorem foreignFree_knownEntries : ∀ entries : List (Bytes × Value),
    legibleEntries entries = true →
    everywhereEntries foreignFreeType (knownEntries entries) = true
  | [], _ => by simp [knownEntries, everywhereEntries]
  | (_, value) :: entries, h => by
    rw [legibleEntries, Bool.and_eq_true] at h
    rw [knownEntries, everywhereEntries, Bool.and_eq_true]
    exact ⟨foreignFree_known value h.1, foreignFree_knownEntries entries h.2⟩

end

/-- A test that asks nothing of the elements of an array, and of a hash what it asks of the hash
with other values. -/
structure KeepsShape (p : Value → Bool) : Prop where
  array : ∀ elements elements', p (.array elements) = p (.array elements')
  hash : ∀ entries, p (.hash (knownEntries entries)) = p (.hash entries)

mutual

/-- Such a test holds throughout what is left of a value, if it holds throughout the value. -/
theorem everywhere_known (hp : KeepsShape p) : ∀ value : Value, value.everywhere p = true →
    value.known.everywhere p = true
  | null, h | bool _, h | int _, h | uint _, h | longlong _, h | ulonglong _, h | double _, h
  | longDouble _, h | string _, h | foreign _, h => by simpa [known] using h
  | array elements, h => by
    rw [everywhere, Bool.and_eq_true] at h
    rw [known, everywhere, Bool.and_eq_true, hp.array _ elements]
    exact ⟨h.1, everywhereElements_known hp elements h.2⟩
  | hash entries, h => by
    rw [everywhere, Bool.and_eq_true] at h
    rw [known, everywhere, Bool.and_eq_true, hp.hash]
    exact ⟨h.1, everywhereEntries_known hp entries h.2⟩

theorem everywhereElements_known (hp : KeepsShape p) : ∀ elements : List Value,
    everywhereElements p elements = true → everywhereElements p (knownElements elements) = true
  | [], _ => by simp [knownElements, everywhereElements]
  | value :: elements, h => by
    rw [everywhereElements, Bool.and_eq_true] at h
    have hlater := everywhereElements_known hp elements h.2
    rw [knownElements]
    split_ifs
    · rw [everywhereElements, Bool.and_eq_true]
      exact ⟨everywhere_known hp value h.1, hlater⟩
    · exact hlater

theorem everywhereEntries_known (hp : KeepsShape p) : ∀ entries : List (Bytes × Value),
    everywhereEntries p entries = true → everywhereEntries p (knownEntries entries) = true
  | [], _ => by simp [knownEntries, everywhereEntries]
  | (_, value) :: entries, h => by
    rw [everywhereEntries, Bool.and_eq_true] at h
    rw [knownEntries, everywhereEntries, Bool.and_eq_true]
    exact ⟨everywhere_known hp value h.1, everywhereEntries_known hp entries h.2⟩

end

theorem keepsShape_floatFreeType : KeepsShape floatFreeType := ⟨fun _ _ ↦ rfl, fun _ ↦ rfl⟩

theorem keepsShape_nulFreeText : KeepsShape nulFreeText where
  array _ _ := rfl
  hash entries := by simp [nulFreeText, knownEntries_eq_map, List.all_map, Function.comp_def]

theorem keepsShape_orderedEntries : KeepsShape orderedEntries where
  array _ _ := rfl
  hash entries := by
    simp only [orderedEntries, knownEntries_eq_map]
    exact decide_eq_decide.2
      (SortedAssoc.sorted_map (f := fun e : Bytes × Value ↦ (e.1, e.2.known)) fun _ ↦ rfl)

end Touchless.Value
