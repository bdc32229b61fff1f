import Touchless.Utility.ValueRoundTrip

/-!
# What can be in a value that was read

The reader builds ordered hashes and no foreign objects (`ordered_readFrom`,
`foreignFree_readFrom`), and no key it reads back from a written hash has a NUL
(`nulFree_keys_asReadEntries`).

Values that agree up to the C++ types of integers have the same text (`writeBody_of_same`), so for
the comparison `operator==` of the class they are equal.
-/

namespace Touchless.Value

variable {floats : FloatText}

/-! ### What the reader builds -/

/-- The result of a read, if there is one, satisfies `P`. -/
def Yields {α : Type} (P : α → Prop) (r : Except Fault α) : Prop := ∀ a, r = .ok a → P a

theorem Yields.bind {α β : Type} {P : α → Prop} {Q : β → Prop} {r : Except Fault α}
    {f : α → Except Fault β} (hr : Yields P r) (hf : ∀ a, P a → Yields Q (f a)) :
    Yields Q (r >>= f) := by
  cases r with
  | ok a => exact hf a (hr a rfl)
  | error e => exact fun b hb ↦ nomatch hb

theorem Yields.ite {α : Type} {P : α → Prop} {c : Prop} [Decidable c] {r r' : Except Fault α}
    (hr : Yields P r) (hr' : Yields P r') : Yields P (if c then r else r') := by
  split_ifs
  · exact hr
  · exact hr'

theorem yields_pure {α : Type} {P : α → Prop} {a : α} (h : P a) :
    Yields P (pure a : Except Fault α) := by
  rintro _ ⟨⟩
  exact h

theorem yields_throw {α : Type} {P : α → Prop} : Yields P (throw Fault.thrown : Except Fault α) :=
  fun _ h ↦ nomatch h

/-- Nothing need be known of an intermediate result. -/
theorem Yields.skip {α β : Type} {Q : β → Prop} {r : Except Fault α} {f : α → Except Fault β}
    (hf : ∀ a, Yields Q (f a)) : Yields Q (r >>= f) :=
  Yields.bind (P := fun _ ↦ True) (fun _ _ ↦ trivial) fun a _ ↦ hf a

/-- What the reader makes itself: ordered hashes, and no object of a type it does not know. -/
def readerType (value : Value) : Bool := orderedEntries value && foreignFreeType value

theorem readInteger_readerType (positive : Bool) (n : ℕ) :
    (readInteger positive n).everywhere readerType = true := by
  simp only [readInteger]
  split_ifs <;> rfl

theorem parseNumber_readerType (stream : Bytes) :
    Yields (fun r ↦ r.1.everywhere readerType = true) (parseNumber floats stream) :=
  Yields.skip fun _ ↦ Yields.skip fun _ ↦ Yields.skip fun _ ↦ Yields.skip fun _ ↦
    Yields.ite (yields_pure rfl) (yields_pure (readInteger_readerType _ _))

/-- **The reader builds ordered hashes without foreign objects.** -/
theorem parseValue_readerType (floats : FloatText) : ∀ fuel : ℕ,
    (∀ stream, Yields (fun r ↦ r.1.everywhere readerType = true) (parseValue floats fuel stream)) ∧
    (∀ entries stream, SortedAssoc.Sorted entries → everywhereEntries readerType entries = true →
      Yields (fun r ↦ r.1.everywhere readerType = true)
        (parseObjectLoop floats fuel entries stream)) ∧
    (∀ elements stream, everywhereElements readerType elements = true →
      Yields (fun r ↦ r.1.everywhere readerType = true)
        (parseArrayLoop floats fuel elements stream)) := by
  intro fuel
  induction fuel with
  | zero => simp [Yields, parseValue, parseObjectLoop, parseArrayLoop]
  | succ fuel ih =>
    obtain ⟨ihValue, ihObject, ihArray⟩ := ih
    refine ⟨fun stream ↦ ?_, fun entries stream hsorted hentries ↦ ?_,
      fun elements stream helements ↦ ?_⟩
    · rw [parseValue]
      -- an object, an array, or neither
      refine Yields.skip fun rest ↦ Yields.skip fun c ↦ Yields.ite ?_ (Yields.ite ?_ ?_)
      · exact Yields.skip fun _ ↦ ihObject _ _ SortedAssoc.sorted_nil rfl
      · exact Yields.skip fun _ ↦ ihArray _ _ rfl
      · refine Yields.ite (Yields.skip fun _ ↦ yields_pure rfl) ?_
        refine Yields.ite (Yields.skip fun _ ↦ yields_pure rfl) ?_
        refine Yields.ite (Yields.skip fun _ ↦ yields_pure rfl) ?_
        exact Yields.ite (Yields.skip fun _ ↦ yields_pure rfl) (parseNumber_readerType rest)
    · rw [parseObjectLoop]
      refine Yields.skip fun rest ↦ Yields.skip fun c ↦
        Yields.ite (Yields.ite yields_throw ?_) (Yields.ite ?_ ?_)
      · exact Yields.skip fun _ ↦ ihObject _ _ hsorted hentries
      · refine Yields.skip fun _ ↦ yields_pure ?_
        simp [everywhere, readerType, orderedEntries, foreignFreeType, hsorted, hentries]
      · refine Yields.skip fun key ↦ Yields.skip fun _ ↦ Yields.skip fun s ↦ ?_
        refine (ihValue s).bind fun r hr ↦ ?_
        exact ihObject _ _ (hsorted.insert _ _) (everywhereEntries_insert hentries _ hr)
    · rw [parseArrayLoop]
      refine Yields.skip fun rest ↦ Yields.skip fun c ↦
        Yields.ite (Yields.ite yields_throw ?_) (Yields.ite ?_ ?_)
      · exact Yields.skip fun _ ↦ ihArray _ _ helements
      · refine Yields.skip fun _ ↦ yields_pure ?_
        simp [everywhere, readerType, orderedEntries, foreignFreeType, helements]
      · refine (ihValue rest).bind fun r hr ↦ ihArray _ _ ?_
        rw [everywhereElements_iff] at helements ⊢
        intro value hvalue
        rcases List.mem_append.1 hvalue with hvalue | hvalue
        · exact helements value hvalue
        · rw [List.mem_singleton.1 hvalue]
          exact hr

theorem readFrom_readerType (stream : Bytes) :
    (readFrom floats stream).everywhere readerType = true := by
  rw [readFrom]
  split
  · next value rest h => exact (parseValue_readerType floats _).1 stream _ h
  · rfl

theorem ordered_readFrom (stream : Bytes) : (readFrom floats stream).Ordered :=
  ((everywhere_and _).1 (readFrom_readerType stream)).1

theorem foreignFree_readFrom (stream : Bytes) : (readFrom floats stream).ForeignFree :=
  ((everywhere_and _).1 (readFrom_readerType stream)).2

/-- No key of a hash that was written and read has a NUL. -/
theorem nulFree_keys_asReadEntries (entries : List (Bytes × Value)) :
    ∀ e ∈ asReadEntries entries [], 0 ∉ e.1 := by
  have hfold : ∀ (entries done : List (Bytes × Value)), (∀ e ∈ done, 0 ∉ e.1) →
      ∀ e ∈ asReadEntries entries done, 0 ∉ e.1 := by
    intro entries
    induction entries with
    | nil => exact fun done h ↦ h
    | cons e entries ih =>
      obtain ⟨key, value⟩ := e
      intro done h
      refine ih _ fun e he ↦ ?_
      rcases SortedAssoc.mem_insert he with rfl | he
      · exact fun hmem ↦ by simpa using List.mem_takeWhile_imp hmem
      · exact h e he
  exact hfold entries [] (by simp)

/-! ### Values that agree -/

/-- An integer is written in decimal notation, whatever its C++ type. -/
theorem writeBody_of_integer? {value : Value} {n : ℤ} (h : integer? value = some n)
    (asJSON escapeSlashes : Bool) (indent : ℤ) :
    writeBody floats asJSON escapeSlashes value indent = decimalInt n := by
  cases value <;> simp only [integer?, Option.some.injEq, reduceCtorEq] at h <;>
    simp only [writeBody, decimal_eq_decimalInt, h]

mutual

/-- **Values that agree up to the C++ types of integers are written alike.** -/
theorem writeBody_of_same (asJSON escapeSlashes : Bool) : ∀ value other : Value,
    SameUpToKind value other → ∀ indent : ℤ,
      writeBody floats asJSON escapeSlashes value indent =
        writeBody floats asJSON escapeSlashes other indent
  | null, other, h, indent => by cases other <;> simp_all [SameUpToKind]
  | bool _, other, h, indent => by cases other <;> simp_all [SameUpToKind]
  | string _, other, h, indent => by cases other <;> simp_all [SameUpToKind]
  | double _, other, h, indent => by simp [SameUpToKind] at h
  | longDouble _, other, h, indent => by simp [SameUpToKind] at h
  | foreign _, other, h, indent => by simp [SameUpToKind] at h
  | int n, other, h, indent => by
    have hother : integer? other = some n.toInt := by simpa [SameUpToKind] using h
    rw [writeBody_of_integer? hother, writeBody_of_integer? (rfl : integer? (int n) = _)]
  | uint n, other, h, indent => by
    have hother : integer? other = some (n.toNat : ℤ) := by simpa only [SameUpToKind] using h
    rw [writeBody_of_integer? hother, writeBody_of_integer? (rfl : integer? (uint n) = _)]
  | longlong n, other, h, indent => by
    have hother : integer? other = some n.toInt := by simpa [SameUpToKind] using h
    rw [writeBody_of_integer? hother, writeBody_of_integer? (rfl : integer? (longlong n) = _)]
  | ulonglong n, other, h, indent => by
    have hother : integer? other = some (n.toNat : ℤ) := by simpa only [SameUpToKind] using h
    rw [writeBody_of_integer? hother, writeBody_of_integer? (rfl : integer? (ulonglong n) = _)]
  | array elements, other, h, indent => by
    cases other with
    | array elements' =>
      simp only [SameUpToKind] at h
      simp only [writeBody, writeElements_of_same asJSON escapeSlashes elements elements' h]
    | _ => simp [SameUpToKind] at h
  | hash entries, other, h, indent => by
    cases other with
    | hash entries' =>
      simp only [SameUpToKind] at h
      simp only [writeBody, writeEntries_of_same asJSON escapeSlashes entries entries' h]
    | _ => simp [SameUpToKind] at h

theorem writeElements_of_same (asJSON escapeSlashes : Bool) : ∀ elements others : List Value,
    SameElements elements others → ∀ (indent : ℤ) (first : Bool),
      writeElements floats asJSON escapeSlashes elements indent first =
        writeElements floats asJSON escapeSlashes others indent first
  | [], [], _, _, _ => rfl
  | [], _ :: _, h, _, _ => by simp [SameElements] at h
  | _ :: _, [], h, _, _ => by simp [SameElements] at h
  | value :: elements, other :: others, h, indent, first => by
    simp only [SameElements] at h
    simp only [writeElements, writeBody_of_same asJSON escapeSlashes value other h.1,
      writeElements_of_same asJSON escapeSlashes elements others h.2]

theorem writeEntries_of_same (asJSON escapeSlashes : Bool) :
    ∀ entries others : List (Bytes × Value), SameEntries entries others →
      ∀ (indent : ℤ) (first : Bool),
        writeEntries floats asJSON escapeSlashes entries indent first =
          writeEntries floats asJSON escapeSlashes others indent first
  | [], [], _, _, _ => rfl
  | [], _ :: _, h, _, _ => by simp [SameEntries] at h
  | _ :: _, [], h, _, _ => by simp [SameEntries] at h
  | (key, value) :: entries, (key', other) :: others, h, indent, first => by
    simp only [SameEntries] at h
    simp only [writeEntries, h.1, writeBody_of_same asJSON escapeSlashes value other h.2.1,
      writeEntries_of_same asJSON escapeSlashes entries others h.2.2]

end

theorem toJSON_of_same {value other : Value} (h : SameUpToKind value other)
    (escapeSlashes prettify : Bool) :
    value.toJSON floats escapeSlashes prettify = other.toJSON floats escapeSlashes prettify := by
  simp only [toJSON, toStream, write, writeBody_of_same true escapeSlashes value other h]

/-- Only a hash agrees with a hash. -/
theorem sameUpToKind_hash {entries : List (Bytes × Value)} {other : Value}
    (h : SameUpToKind (hash entries) other) :
    ∃ others, other = hash others ∧ SameEntries entries others := by
  cases other with
  | hash others => exact ⟨others, rfl, by simpa only [SameUpToKind] using h⟩
  | _ => simp [SameUpToKind] at h

/-- Hashes that agree have the same keys. -/
theorem keys_of_same : ∀ {entries others : List (Bytes × Value)}, SameEntries entries others →
    entries.map Prod.fst = others.map Prod.fst
  | [], [], _ => rfl
  | [], _ :: _, h => by simp [SameEntries] at h
  | _ :: _, [], h => by simp [SameEntries] at h
  | (key, value) :: entries, (key', other) :: others, h => by
    simp only [SameEntries] at h
    simp only [List.map_cons, h.1, keys_of_same h.2.2]

mutual

/-- What agrees with a value is only asked of values without foreign objects and floats. -/
theorem exact_of_same : ∀ value other : Value, SameUpToKind value other → value.Exact
  | null, _, _ | bool _, _, _ | string _, _, _ | int _, _, _ | uint _, _, _ | longlong _, _, _
  | ulonglong _, _, _ => by simp [Exact, everywhere, exactType]
  | double _, _, h => by simp [SameUpToKind] at h
  | longDouble _, _, h => by simp [SameUpToKind] at h
  | foreign _, _, h => by simp [SameUpToKind] at h
  | array elements, other, h => by
    cases other with
    | array others =>
      simp only [SameUpToKind] at h
      simp only [Exact, everywhere, exactType, Bool.true_and]
      exact exactElements_of_same elements others h
    | _ => simp [SameUpToKind] at h
  | hash entries, other, h => by
    cases other with
    | hash others =>
      simp only [SameUpToKind] at h
      simp only [Exact, everywhere, exactType, Bool.true_and]
      exact exactEntries_of_same entries others h
    | _ => simp [SameUpToKind] at h

theorem exactElements_of_same : ∀ elements others : List Value, SameElements elements others →
    everywhereElements exactType elements = true
  | [], _, _ => rfl
  | _ :: _, [], h => by simp [SameElements] at h
  | value :: elements, other :: others, h => by
    simp only [SameElements] at h
    rw [everywhereElements, Bool.and_eq_true]
    exact ⟨exact_of_same value other h.1, exactElements_of_same elements others h.2⟩

theorem exactEntries_of_same : ∀ entries others : List (Bytes × Value), SameEntries entries others →
    everywhereEntries exactType entries = true
  | [], _, _ => rfl
  | _ :: _, [], h => by simp [SameEntries] at h
  | (_, value) :: entries, (_, other) :: others, h => by
    simp only [SameEntries] at h
    rw [everywhereEntries, Bool.and_eq_true]
    exact ⟨exact_of_same value other h.2.1, exactEntries_of_same entries others h.2.2⟩

end

end Touchless.Value
