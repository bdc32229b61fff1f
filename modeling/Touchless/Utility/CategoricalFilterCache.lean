import Mathlib.Algebra.Order.BigOperators.Group.Finset
import Mathlib.Data.List.FinRange
import Mathlib.Data.Vector.Basic
import Touchless.Foundations.PartialRun
import Touchless.Foundations.SortedAssoc
import Touchless.Utility.RollingMean

/-!
# The categorical filter and its cache

`CategoricalFilter` of `Utility/CategoricalFilter.h` over a `RollingMean`, in exact arithmetic, with
everything it keeps: the category vector with the map from a category to its index, and the values
that the accessors compute when they are first asked for and keep until the next update. The window
of the rolling mean is set behind its back, through `getFilterAs`.

A call that returns is `some`: a failed assertion, and a division by zero, is `none`. An exception
is a result, and leaves the state that it finds.

Used as the program uses it, the filter never fails, and what it answers from its cache is what it
would compute anew (`answers_run`). A reset, which the program leaves to the constructor, fails its
own assertion when the window is greater than 2 (`neutral_reset_iff`).
-/

namespace Touchless

/-- The exceptions of `CategoricalFilter`. -/
inductive CategoryException where
  /-- `std::logic_error` -/
  | logicError
  /-- `std::out_of_range` -/
  | outOfRange
  deriving DecidableEq

/-- The `mutable` members but for the flag. A pointer into the category vector is the index it
points to, or `none` for `NULL`. -/
structure CategoryCache (count : ℕ) (K : Type) where
  maxProbabilityCategory : Option (Fin count)
  maxProbability : K
  filteredCategoryIsUnambiguous : Bool
  filteredCategory : Option (Fin count)
  probabilityVector : Fin count → K

/-- The members of `CategoricalFilter<Category, CATEGORY_COUNT>`. -/
structure CachedCategoricalFilter (Category : Type) [LinearOrder Category] (count : ℕ) (K : Type)
    where
  categories : List.Vector Category count
  indexMap : OrderedMap Category ℕ
  filter : RollingMoments count K
  uniformCategorizationThreshold : K
  valuesAreCached : Bool
  cache : CategoryCache count K

namespace CachedCategoricalFilter

variable {Category : Type} [LinearOrder Category] {count : ℕ} {K : Type} [Field K] [LinearOrder K]

/-- `ambiguousProbabilityVector`. -/
def ambiguousProbabilityVector (count : ℕ) (K : Type) [Field K] : Fin count → K :=
  fun _ ↦ 1 / count

/-- `ProbabilityVector::Unit`. -/
def unitVector (count : ℕ) (K : Type) [Field K] (index : ℕ) : Fin count → K :=
  fun i ↦ if i.val = index then 1 else 0

section Operations

variable (f : CachedCategoricalFilter Category count K)

/-- `updateWithProbabilityVector`. -/
def updateWithProbabilityVector (probVec : Fin count → K) (weight : K) :
    CachedCategoricalFilter Category count K :=
  { f with filter := f.filter.update ⟨probVec, 0⟩ weight, valuesAreCached := false }

/-- `indexOfCategory`. -/
def indexOfCategory (category : Category) : Except CategoryException ℕ :=
  match f.indexMap.find? category with
  | some index => .ok index
  | none => .error .outOfRange

/-- `updateWithCategory`. -/
def updateWithCategory (category : Category) (weight : K) :
    Except CategoryException (CachedCategoricalFilter Category count K) :=
  match f.indexOfCategory category with
  | .ok index => .ok (f.updateWithProbabilityVector (unitVector count K index) weight)
  | .error exception => .error exception

/-- `reset`. -/
def reset : Option (CachedCategoricalFilter Category count K) :=
  let filter := f.filter.reset.update ⟨ambiguousProbabilityVector count K, 0⟩ 1
  if filter.ready then some { f with filter := filter, valuesAreCached := false } else none

/-- `getFilterAs<RollingMean>().SetWindow`. -/
def setWindow (newWindow : K) : CachedCategoricalFilter Category count K :=
  { f with filter := f.filter.setWindow newWindow }

/-- One turn of the loop that determines the maximum probability. -/
def maxStep (probabilities : Fin count → K) (best : K × Option (Fin count)) (i : Fin count) :
    K × Option (Fin count) :=
  if best.2 = none ∨ best.1 < probabilities i then (probabilities i, some i) else best

/-- The values to cache, once the probabilities are normalized. -/
def valuesOf (threshold : K) (probabilityVector : Fin count → K) : CategoryCache count K :=
  let (maxProbability, category) :=
    (List.finRange count).foldl (maxStep probabilityVector) (0, none)
  { maxProbabilityCategory := category
    maxProbability := maxProbability
    filteredCategoryIsUnambiguous := if maxProbability ≥ threshold then true else false
    filteredCategory := if maxProbability ≥ threshold then category else none
    probabilityVector := probabilityVector }

/-- What `ensureValuesAreCached` computes. -/
def computeValues : Option (CategoryCache count K) :=
  if f.filter.ready = false then none
  -- `Predict` divides by `Integral`
  else if f.filter.nonZero ∧ f.filter.integral = 0 then none
  else
    let probabilities := f.filter.predict
    let normalizationFactor := ∑ i, probabilities i
    if (∀ i, 0 ≤ probabilities i) ∧ normalizationFactor > 1 / 10000000000 then
      some (valuesOf f.uniformCategorizationThreshold fun i ↦ probabilities i / normalizationFactor)
    else none

/-- `ensureValuesAreCached`. -/
def ensureValuesAreCached : Option (CachedCategoricalFilter Category count K) :=
  if f.valuesAreCached then some f
  else f.computeValues.map fun cache ↦ { f with valuesAreCached := true, cache := cache }

/-- `filteredCategoryIsUnambiguous`. -/
def filteredCategoryIsUnambiguous : Option (Bool × CachedCategoricalFilter Category count K) :=
  f.ensureValuesAreCached.map fun f ↦ (f.cache.filteredCategoryIsUnambiguous, f)

/-- `filteredCategory`. -/
def filteredCategory :
    Option (Except CategoryException Category × CachedCategoricalFilter Category count K) :=
  f.ensureValuesAreCached.bind fun f ↦
    if f.cache.filteredCategoryIsUnambiguous then
      match f.cache.filteredCategory with
      | some i => some (.ok (f.categories.get i), f)
      | none => none
    else some (.error .logicError, f)

/-- `probabilityVector`. -/
def probabilityVector : Option ((Fin count → K) × CachedCategoricalFilter Category count K) :=
  f.ensureValuesAreCached.map fun f ↦ (f.cache.probabilityVector, f)

end Operations

/-- The loop that generates the index map, from the index `i` on; `none` if a category comes
twice. -/
def buildIndexMap : List Category → ℕ → OrderedMap Category ℕ → Option (OrderedMap Category ℕ)
  | [], _, indexMap => some indexMap
  | c :: categories, i, indexMap =>
    if (indexMap.find? c).isSome then none
    else buildIndexMap categories (i + 1) (indexMap.insert c i)

/-- The constructor. -/
def construct (categories : List Category) (filter : RollingMoments count K) (threshold : K)
    (memory : CategoryCache count K) :
    Option (Except CategoryException (CachedCategoricalFilter Category count K)) :=
  if h : count > 0 ∧ categories.length = count ∧ 0 < threshold ∧ threshold ≤ 1 then
    match buildIndexMap categories 0 OrderedMap.empty with
    | some indexMap =>
      (reset ⟨⟨categories, h.2.1⟩, indexMap, filter, threshold, false, memory⟩).map Except.ok
    | none => some (.error .logicError)
  else none

/-- The calls on a filter, and on the rolling mean in it. -/
inductive Call (Category : Type) (count : ℕ) (K : Type) where
  | updateWithCategory (category : Category) (weight : K)
  | updateWithProbabilityVector (probVec : Fin count → K) (weight : K)
  | setWindow (newWindow : K)
  | reset
  | filteredCategoryIsUnambiguous
  | filteredCategory
  | probabilityVector

/-- One call; an exception is caught. -/
def exec (f : CachedCategoricalFilter Category count K) :
    Call Category count K → Option (CachedCategoricalFilter Category count K)
  | .updateWithCategory category weight =>
    match f.updateWithCategory category weight with
    | .ok f' => some f'
    | .error _ => some f
  | .updateWithProbabilityVector probVec weight =>
    some (f.updateWithProbabilityVector probVec weight)
  | .setWindow newWindow => some (f.setWindow newWindow)
  | .reset => f.reset
  | .filteredCategoryIsUnambiguous => f.filteredCategoryIsUnambiguous.map Prod.snd
  | .filteredCategory => f.filteredCategory.map Prod.snd
  | .probabilityVector => f.probabilityVector.map Prod.snd

/-- The calls of the program: updates of weight 1 with listed categories or normalized vectors, new
windows and accessors. -/
def Allowed (categories : List Category) : Call Category count K → Prop
  | .updateWithCategory category weight => category ∈ categories ∧ weight = 1
  | .updateWithProbabilityVector probVec weight =>
    (∀ i, 0 ≤ probVec i) ∧ ∑ i, probVec i = 1 ∧ weight = 1
  | .reset => False
  | _ => True

/-! ### The index map -/

theorem find?_buildIndexMap {categories : List Category} : ∀ {i : ℕ}
    {indexMap : OrderedMap Category ℕ}, categories.Nodup →
      (∀ c ∈ categories, indexMap.find? c = none) →
        ∃ result, buildIndexMap categories i indexMap = some result ∧
          (∀ j c, categories[j]? = some c → result.find? c = some (i + j)) ∧
          ∀ c, c ∉ categories → result.find? c = indexMap.find? c := by
  induction categories with
  | nil => exact fun _ _ ↦ ⟨_, rfl, fun j c h ↦ by simp at h, fun c _ ↦ rfl⟩
  | cons b categories ih =>
    intro i indexMap hnodup hfresh
    obtain ⟨hb, hnodup⟩ := List.nodup_cons.1 hnodup
    have hrest : ∀ c ∈ categories, (indexMap.insert b i).find? c = none := by
      intro c hc
      rw [OrderedMap.find?_insert_of_ne _ (fun heq : c = b ↦ hb (heq ▸ hc))]
      exact hfresh c (List.mem_cons_of_mem b hc)
    obtain ⟨result, hresult, hlisted, hother⟩ := ih hnodup hrest
    refine ⟨result, ?_, fun j c hget ↦ ?_, fun c hc ↦ ?_⟩
    · rw [buildIndexMap, hfresh b List.mem_cons_self]
      exact hresult
    · cases j with
      | zero =>
        obtain rfl : b = c := Option.some.inj hget
        rw [hother b hb, OrderedMap.find?_insert_self, add_zero]
      | succ j =>
        rw [hlisted j c hget]
        congr 1
        omega
    · obtain ⟨hne, hc⟩ := not_or.1 (mt List.mem_cons.2 hc)
      rw [hother c hc, OrderedMap.find?_insert_of_ne _ hne]

/-! ### The cached values -/

/-- The loop finds one of the largest entries. -/
theorem foldl_maxStep (p : Fin count → K) {indices : List (Fin count)} (hne : indices ≠ []) :
    ∃ j ∈ indices, (∀ k ∈ indices, p k ≤ p j) ∧
      indices.foldl (maxStep p) (0, none) = (p j, some j) := by
  induction indices using List.reverseRecOn with
  | nil => exact absurd rfl hne
  | append_singleton indices i ih =>
    rw [List.foldl_append, List.foldl_cons, List.foldl_nil]
    rcases eq_or_ne indices [] with rfl | hindices
    · exact ⟨i, by simp, by simp, by simp [maxStep]⟩
    · obtain ⟨j, hj, hmax, hfold⟩ := ih hindices
      rw [hfold]
      rcases lt_or_ge (p j) (p i) with hlt | hle
      · refine ⟨i, by simp, fun k hk ↦ ?_, if_pos (.inr hlt)⟩
        rcases List.mem_append.1 hk with hk | hk
        · exact (hmax k hk).trans hlt.le
        · rw [List.mem_singleton.1 hk]
      · refine ⟨j, List.mem_append_left _ hj, fun k hk ↦ ?_, if_neg (by simpa using hle)⟩
        rcases List.mem_append.1 hk with hk | hk
        · exact hmax k hk
        · rwa [List.mem_singleton.1 hk]

/-- What is cached for a vector: its largest entry decides. -/
theorem valuesOf_eq (hcount : 0 < count) (threshold : K) (p : Fin count → K) :
    ∃ j, (∀ k, p k ≤ p j) ∧ valuesOf threshold p =
      ⟨some j, p j, if p j ≥ threshold then true else false,
        if p j ≥ threshold then some j else none, p⟩ := by
  have hne : List.finRange count ≠ [] := by
    rw [ne_eq, List.finRange_eq_nil_iff]
    omega
  obtain ⟨j, -, hmax, hfold⟩ := foldl_maxStep p hne
  refine ⟨j, fun k ↦ hmax k (List.mem_finRange k), ?_⟩
  rw [valuesOf, hfold]

/-- A normalized probability vector. -/
structure Normalized (p : Fin count → K) : Prop where
  nonneg : ∀ i, 0 ≤ p i
  sum : ∑ i, p i = 1

variable [IsStrictOrderedRing K]

/-- Two entries of a normalized vector cannot both be greater than one half. -/
theorem Normalized.eq_of_lt {p : Fin count → K} (h : Normalized p) {threshold : K}
    (hthreshold : 1 / 2 < threshold) {i j : Fin count} (hi : threshold ≤ p i)
    (hj : threshold ≤ p j) : i = j := by
  by_contra hne
  have hpair : p i + p j ≤ ∑ k, p k := by
    rw [← Finset.sum_pair hne]
    exact Finset.sum_le_sum_of_subset_of_nonneg (Finset.subset_univ _) fun k _ _ ↦ h.nonneg k
  rw [h.sum] at hpair
  linarith

/-- The mean of normalized vectors is normalized. -/
theorem Normalized.combine {p q : Fin count → K} (hp : Normalized p) (hq : Normalized q) {t : K}
    (h0 : 0 ≤ t) (h1 : t ≤ 1) : Normalized (t • p + (1 - t) • q) where
  nonneg i := add_nonneg (mul_nonneg h0 (hp.nonneg i)) (mul_nonneg (sub_nonneg.2 h1) (hq.nonneg i))
  sum := by
    simp only [Pi.add_apply, Pi.smul_apply, smul_eq_mul, Finset.sum_add_distrib, ← Finset.mul_sum,
      hp.sum, hq.sum]
    ring

theorem normalized_unitVector {index : ℕ} (h : index < count) :
    Normalized (unitVector count K index) where
  nonneg i := by
    rw [unitVector]
    split_ifs <;> norm_num
  sum := by
    have hval : ∀ i : Fin count, i.val = index ↔ i = ⟨index, h⟩ := fun i ↦ by
      rw [Fin.ext_iff]
    simp [unitVector, hval]

theorem normalized_ambiguousProbabilityVector (h : 0 < count) :
    Normalized (ambiguousProbabilityVector count K) where
  nonneg i := one_div_nonneg.2 (Nat.cast_nonneg count)
  sum := by
    have hne : (count : K) ≠ 0 := Nat.cast_ne_zero.2 (by omega)
    simp [ambiguousProbabilityVector, hne]

/-! ### One call -/

/-- The filter between two calls of the program. -/
structure Settled (f : CachedCategoricalFilter Category count K) : Prop where
  nonZero : f.filter.nonZero = true
  integral : f.filter.integral = 1
  sample_pos : 0 < f.filter.sample
  sample_le : f.filter.sample ≤ 1
  p1 : Normalized f.filter.p1
  /-- what is cached is what would be computed -/
  cached : f.valuesAreCached = true →
    f.cache = valuesOf f.uniformCategorizationThreshold f.filter.p1

namespace Settled

variable {f : CachedCategoricalFilter Category count K}

omit [IsStrictOrderedRing K] in
/-- The mean is normalized as it is. -/
theorem predict_eq (h : Settled f) : f.filter.predict = f.filter.p1 := by
  rw [RollingMoments.predict, if_pos h.nonZero, h.integral]
  simp only [div_one]

/-- The values can be computed. -/
theorem computeValues_eq (h : Settled f) :
    f.computeValues = some (valuesOf f.uniformCategorizationThreshold f.filter.p1) := by
  have hready : f.filter.ready = true := by
    rw [RollingMoments.ready, h.integral, sub_self, if_neg h.sample_pos.not_gt]
  have hdivisor : ¬(f.filter.nonZero = true ∧ f.filter.integral = 0) := by
    rw [h.integral]
    simp
  rw [computeValues, if_neg (by simp [hready]), if_neg hdivisor, h.predict_eq]
  simp only [h.p1.sum, div_one]
  exact if_pos ⟨h.p1.nonneg, by norm_num⟩

/-- The state after the values have been computed, or found. -/
theorem ensureValuesAreCached_eq (h : Settled f) :
    f.ensureValuesAreCached = some { f with
      valuesAreCached := true
      cache := valuesOf f.uniformCategorizationThreshold f.filter.p1 } := by
  rw [ensureValuesAreCached]
  split_ifs with hcached
  · rw [← h.cached hcached, ← hcached]
  · rw [h.computeValues_eq]
    rfl

theorem update (h : Settled f) {probVec : Fin count → K} (hvector : Normalized probVec) :
    Settled (f.updateWithProbabilityVector probVec 1) where
  nonZero := rfl
  integral := by
    show 1 * f.filter.sample + (1 - 1 * f.filter.sample) * f.filter.integral = 1
    rw [h.integral]
    ring
  sample_pos := h.sample_pos
  sample_le := h.sample_le
  p1 := by
    show Normalized ((1 * f.filter.sample) • probVec + (1 - 1 * f.filter.sample) • f.filter.p1)
    rw [one_mul]
    exact hvector.combine h.p1 h.sample_pos.le h.sample_le
  cached hcached := Bool.noConfusion hcached

/-- The window has no influence on what is cached. -/
theorem setWindow (h : Settled f) (newWindow : K) : Settled (f.setWindow newWindow) := by
  have hsample : 0 < RollingMoments.newSample f.filter.sample newWindow ∧
      RollingMoments.newSample f.filter.sample newWindow ≤ 1 := by
    rw [RollingMoments.newSample]
    split_ifs with hwindow
    · have hpos := zero_lt_one.trans_le hwindow
      exact ⟨one_div_pos.2 hpos, (div_le_one hpos).2 hwindow⟩
    · exact ⟨h.sample_pos, h.sample_le⟩
  exact ⟨h.nonZero, h.integral, hsample.1, hsample.2, h.p1, h.cached⟩

omit [IsStrictOrderedRing K] in
/-- Computing the values keeps the filter settled. -/
theorem ensure (h : Settled f) : Settled { f with
    valuesAreCached := true
    cache := valuesOf f.uniformCategorizationThreshold f.filter.p1 } :=
  ⟨h.nonZero, h.integral, h.sample_pos, h.sample_le, h.p1, fun _ ↦ rfl⟩

/-- What the accessors answer, from the largest probability. -/
theorem accessors_eq (h : Settled f) (hcount : 0 < count) :
    ∃ j f', Settled f' ∧ (f'.filter = f.filter ∧ f'.categories = f.categories ∧
        f'.indexMap = f.indexMap ∧
        f'.uniformCategorizationThreshold = f.uniformCategorizationThreshold) ∧
      (∀ k, f.filter.p1 k ≤ f.filter.p1 j) ∧
      f.probabilityVector = some (f.filter.p1, f') ∧
      f.filteredCategoryIsUnambiguous =
        some (if f.filter.p1 j ≥ f.uniformCategorizationThreshold then true else false, f') ∧
      f.filteredCategory = some (if f.filter.p1 j ≥ f.uniformCategorizationThreshold then
        .ok (f.categories.get j) else .error .logicError, f') := by
  obtain ⟨j, hmax, hvalues⟩ := valuesOf_eq hcount f.uniformCategorizationThreshold f.filter.p1
  refine ⟨j, _, h.ensure, ⟨rfl, rfl, rfl, rfl⟩, hmax, ?_, ?_, ?_⟩
  · rw [probabilityVector, h.ensureValuesAreCached_eq]
    rfl
  · rw [filteredCategoryIsUnambiguous, h.ensureValuesAreCached_eq, Option.map_some, hvalues]
  · rw [filteredCategory, h.ensureValuesAreCached_eq, Option.bind_some, hvalues]
    by_cases hthreshold : f.filter.p1 j ≥ f.uniformCategorizationThreshold
    · simp only [hthreshold, if_true]
    · simp only [hthreshold, if_false, Bool.false_eq_true]

end Settled

/-- What a filter of the program keeps. -/
structure Invariant (categories : List Category) (threshold : K)
    (f : CachedCategoricalFilter Category count K) : Prop where
  settled : Settled f
  toList_categories : f.categories.toList = categories
  threshold_eq : f.uniformCategorizationThreshold = threshold
  index : ∀ i c, categories[i]? = some c → f.indexMap.find? c = some i

variable {categories : List Category} {threshold : K}

omit [IsStrictOrderedRing K] in
/-- An accessor changes nothing that the invariant is about. -/
theorem Invariant.of_accessor {f f' : CachedCategoricalFilter Category count K}
    (h : Invariant categories threshold f) (hsettled : Settled f')
    (hsame : f'.filter = f.filter ∧ f'.categories = f.categories ∧ f'.indexMap = f.indexMap ∧
      f'.uniformCategorizationThreshold = f.uniformCategorizationThreshold) :
    Invariant categories threshold f' := by
  obtain ⟨-, hcategories, hindexMap, hthreshold⟩ := hsame
  exact ⟨hsettled, hcategories ▸ h.toList_categories, hthreshold.trans h.threshold_eq,
    hindexMap ▸ h.index⟩

/-- **One call of the program** succeeds and keeps the invariant. -/
theorem invariant_exec {f : CachedCategoricalFilter Category count K} (hcount : 0 < count)
    (h : Invariant categories threshold f) {call : Call Category count K}
    (hallowed : Allowed categories call) :
    ∃ f', exec f call = some f' ∧ Invariant categories threshold f' := by
  obtain ⟨j, fAccessed, hsettled, hsame, -, hvector, hunambiguous, hcategory⟩ :=
    h.settled.accessors_eq hcount
  have haccessed := h.of_accessor hsettled hsame
  cases call with
  | updateWithCategory category weight =>
    obtain ⟨hmem, rfl⟩ := hallowed
    obtain ⟨i, hi, hget⟩ := List.mem_iff_getElem.1 hmem
    have hfind := h.index i category (by rw [List.getElem?_eq_getElem hi, hget])
    have hlt : i < count := by
      rw [← h.toList_categories, List.Vector.toList_length] at hi
      exact hi
    refine ⟨_, ?_, h.settled.update (normalized_unitVector hlt), h.toList_categories,
      h.threshold_eq, h.index⟩
    rw [exec, updateWithCategory, indexOfCategory, hfind]
  | updateWithProbabilityVector probVec weight =>
    obtain ⟨hnonneg, hsum, rfl⟩ := hallowed
    exact ⟨_, rfl, h.settled.update ⟨hnonneg, hsum⟩, h.toList_categories, h.threshold_eq, h.index⟩
  | setWindow newWindow =>
    exact ⟨_, rfl, h.settled.setWindow newWindow, h.toList_categories, h.threshold_eq, h.index⟩
  | reset => exact absurd hallowed id
  | filteredCategoryIsUnambiguous =>
    exact ⟨fAccessed, by rw [exec, hunambiguous, Option.map_some], haccessed⟩
  | filteredCategory => exact ⟨fAccessed, by rw [exec, hcategory, Option.map_some], haccessed⟩
  | probabilityVector => exact ⟨fAccessed, by rw [exec, hvector, Option.map_some], haccessed⟩

/-- **A new filter**, over a new rolling mean. -/
theorem exists_construct (hcount : 0 < count) (hlength : categories.length = count)
    (hnodup : categories.Nodup) (hpos : 0 < threshold) (hle : threshold ≤ 1)
    (memory : CategoryCache count K) :
    ∃ f, construct categories (RollingMoments.construct count K) threshold memory =
        some (.ok f) ∧ Invariant categories threshold f := by
  have hempty : ∀ c ∈ categories, (.empty : OrderedMap Category ℕ).find? c = none :=
    fun c _ ↦ OrderedMap.find?_empty c
  obtain ⟨indexMap, hbuild, hindex, -⟩ := find?_buildIndexMap (i := 0) hnodup hempty
  let filter := (RollingMoments.construct count K).reset.update
    ⟨ambiguousProbabilityVector count K, 0⟩ 1
  have hintegral : filter.integral = 1 := by
    rw [RollingMoments.integral_reset_update, one_mul]
    rfl
  -- the window is 1, so one update makes the rolling mean ready
  have hready : filter.ready = true := by
    rw [RollingMoments.ready, hintegral, sub_self]
    exact if_neg zero_lt_one.not_gt
  let f : CachedCategoricalFilter Category count K :=
    ⟨⟨categories, hlength⟩, indexMap, filter, threshold, false, memory⟩
  refine ⟨f, ?_, ⟨rfl, hintegral, zero_lt_one, le_rfl, ?_, fun h ↦ Bool.noConfusion h⟩, rfl, rfl,
    ?_⟩
  · rw [construct, dif_pos ⟨hcount, hlength, hpos, hle⟩, hbuild]
    dsimp only
    rw [reset, if_pos hready]
    rfl
  · show Normalized (((1 : K) * 1) • ambiguousProbabilityVector count K + (1 - 1 * 1) • 0)
    simpa using normalized_ambiguousProbabilityVector hcount
  · intro i c hget
    rw [hindex i c hget, zero_add]

/-! ### The answers of the accessors -/

/-- What the accessors answer when the probabilities are `p`: these, whether one reaches the
threshold, and the category of that one, or an exception if there is none. -/
structure Answers (f : CachedCategoricalFilter Category count K) (p : Fin count → K) : Prop where
  normalized : Normalized p
  probabilityVector : f.probabilityVector.map Prod.fst = some p
  unambiguous : ∃ b, f.filteredCategoryIsUnambiguous.map Prod.fst = some b ∧
    (b = true ↔ ∃ i, f.uniformCategorizationThreshold ≤ p i)
  category : ∀ i, f.uniformCategorizationThreshold ≤ p i →
    f.filteredCategory.map Prod.fst = some (.ok (f.categories.get i)) ∧
      ∀ j, f.uniformCategorizationThreshold ≤ p j → j = i
  ambiguous : (∀ i, p i < f.uniformCategorizationThreshold) →
    f.filteredCategory.map Prod.fst = some (.error .logicError)

/-- The accessors answer what they would answer without the cache. -/
structure Fresh (f : CachedCategoricalFilter Category count K) : Prop where
  probabilityVector : f.probabilityVector.map Prod.fst =
    ({ f with valuesAreCached := false }).probabilityVector.map Prod.fst
  unambiguous : f.filteredCategoryIsUnambiguous.map Prod.fst =
    ({ f with valuesAreCached := false }).filteredCategoryIsUnambiguous.map Prod.fst
  category : f.filteredCategory.map Prod.fst =
    ({ f with valuesAreCached := false }).filteredCategory.map Prod.fst

namespace Settled

variable {f : CachedCategoricalFilter Category count K}

theorem answers (h : Settled f) (hcount : 0 < count)
    (hthreshold : 1 / 2 < f.uniformCategorizationThreshold) : Answers f f.filter.p1 := by
  obtain ⟨j, f', -, -, hmax, hvector, hunambiguous, hcategory⟩ := h.accessors_eq hcount
  have hreaches : (∃ i, f.uniformCategorizationThreshold ≤ f.filter.p1 i) ↔
      f.filter.p1 j ≥ f.uniformCategorizationThreshold :=
    ⟨fun ⟨i, hi⟩ ↦ hi.trans (hmax i), fun hj ↦ ⟨j, hj⟩⟩
  refine ⟨h.p1, by rw [hvector, Option.map_some], ⟨_, by rw [hunambiguous, Option.map_some], ?_⟩,
    fun i hi ↦ ⟨?_, fun k hk ↦ h.p1.eq_of_lt hthreshold hk hi⟩, fun hlow ↦ ?_⟩
  · rw [hreaches]
    simp
  · have hj := hreaches.1 ⟨i, hi⟩
    rw [hcategory, Option.map_some, if_pos hj, h.p1.eq_of_lt hthreshold hi hj]
  · rw [hcategory, Option.map_some, if_neg (hlow j).not_ge]

/-- Without the cache the same values are computed. -/
theorem fresh (h : Settled f) : Fresh f := by
  have huncached : Settled { f with valuesAreCached := false } :=
    ⟨h.nonZero, h.integral, h.sample_pos, h.sample_le, h.p1, fun h ↦ Bool.noConfusion h⟩
  have hsame : ({ f with valuesAreCached := false } :
      CachedCategoricalFilter Category count K).ensureValuesAreCached =
        f.ensureValuesAreCached := by
    rw [huncached.ensureValuesAreCached_eq, h.ensureValuesAreCached_eq]
  constructor
  · rw [probabilityVector, probabilityVector, hsame]
  · rw [filteredCategoryIsUnambiguous, filteredCategoryIsUnambiguous, hsame]
  · rw [filteredCategory, filteredCategory, hsame]

end Settled

/-- **The filter as the program uses it**: with distinct categories and a threshold above one half,
no call fails; after any calls the integral is 1, the accessors answer from one normalized vector of
probabilities, naming the one category whose probability reaches the threshold if there is one, and
what they answer is what they would compute anew. -/
theorem answers_run (hcount : 0 < count) (hlength : categories.length = count)
    (hnodup : categories.Nodup) (hthreshold : 1 / 2 < threshold) (hle : threshold ≤ 1)
    (memory : CategoryCache count K) (calls : List (Call Category count K))
    (hallowed : ∀ call ∈ calls, Allowed categories call) :
    ∃ new f, construct categories (RollingMoments.construct count K) threshold memory =
        some (.ok new) ∧ calls.foldlM exec new = some f ∧
      f.filter.integral = 1 ∧ (f.categories.toList = categories ∧
        f.uniformCategorizationThreshold = threshold) ∧ (∃ p, Answers f p) ∧ Fresh f := by
  obtain ⟨new, hnew, hinvariant⟩ :=
    exists_construct hcount hlength hnodup (by linarith) hle memory
  obtain ⟨f, hrun, h⟩ := PartialRun.foldlM_isSome hinvariant fun s call hcall hs ↦
    invariant_exec hcount hs (hallowed call hcall)
  exact ⟨new, f, hnew, hrun, h.settled.integral, ⟨h.toList_categories, h.threshold_eq⟩,
    ⟨_, h.settled.answers hcount (h.threshold_eq ▸ hthreshold)⟩, h.settled.fresh⟩

/-- Two categories, and calls that change the window between updates and accesses. -/
theorem answers_run_two :
    let memory : CategoryCache 2 ℚ := ⟨none, 0, false, none, 0⟩
    let calls : List (Call ℕ 2 ℚ) := [.updateWithCategory 5 1, .setWindow 16, .filteredCategory,
      .updateWithProbabilityVector ![1 / 4, 3 / 4] 1, .setWindow 0, .probabilityVector]
    ∃ new f, construct [3, 5] (RollingMoments.construct 2 ℚ) (4 / 5) memory = some (.ok new) ∧
      calls.foldlM exec new = some f ∧ f.filter.integral = 1 ∧ (f.categories.toList = [3, 5] ∧
        f.uniformCategorizationThreshold = 4 / 5) ∧ (∃ p, Answers f p) ∧ Fresh f := by
  intro memory calls
  have hallowed : ∀ call ∈ calls, Allowed [3, 5] call := by
    intro call hcall
    simp only [calls, List.mem_cons, List.not_mem_nil, or_false] at hcall
    rcases hcall with rfl | rfl | rfl | rfl | rfl | rfl
    · exact ⟨by decide, rfl⟩
    · exact trivial
    · exact trivial
    · exact ⟨by decide +kernel, by decide +kernel, rfl⟩
    · exact trivial
    · exact trivial
  have hlength : ([3, 5] : List ℕ).length = 2 := rfl
  exact answers_run two_pos hlength (by decide) (by norm_num) (by norm_num) memory calls hallowed

/-! ### Resets -/

/-- The window that is in force after some calls. -/
def windowAfter : K → List (Call Category count K) → K
  | window, [] => window
  | window, .setWindow newWindow :: calls =>
    windowAfter (if 1 ≤ newWindow then newWindow else window) calls
  | window, _ :: calls => windowAfter window calls

/-- All probabilities are equal, and the accessors answer. -/
def Neutral (f : CachedCategoricalFilter Category count K) : Prop :=
  f.filter.ready = true ∧
    ∃ p, f.probabilityVector.map Prod.fst = some p ∧ ∀ i, p i = 1 / (count : K)

/-- After a reset that returns, the accessors answer with equal probabilities. -/
theorem neutral_reset {f f' : CachedCategoricalFilter Category count K} (hcount : 0 < count)
    (hsample : f.filter.sample ≠ 0) (h : f.reset = some f') : Neutral f' := by
  have hpredict := RollingMoments.predict_reset_update f.filter
    ⟨ambiguousProbabilityVector count K, 0⟩ (by rwa [one_mul] : 1 * f.filter.sample ≠ 0)
  have hintegral := RollingMoments.integral_reset_update f.filter
    ⟨ambiguousProbabilityVector count K, 0⟩ 1
  rw [reset] at h
  split_ifs at h with hready
  obtain rfl := Option.some.inj h
  have hnormalized : Normalized (ambiguousProbabilityVector count K) :=
    normalized_ambiguousProbabilityVector hcount
  refine ⟨hready, ambiguousProbabilityVector count K, ?_, fun i ↦ rfl⟩
  rw [probabilityVector, ensureValuesAreCached, if_neg Bool.false_ne_true, computeValues]
  rw [if_neg (by simp [hready]), if_neg (by simp [hintegral, hsample])]
  simp only [hpredict, hnormalized.sum, div_one]
  rw [if_pos ⟨hnormalized.nonneg, by norm_num⟩]
  rfl

/-- **A reset** leaves the filter ready, with equal probabilities, exactly if the window is at most
2. -/
theorem neutral_reset_iff {f : CachedCategoricalFilter Category count K} (hcount : 0 < count)
    {window : K} (hwindow : 0 < window) (hsample : f.filter.sample = 1 / window) :
    (∃ f', f.reset = some f' ∧ Neutral f') ↔ window ≤ 2 := by
  have hready := RollingMoments.ready_reset_update_iff hwindow hsample
    ⟨ambiguousProbabilityVector count K, 0⟩
  constructor
  · rintro ⟨f', hf', -⟩
    by_contra h
    rw [reset, if_neg (mt hready.1 h)] at hf'
    cases hf'
  · intro h
    have hreset : f.reset = some _ := if_pos (hready.2 h)
    exact ⟨_, hreset, neutral_reset hcount (hsample ▸ (one_div_pos.2 hwindow).ne') hreset⟩

omit [IsStrictOrderedRing K] in
/-- The accessors leave the rolling mean alone. -/
theorem filter_ensureValuesAreCached {f f' : CachedCategoricalFilter Category count K}
    (h : f.ensureValuesAreCached = some f') : f'.filter = f.filter := by
  rw [ensureValuesAreCached] at h
  split_ifs at h
  · rw [← Option.some.inj h]
  · obtain ⟨cache, -, rfl⟩ := Option.map_eq_some_iff.1 h
    rfl

omit [IsStrictOrderedRing K] in
theorem filter_exec_accessor {f f' : CachedCategoricalFilter Category count K}
    (h : exec f .filteredCategoryIsUnambiguous = some f' ∨ exec f .filteredCategory = some f' ∨
      exec f .probabilityVector = some f') : f'.filter = f.filter := by
  have hensured : f.ensureValuesAreCached = some f' := by
    rcases h with h | h | h
    · rw [exec, filteredCategoryIsUnambiguous, Option.map_map] at h
      obtain ⟨f'', hf'', rfl⟩ := Option.map_eq_some_iff.1 h
      exact hf''
    · rw [exec, filteredCategory] at h
      obtain ⟨p, hp, rfl⟩ := Option.map_eq_some_iff.1 h
      obtain ⟨f'', hf'', hp⟩ := Option.bind_eq_some_iff.1 hp
      rw [hf'']
      split at hp
      · split at hp
        · rw [← Option.some.inj hp]
        · cases hp
      · rw [← Option.some.inj hp]
    · rw [exec, probabilityVector, Option.map_map] at h
      obtain ⟨f'', hf'', rfl⟩ := Option.map_eq_some_iff.1 h
      exact hf''
  exact filter_ensureValuesAreCached hensured

omit [IsStrictOrderedRing K] in
/-- `Sample` is 1 over the window in force. -/
theorem sample_exec {f f' : CachedCategoricalFilter Category count K}
    {call : Call Category count K} (h : exec f call = some f') {window : K}
    (hsample : f.filter.sample = 1 / window) :
    f'.filter.sample = 1 / windowAfter window [call] := by
  cases call with
  | updateWithCategory category weight =>
    rw [exec, updateWithCategory] at h
    cases hindex : f.indexOfCategory category with
    | ok index =>
      rw [hindex] at h
      obtain rfl := Option.some.inj h
      exact hsample
    | error exception =>
      rw [hindex] at h
      obtain rfl := Option.some.inj h
      exact hsample
  | updateWithProbabilityVector probVec weight =>
    obtain rfl := Option.some.inj h
    exact hsample
  | setWindow newWindow =>
    obtain rfl := Option.some.inj h
    show RollingMoments.newSample f.filter.sample newWindow = _
    rw [RollingMoments.newSample, windowAfter, windowAfter]
    split_ifs
    · rfl
    · exact hsample
  | reset =>
    rw [exec, reset] at h
    split_ifs at h
    obtain rfl := Option.some.inj h
    exact hsample
  | filteredCategoryIsUnambiguous => rwa [filter_exec_accessor (.inl h)]
  | filteredCategory => rwa [filter_exec_accessor (.inr (.inl h))]
  | probabilityVector => rwa [filter_exec_accessor (.inr (.inr h))]

omit [IsStrictOrderedRing K] in
theorem sample_run (calls : List (Call Category count K)) :
    ∀ {f f' : CachedCategoricalFilter Category count K} {window : K},
      calls.foldlM exec f = some f' → f.filter.sample = 1 / window →
        f'.filter.sample = 1 / windowAfter window calls := by
  induction calls with
  | nil =>
    intro f f' window hrun hsample
    obtain rfl := Option.some.inj hrun
    exact hsample
  | cons call calls ih =>
    intro f f' window hrun hsample
    rw [List.foldlM_cons] at hrun
    obtain ⟨middle, hmiddle, hrest⟩ := Option.bind_eq_some_iff.1 hrun
    have hafter := ih hrest (sample_exec hmiddle hsample)
    rw [hafter]
    cases call <;> rfl

omit [LinearOrder Category] [IsStrictOrderedRing K] in
theorem one_le_windowAfter (calls : List (Call Category count K)) :
    ∀ {window : K}, 1 ≤ window → 1 ≤ windowAfter window calls := by
  induction calls with
  | nil => exact fun h ↦ h
  | cons call calls ih =>
    intro window h
    cases call with
    | setWindow newWindow =>
      rw [windowAfter]
      split_ifs with hnew
      · exact ih hnew
      · exact ih h
    | _ => exact ih h

omit [IsStrictOrderedRing K] in
/-- What a new filter starts with. -/
theorem construct_ok {categories : List Category} {filter : RollingMoments count K} {threshold : K}
    {memory : CategoryCache count K} {new : CachedCategoricalFilter Category count K}
    (h : construct categories filter threshold memory = some (.ok new)) :
    0 < count ∧ new.filter = filter.reset.update ⟨ambiguousProbabilityVector count K, 0⟩ 1 ∧
      new.uniformCategorizationThreshold = threshold := by
  rw [construct] at h
  split_ifs at h with hasserted
  cases hbuild : buildIndexMap categories 0 OrderedMap.empty with
  | none =>
    rw [hbuild] at h
    cases h
  | some indexMap =>
    rw [hbuild] at h
    obtain ⟨f, hreset, hok⟩ := Option.map_eq_some_iff.1 h
    obtain rfl := Except.ok.inj hok
    rw [reset] at hreset
    split_ifs at hreset
    obtain rfl := Option.some.inj hreset
    exact ⟨hasserted.1, rfl, rfl⟩

/-- **A reset after any calls** on a new filter leaves it ready, with equal probabilities that the
accessors return, exactly if the last window that `SetWindow` accepted, or 1 if there is none, is at
most 2. -/
theorem neutral_reset_run_iff {categories : List Category} {threshold : K}
    {memory : CategoryCache count K} {new f : CachedCategoricalFilter Category count K}
    (hnew : construct categories (RollingMoments.construct count K) threshold memory =
      some (.ok new)) (calls : List (Call Category count K))
    (hrun : calls.foldlM exec new = some f) :
    (∃ f', f.reset = some f' ∧ Neutral f') ↔ windowAfter 1 calls ≤ 2 := by
  obtain ⟨hcount, hfilter, -⟩ := construct_ok hnew
  -- the window of a new rolling mean is 1
  have hsample : new.filter.sample = 1 / 1 := by
    rw [hfilter]
    exact (div_one 1).symm
  have hwindow : 0 < windowAfter 1 calls := zero_lt_one.trans_le (one_le_windowAfter calls le_rfl)
  exact neutral_reset_iff hcount hwindow (sample_run calls hrun hsample)

/-- The window of the filter for rotation, translation and scaling. -/
theorem neutral_reset_window_two :
    ∃ (memory : CategoryCache 2 ℚ) (new f : CachedCategoricalFilter ℕ 2 ℚ),
      construct [3, 5] (RollingMoments.construct 2 ℚ) (9 / 10) memory = some (.ok new) ∧
        List.foldlM exec new [.setWindow 2] = some f ∧ ∃ f', f.reset = some f' ∧ Neutral f' := by
  have hlength : ([3, 5] : List ℕ).length = 2 := rfl
  have hthreshold : (0 : ℚ) < 9 / 10 ∧ (9 : ℚ) / 10 ≤ 1 := by norm_num
  obtain ⟨new, hnew, -⟩ := exists_construct two_pos hlength (by decide) hthreshold.1 hthreshold.2
    ⟨none, 0, false, none, 0⟩
  have hrun : List.foldlM exec new [.setWindow 2] = some (new.setWindow 2) := rfl
  exact ⟨_, new, _, hnew, hrun, (neutral_reset_run_iff hnew _ hrun).2 (by norm_num [windowAfter])⟩

/-- The window of the filter for the number of pointables. -/
theorem not_neutral_reset_window_sixteen :
    ¬ ∀ (memory : CategoryCache 2 ℚ) (new f : CachedCategoricalFilter ℕ 2 ℚ)
      (calls : List (Call ℕ 2 ℚ)),
      construct [3, 5] (RollingMoments.construct 2 ℚ) (4 / 5) memory = some (.ok new) →
        calls.foldlM exec new = some f → ∃ f', f.reset = some f' ∧ Neutral f' := by
  intro hneutral
  have hlength : ([3, 5] : List ℕ).length = 2 := rfl
  have hthreshold : (0 : ℚ) < 4 / 5 ∧ (4 : ℚ) / 5 ≤ 1 := by norm_num
  obtain ⟨new, hnew, -⟩ := exists_construct two_pos hlength (by decide) hthreshold.1 hthreshold.2
    ⟨none, 0, false, none, 0⟩
  have hreset := hneutral _ new (new.setWindow 16) [.setWindow 16] hnew rfl
  have hwindow : (1 : ℚ) ≤ 16 := by norm_num
  have hsample : (new.setWindow 16).filter.sample = 1 / 16 := by
    show RollingMoments.newSample new.filter.sample 16 = 1 / 16
    rw [RollingMoments.newSample, if_pos hwindow]
  exact absurd ((neutral_reset_iff two_pos (by norm_num) hsample).1 hreset) (by norm_num)

end CachedCategoricalFilter

end Touchless
