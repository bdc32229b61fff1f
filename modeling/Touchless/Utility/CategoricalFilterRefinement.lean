import Mathlib.Algebra.BigOperators.Fin
import Touchless.Foundations.ExactOperations
import Touchless.Utility.CategoricalFilter
import Touchless.Utility.CategoricalFilterCache

/-!
# The categorical filter without its cache

The managers are modelled over `RollingMean` and `CategoricalFilter`, on lists in any arithmetic,
without the covariance and without the cache. In exact arithmetic they do what the rolling mean and
the filter with all their members do: they represent them (`RollingMean.Represents`,
`CategoricalFilter.Represents`), every call keeps it so, and the filters give the same answers
(`filteredCategory_run`).
-/

namespace Touchless

variable {F K : Type} [Arithmetic F] [Field K] [LinearOrder K]

/-- The entries of the list stand for those of the vector. -/
def Lists (exact : ExactOperations F K) {n : ℕ} (xs : List F) (v : Fin n → K) : Prop :=
  xs.map exact.value = List.ofFn v

namespace Lists

variable {exact : ExactOperations F K} {n : ℕ} {xs ys : List F} {v w : Fin n → K}

theorem replicate {x : F} {y : K} (h : exact.value x = y) :
    Lists exact (List.replicate n x) fun _ : Fin n ↦ y := by
  rw [Lists, List.map_replicate, h, List.ofFn_const]

theorem map {f : F → F} {g : K → K} (h : Lists exact xs v)
    (hf : ∀ x, exact.value (f x) = g (exact.value x)) :
    Lists exact (xs.map f) fun i ↦ g (v i) := by
  have hcomp : exact.value ∘ f = g ∘ exact.value := funext hf
  rw [Lists, List.map_map, hcomp, ← List.map_map, show xs.map exact.value = _ from h, List.map_ofFn]
  rfl

theorem zipWith {f : F → F → F} {g : K → K → K} (h : Lists exact xs v) (h' : Lists exact ys w)
    (hf : ∀ x y, exact.value (f x y) = g (exact.value x) (exact.value y)) :
    Lists exact (List.zipWith f xs ys) fun i ↦ g (v i) (w i) := by
  have hmap : (List.zipWith f xs ys).map exact.value =
      List.zipWith g (xs.map exact.value) (ys.map exact.value) := by
    rw [List.map_zipWith, List.zipWith_map]
    simp only [hf]
  rw [Lists, hmap, show xs.map exact.value = _ from h, show ys.map exact.value = _ from h',
    List.ofFn_eq_map, List.ofFn_eq_map, List.zipWith_map, List.zipWith_self, List.ofFn_eq_map]

/-- The sum of the entries, by a loop. -/
theorem value_foldl_add (h : Lists exact xs v) :
    exact.value (xs.foldl (· + ·) (lit 0)) = ∑ i, v i := by
  have hloop : ∀ (xs : List F) (x : F),
      exact.value (xs.foldl (· + ·) x) = exact.value x + (xs.map exact.value).sum := by
    intro xs
    induction xs with
    | nil => simp
    | cons y xs ih =>
      intro x
      rw [List.foldl_cons, ih, exact.value_add, List.map_cons, List.sum_cons, add_assoc]
  rw [hloop, exact.value_zero, zero_add, show xs.map exact.value = _ from h, List.sum_ofFn]

end Lists

/-! ### The rolling mean -/

namespace RollingMean

variable {exact : ExactOperations F K} {dim : ℕ}

/-- The members that the rolling mean has in both models have the same values. -/
structure Represents (exact : ExactOperations F K) (filter : RollingMean F)
    (r : RollingMoments dim K) : Prop where
  sample : exact.value filter.sample = r.sample
  nonZero : filter.nonZero = r.nonZero
  integral : exact.value filter.integral = r.integral
  p1 : Lists exact filter.p1 r.p1

variable {filter : RollingMean F} {r : RollingMoments dim K}

theorem represents_construct :
    (RollingMean.construct dim : RollingMean F).Represents exact (.construct dim K) :=
  ⟨exact.value_one, rfl, exact.value_zero, .replicate exact.value_zero⟩

theorem Represents.reset (h : filter.Represents exact r) : filter.reset.Represents exact r.reset :=
  ⟨h.sample, rfl, exact.value_zero, h.p1.map (g := fun _ ↦ 0) fun _ ↦ exact.value_zero⟩

theorem Represents.update (h : filter.Represents exact r) {measState : List F}
    {meas : Measurement dim K} (hstate : Lists exact measState meas.state) {weight : F} {w : K}
    (hweight : exact.value weight = w) :
    (filter.update measState weight).Represents exact (r.update meas w) := by
  have hfilter : exact.value (weight * filter.sample) = w * r.sample := by
    rw [exact.value_mul, hweight, h.sample]
  refine ⟨h.sample, rfl, ?_, ?_⟩
  · show exact.value (weight * filter.sample + (lit 1 - weight * filter.sample) * filter.integral) =
      w * r.sample + (1 - w * r.sample) * r.integral
    rw [exact.value_add, exact.value_mul _ filter.integral, exact.value_sub, exact.value_one,
      hfilter, h.integral]
  · refine hstate.zipWith (g := fun x p ↦ w * r.sample * x + (1 - w * r.sample) * p) h.p1
      fun x p ↦ ?_
    rw [exact.value_add, exact.value_mul _ x, exact.value_mul _ p, exact.value_sub, exact.value_one,
      hfilter]

theorem Represents.setWindow (h : filter.Represents exact r) (newWindow : F) :
    (filter.setWindow newWindow).Represents exact (r.setWindow (exact.value newWindow)) := by
  have hwindow : Arithmetic.le (lit 1) newWindow = true ↔ 1 ≤ exact.value newWindow := by
    rw [exact.le_iff, exact.value_one]
  rw [RollingMean.setWindow, RollingMoments.setWindow, RollingMoments.newSample]
  simp only [hwindow]
  split_ifs
  · exact ⟨by rw [exact.value_div, exact.value_one], h.nonZero, h.integral, h.p1⟩
  · exact h

/-- **The means are the same.** -/
theorem Represents.predict (h : filter.Represents exact r) :
    Lists exact filter.predict r.predict := by
  rw [RollingMean.predict, RollingMoments.predict, h.nonZero]
  split_ifs
  · refine h.p1.map (g := fun x ↦ x / r.integral) fun x ↦ ?_
    rw [exact.value_div, h.integral]
  · exact h.p1.map (g := fun _ ↦ 0) fun _ ↦ exact.value_zero

end RollingMean

/-! ### The filter -/

namespace CategoricalFilter

variable {Category : Type} [LinearOrder Category] {count : ℕ}

/-- The filter has the members of the other one but for its cache and its categories. -/
structure Represents (exact : ExactOperations F K) (filter : CategoricalFilter F)
    (f : CachedCategoricalFilter Category count K) : Prop where
  categoryCount : filter.categoryCount = count
  mean : filter.filter.Represents exact f.filter
  threshold : exact.value filter.uniformCategorizationThreshold = f.uniformCategorizationThreshold

section Calls

variable {exact : ExactOperations F K} {filter : CategoricalFilter F}
  {f : CachedCategoricalFilter Category count K}

theorem Represents.updateWithProbabilityVector (h : filter.Represents exact f) {xs : List F}
    {p : Fin count → K} (hp : Lists exact xs p) :
    (filter.updateWithProbabilityVector xs).Represents exact
      (f.updateWithProbabilityVector p 1) :=
  ⟨h.categoryCount, h.mean.update hp exact.value_one, h.threshold⟩

theorem Represents.updateWithCategory (h : filter.Represents exact f) (index : ℕ) :
    (filter.updateWithCategory index).Represents exact
      (f.updateWithProbabilityVector (CachedCategoricalFilter.unitVector count K index) 1) := by
  refine h.updateWithProbabilityVector ?_
  have hentry : ∀ i : ℕ, exact.value (if i = index then lit 1 else lit 0) =
      if i = index then 1 else 0 := by
    intro i
    rw [apply_ite exact.value, exact.value_one, exact.value_zero]
  rw [h.categoryCount, Lists, List.map_map, ← List.map_coe_finRange_eq_range, List.map_map,
    List.ofFn_eq_map]
  exact List.map_congr_left fun i _ ↦ hentry i

theorem Represents.setWindow (h : filter.Represents exact f) (newWindow : F) :
    (filter.setWindow newWindow).Represents exact (f.setWindow (exact.value newWindow)) :=
  ⟨h.categoryCount, h.mean.setWindow newWindow, h.threshold⟩

theorem represents_construct {categories : List Category} {threshold : F}
    {memory : CategoryCache count K}
    (h : CachedCategoricalFilter.construct categories (.construct count K) (exact.value threshold)
      memory = some (.ok f)) :
    (construct count threshold : CategoricalFilter F).Represents exact f := by
  obtain ⟨-, hfilter, hthreshold⟩ := CachedCategoricalFilter.construct_ok h
  refine ⟨rfl, ?_, hthreshold.symm⟩
  rw [hfilter]
  refine RollingMean.represents_construct.reset.update (.replicate ?_) exact.value_one
  rw [exact.value_div, exact.value_one, exact.value_lit, Rat.cast_natCast]
  rfl

end Calls

variable (exact : ExactOrder F K)

/-- The state of the loop for the maximum probability: the entry, with its index. -/
def best? (best : Option (F × ℕ)) : Option (K × ℕ) :=
  best.map fun b ↦ (exact.value b.1, b.2)

/-- That of the loop over the vector. -/
def bestOf (best : K × Option (Fin count)) : Option (K × ℕ) :=
  best.2.map fun j ↦ (best.1, j.val)

/-- One turn of both loops. -/
theorem maxProbability_step {p : Fin count → K} {x : F} {j : Fin count} (hx : exact.value x = p j)
    {best : Option (F × ℕ)} {state : K × Option (Fin count)} :
    best? exact best = bestOf state →
      best? exact (match best with
        | none => some (x, j.val)
        | some (q, k) => if Arithmetic.lt q x then some (x, j.val) else some (q, k)) =
          bestOf (CachedCategoricalFilter.maxStep p state j) := by
  intro hbest
  obtain ⟨q, category⟩ := state
  cases best with
  | none =>
    obtain rfl : category = none := by
      simpa [best?, bestOf] using hbest.symm
    simp [best?, bestOf, CachedCategoricalFilter.maxStep, hx]
  | some b =>
    obtain ⟨k, rfl, hbq⟩ := Option.map_eq_some_iff.1 (hbest.symm : bestOf (q, category) = some _)
    obtain ⟨rfl, hk⟩ := Prod.mk.inj hbq
    have hlt : Arithmetic.lt b.1 x = true ↔ exact.value b.1 < p j := by
      rw [exact.lt_iff, hx]
    simp only [best?, bestOf, CachedCategoricalFilter.maxStep, hlt, reduceCtorEq, false_or]
    split_ifs
    · simp [hx]
    · simp [hk]

/-- The loops for the maximum probability go alike, from one entry to the next. -/
theorem maxProbability_eq {p : Fin count → K} {indices : List (Fin count)} : ∀ {xs : List F}
    {i : ℕ} {best : Option (F × ℕ)} {state : K × Option (Fin count)},
      xs.map exact.value = indices.map p →
        indices.map Fin.val = List.range' i indices.length → best? exact best = bestOf state →
          best? exact (maxProbability xs i best) =
            bestOf (indices.foldl (CachedCategoricalFilter.maxStep p) state) := by
  induction indices with
  | nil =>
    intro xs i best state hxs hindices hbest
    obtain rfl := List.map_eq_nil_iff.1 hxs
    exact hbest
  | cons j indices ih =>
    intro xs i best state hxs hindices hbest
    obtain ⟨x, xs, rfl, hx, hxs⟩ := List.map_eq_cons_iff.1 hxs
    obtain ⟨rfl, hindices⟩ := List.cons.inj (hindices.trans List.range'_succ)
    show best? exact (maxProbability xs (j.val + 1) _) = _
    exact ih hxs hindices (maxProbability_step exact hx hbest)

variable [IsStrictOrderedRing K]

omit [IsStrictOrderedRing K] in
/-- Both loops end with the same one of the largest probabilities. -/
theorem Represents.maxProbability {filter : CategoricalFilter F}
    {f : CachedCategoricalFilter Category count K}
    (h : filter.Represents exact.toExactOperations f) (hsettled : f.Settled) (hcount : 0 < count) :
    ∃ b j, CategoricalFilter.maxProbability (filter.filter.predict.map
          (· / filter.filter.predict.foldl (· + ·) (lit 0))) 0 none = some b ∧
      exact.value b.1 = f.filter.p1 j ∧ b.2 = j.val ∧
      (List.finRange count).foldl (CachedCategoricalFilter.maxStep f.filter.p1) (0, none) =
        (f.filter.p1 j, some j) := by
  have hne : List.finRange count ≠ [] := by
    rw [ne_eq, List.finRange_eq_nil_iff]
    omega
  obtain ⟨j, -, -, hfold⟩ := CachedCategoricalFilter.foldl_maxStep f.filter.p1 hne
  have hpredict : Lists exact.toExactOperations filter.filter.predict f.filter.p1 :=
    hsettled.predict_eq ▸ h.mean.predict
  -- the probabilities are normalized as they are, so the factor is 1
  have hentries : Lists exact.toExactOperations (filter.filter.predict.map
      (· / filter.filter.predict.foldl (· + ·) (lit 0))) f.filter.p1 := by
    refine hpredict.map (g := fun x ↦ x) fun x ↦ ?_
    rw [exact.value_div, hpredict.value_foldl_add, hsettled.p1.sum, div_one]
  have hindices : (List.finRange count).map Fin.val =
      List.range' 0 (List.finRange count).length := by
    rw [List.map_coe_finRange_eq_range, List.length_finRange, List.range_eq_range']
  have hstart : best? exact none = bestOf ((0, none) : K × Option (Fin count)) := rfl
  have hmax := maxProbability_eq exact (hentries.trans List.ofFn_eq_map) hindices hstart
  rw [hfold] at hmax
  obtain ⟨b, hb, hbest⟩ := Option.map_eq_some_iff.1 hmax
  obtain ⟨hvalue, hindex⟩ := Prod.mk.inj hbest
  exact ⟨b, j, hb, hvalue, hindex, hfold⟩

/-- **The filters name the same category**, or neither names one. -/
theorem Represents.filteredCategory {filter : CategoricalFilter F}
    {f : CachedCategoricalFilter Category count K}
    (h : filter.Represents exact.toExactOperations f) (hsettled : f.Settled) (hcount : 0 < count) :
    ∃ answer : Option (Fin count), filter.filteredCategory = answer.map Fin.val ∧
      f.filteredCategory.map Prod.fst = some (match answer with
        | some j => .ok (f.categories.get j)
        | none => .error .logicError) := by
  obtain ⟨b, j, hb, hvalue, hindex, hfold⟩ := h.maxProbability exact hsettled hcount
  have hle : Arithmetic.le filter.uniformCategorizationThreshold b.1 = true ↔
      f.filter.p1 j ≥ f.uniformCategorizationThreshold := by
    rw [exact.le_iff, h.threshold, hvalue]
  refine ⟨if f.filter.p1 j ≥ f.uniformCategorizationThreshold then some j else none, ?_, ?_⟩
  · simp only [CategoricalFilter.filteredCategory, hb, hle]
    split_ifs
    · exact congrArg some hindex
    · rfl
  · rw [CachedCategoricalFilter.filteredCategory, hsettled.ensureValuesAreCached_eq,
      Option.bind_some, CachedCategoricalFilter.valuesOf, hfold]
    by_cases hthreshold : f.filter.p1 j ≥ f.uniformCategorizationThreshold
    · simp only [hthreshold, if_true]
      rfl
    · simp only [hthreshold, if_false, Bool.false_eq_true]
      rfl

/-! ### Runs -/

/-- The calls of the managers, with the categories `0, 1, 2, …`. -/
inductive Call (F : Type) where
  | updateWithCategory (category : ℕ)
  | updateWithProbabilityVector (probVec : List F)
  | setWindow (newWindow : F)
  | filteredCategory

/-- One call. -/
def exec (filter : CategoricalFilter F) : Call F → CategoricalFilter F
  | .updateWithCategory category => filter.updateWithCategory category
  | .updateWithProbabilityVector probVec => filter.updateWithProbabilityVector probVec
  | .setWindow newWindow => filter.setWindow newWindow
  | .filteredCategory => filter

/-- The call on the filter with a cache. -/
inductive Call.Matches (exact : ExactOperations F K) :
    Call F → CachedCategoricalFilter.Call ℕ count K → Prop
  | updateWithCategory (category : ℕ) :
    Matches exact (.updateWithCategory category) (.updateWithCategory category 1)
  | updateWithProbabilityVector {probVec : List F} {p : Fin count → K} (h : Lists exact probVec p) :
    Matches exact (.updateWithProbabilityVector probVec) (.updateWithProbabilityVector p 1)
  | setWindow (newWindow : F) :
    Matches exact (.setWindow newWindow) (.setWindow (exact.value newWindow))
  | filteredCategory : Matches exact .filteredCategory .filteredCategory

/-- **One call** on both filters. -/
theorem Represents.exec {exact : ExactOperations F K} {filter : CategoricalFilter F}
    {f : CachedCategoricalFilter ℕ count K} {threshold : K} (hcount : 0 < count)
    (h : filter.Represents exact f)
    (hinvariant : CachedCategoricalFilter.Invariant (List.range count) threshold f)
    {call : Call F} {cachedCall : CachedCategoricalFilter.Call ℕ count K}
    (hmatches : call.Matches exact cachedCall)
    (hallowed : CachedCategoricalFilter.Allowed (List.range count) cachedCall) :
    ∃ f', f.exec cachedCall = some f' ∧ (filter.exec call).Represents exact f' := by
  cases hmatches with
  | updateWithCategory category =>
    have hindex : f.indexMap.find? category = some category :=
      hinvariant.index category category (List.getElem?_range (List.mem_range.1 hallowed.1))
    refine ⟨_, ?_, h.updateWithCategory category⟩
    rw [CachedCategoricalFilter.exec, CachedCategoricalFilter.updateWithCategory,
      CachedCategoricalFilter.indexOfCategory, hindex]
  | updateWithProbabilityVector hp => exact ⟨_, rfl, h.updateWithProbabilityVector hp⟩
  | setWindow newWindow => exact ⟨_, rfl, h.setWindow newWindow⟩
  | filteredCategory =>
    obtain ⟨j, f', -, ⟨hfilter, -, -, hthreshold⟩, -, -, -, hcategory⟩ :=
      hinvariant.settled.accessors_eq hcount
    refine ⟨f', ?_, h.categoryCount, hfilter ▸ h.mean, hthreshold ▸ h.threshold⟩
    rw [CachedCategoricalFilter.exec, hcategory, Option.map_some]

/-- A sequence of calls on both. -/
theorem Represents.run {exact : ExactOperations F K} {threshold : K} (hcount : 0 < count)
    {calls : List (Call F)} {cachedCalls : List (CachedCategoricalFilter.Call ℕ count K)}
    (hmatches : List.Forall₂ (Call.Matches exact) calls cachedCalls) :
    ∀ {filter : CategoricalFilter F} {f : CachedCategoricalFilter ℕ count K},
      (∀ call ∈ cachedCalls, CachedCategoricalFilter.Allowed (List.range count) call) →
        filter.Represents exact f →
          CachedCategoricalFilter.Invariant (List.range count) threshold f →
            ∃ f', cachedCalls.foldlM CachedCategoricalFilter.exec f = some f' ∧
              (calls.foldl CategoricalFilter.exec filter).Represents exact f' ∧
              CachedCategoricalFilter.Invariant (List.range count) threshold f' := by
  induction hmatches with
  | nil => exact fun _ h hinvariant ↦ ⟨_, rfl, h, hinvariant⟩
  | cons hcall _ ih =>
    intro filter f hallowed h hinvariant
    have hfirst := hallowed _ List.mem_cons_self
    obtain ⟨f', hexec, hrepresents⟩ := h.exec hcount hinvariant hcall hfirst
    obtain ⟨f'', hexec', hinvariant'⟩ :=
      CachedCategoricalFilter.invariant_exec hcount hinvariant hfirst
    obtain rfl := Option.some.inj (hexec.symm.trans hexec')
    obtain ⟨last, hrun, hlast⟩ :=
      ih (fun call hmem ↦ hallowed call (List.mem_cons_of_mem _ hmem)) hrepresents hinvariant'
    exact ⟨last, by rw [List.foldlM_cons, hexec]; exact hrun, hlast⟩

/-- **The cache changes no answer**: after any calls of the managers the filter without it names the
category that the filter with it names. -/
theorem filteredCategory_run {threshold : F} (hcount : 0 < count)
    (hpos : 0 < exact.value threshold) (hle : exact.value threshold ≤ 1)
    (memory : CategoryCache count K) {calls : List (Call F)}
    {cachedCalls : List (CachedCategoricalFilter.Call ℕ count K)}
    (hmatches : List.Forall₂ (Call.Matches exact.toExactOperations) calls cachedCalls)
    (hallowed : ∀ call ∈ cachedCalls,
      CachedCategoricalFilter.Allowed (List.range count) call) :
    ∃ new f, CachedCategoricalFilter.construct (List.range count) (.construct count K)
        (exact.value threshold) memory = some (.ok new) ∧
      cachedCalls.foldlM CachedCategoricalFilter.exec new = some f ∧
      f.filteredCategory.map Prod.fst =
        some (match (calls.foldl exec (construct count threshold)).filteredCategory with
          | some category => .ok category
          | none => .error .logicError) := by
  obtain ⟨new, hnew, hinvariant⟩ := CachedCategoricalFilter.exists_construct hcount
    List.length_range List.nodup_range hpos hle memory
  obtain ⟨f, hrun, hrepresents, hlast⟩ :=
    Represents.run hcount hmatches hallowed (represents_construct hnew) hinvariant
  obtain ⟨answer, hfilter, hcached⟩ :=
    Represents.filteredCategory exact hrepresents hlast.settled hcount
  refine ⟨new, f, hnew, hrun, ?_⟩
  rw [hcached, hfilter]
  cases answer with
  | none => rfl
  | some j =>
    -- the categories are their own indices
    have hget : f.categories.get j = j.val := by
      rw [List.Vector.get_eq_get_toList]
      simp [hlast.toList_categories]
    simp only [hget, Option.map_some]

/-- One update, after which the category is read. -/
theorem filteredCategory_run_once :
    letI := rationalArithmetic id
    let memory : CategoryCache 3 ℚ := ⟨none, 0, false, none, 0⟩
    ∃ new f, CachedCategoricalFilter.construct (List.range 3) (.construct 3 ℚ) (1 / 2) memory =
        some (.ok new) ∧
      [.updateWithCategory 1 1, .filteredCategory].foldlM CachedCategoricalFilter.exec new =
        some f ∧ f.filteredCategory.map Prod.fst = some (.ok 1) := by
  let _ : Arithmetic ℚ := rationalArithmetic id
  intro memory
  have hmatches : List.Forall₂ (Call.Matches (ExactOperations.rational id))
      [.updateWithCategory 1, .filteredCategory]
      ([.updateWithCategory 1 1, .filteredCategory] :
        List (CachedCategoricalFilter.Call ℕ 3 ℚ)) :=
    .cons (.updateWithCategory 1) (.cons .filteredCategory .nil)
  have hpos : (0 : ℚ) < 1 / 2 := by norm_num
  have hle : (1 / 2 : ℚ) ≤ 1 := by norm_num
  have hallowed : ∀ call ∈ ([.updateWithCategory 1 1, .filteredCategory] :
      List (CachedCategoricalFilter.Call ℕ 3 ℚ)),
      CachedCategoricalFilter.Allowed (List.range 3) call := by
    intro call hcall
    rcases List.mem_pair.1 hcall with rfl | rfl
    · exact ⟨by decide, rfl⟩
    · trivial
  obtain ⟨new, f, hnew, hrun, hanswer⟩ :=
    filteredCategory_run (ExactOrder.rational id) (by decide) hpos hle memory hmatches hallowed
  have hfilter : ([.updateWithCategory 1, .filteredCategory].foldl exec
      (construct 3 (1 / 2 : ℚ))).filteredCategory = some 1 := by decide +kernel
  refine ⟨new, f, hnew, hrun, hanswer.trans ?_⟩
  rw [hfilter]

end CategoricalFilter

end Touchless
