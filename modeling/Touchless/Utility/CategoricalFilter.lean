import Touchless.Foundations.Arithmetic

/-!
# Filtered categories

`RollingMean` of `Utility/RollingMean.h`, an exponentially weighted mean, and `CategoricalFilter` of
`Utility/CategoricalFilter.h`, which feeds it probability vectors and answers with the most probable
category, if that is probable enough to be unambiguous.

A category is its index in the category vector: the vectors of both filters of the program are
`0, 1, 2, …`. The covariance that `RollingMean` keeps beside the mean is read by nobody and left
out, as is the cache of `CategoricalFilter`, which every update invalidates.
-/

namespace Touchless

variable {F : Type} [Arithmetic F]

/-- The members of `RollingMean<dim>`, with vectors as lists of length `dim`. -/
structure RollingMean (F : Type) where
  /-- `Sample` -/
  sample : F
  /-- `NonZero` -/
  nonZero : Bool
  /-- `Integral` -/
  integral : F
  /-- `P1` -/
  p1 : List F

namespace RollingMean

/-- The constructor. -/
def construct (dim : ℕ) : RollingMean F where
  sample := lit 1
  nonZero := false
  integral := lit 0
  p1 := List.replicate dim (lit 0)

/-- `Reset`. -/
def reset (filter : RollingMean F) : RollingMean F :=
  { filter with nonZero := false, integral := lit 0, p1 := filter.p1.map fun _ ↦ lit 0 }

/-- `Predict`. -/
def predict (filter : RollingMean F) : List F :=
  if filter.nonZero then filter.p1.map (· / filter.integral) else filter.p1.map fun _ ↦ lit 0

/-- `Update`. -/
def update (filter : RollingMean F) (measState : List F) (weight : F) : RollingMean F :=
  let f := weight * filter.sample
  { filter with
    nonZero := true
    integral := f + (lit 1 - f) * filter.integral
    p1 := List.zipWith (fun x p ↦ f * x + (lit 1 - f) * p) measState filter.p1 }

/-- `SetWindow`. -/
def setWindow (filter : RollingMean F) (newWindow : F) : RollingMean F :=
  if Arithmetic.le (lit 1) newWindow then { filter with sample := lit 1 / newWindow } else filter

end RollingMean

/-- The members of `CategoricalFilter` that are not caches. -/
structure CategoricalFilter (F : Type) where
  /-- `CATEGORY_COUNT` -/
  categoryCount : ℕ
  /-- `m_filter` -/
  filter : RollingMean F
  /-- `m_uniformCategorizationThreshold` -/
  uniformCategorizationThreshold : F

namespace CategoricalFilter

/-- `ambiguousProbabilityVector`. -/
def ambiguousProbabilityVector (categoryCount : ℕ) : List F :=
  List.replicate categoryCount (lit 1 / lit categoryCount)

/-- `updateWithProbabilityVector`. -/
def updateWithProbabilityVector (filter : CategoricalFilter F) (probVec : List F) :
    CategoricalFilter F :=
  { filter with filter := filter.filter.update probVec (lit 1) }

/-- `updateWithCategory`. -/
def updateWithCategory (filter : CategoricalFilter F) (category : ℕ) : CategoricalFilter F :=
  filter.updateWithProbabilityVector
    ((List.range filter.categoryCount).map fun i ↦ if i = category then lit 1 else lit 0)

/-- `reset`. -/
def reset (filter : CategoricalFilter F) : CategoricalFilter F :=
  { filter with
    filter := filter.filter.reset.update (ambiguousProbabilityVector filter.categoryCount) (lit 1) }

/-- The constructor, with a new `RollingMean` as the filter. -/
def construct (categoryCount : ℕ) (uniformCategorizationThreshold : F) : CategoricalFilter F :=
  reset ⟨categoryCount, RollingMean.construct categoryCount, uniformCategorizationThreshold⟩

/-- `getFilterAs<RollingMean>().SetWindow`. -/
def setWindow (filter : CategoricalFilter F) (newWindow : F) : CategoricalFilter F :=
  { filter with filter := filter.filter.setWindow newWindow }

/-- The loop that determines the maximum probability: the first of the largest entries, with its
index. -/
def maxProbability : List F → ℕ → Option (F × ℕ) → Option (F × ℕ)
  | [], _, best => best
  | p :: probabilities, i, best =>
    maxProbability probabilities (i + 1)
      (match best with
      | none => some (p, i)
      | some (q, j) => if Arithmetic.lt q p then some (p, i) else some (q, j))

/-- `filteredCategory`, as far as `filteredCategoryIsUnambiguous`; the code throws an exception
where this is `none`. -/
def filteredCategory (filter : CategoricalFilter F) : Option ℕ :=
  let probabilities := filter.filter.predict
  let normalizationFactor := probabilities.foldl (· + ·) (lit 0)
  match maxProbability (probabilities.map (· / normalizationFactor)) 0 none with
  | some (p, i) =>
    if Arithmetic.le filter.uniformCategorizationThreshold p then some i else none
  | none => none

end CategoricalFilter

end Touchless
