import Mathlib.Data.Matrix.Mul
import Mathlib.LinearAlgebra.Matrix.Symmetric
import Touchless.Foundations.ExponentialWeights

/-!
# Rolling mean and covariance

`RollingMean<dim>` of `Utility/RollingMean.h` in exact arithmetic, with both moments that it keeps:
the weighted sums of the measurements and of their squares, neither of them normalized, and the
`Integral` of the weights that `Predict` and `Unc2Cov` divide by.

The moments after any calls are sums under exponential weights (`holds_run`), so `Predict` is a mean
and `Unc2Cov` a covariance (`predict_unc2Cov`). `Transform` adds its offset to the moments as if
these were normalized, so what it does to mean and covariance is right once the weights sum to 1
(`transform_iff`).
-/

open Matrix

namespace Touchless

open ExponentialWeights

/-- The members of `RollingMean<dim>`; `C1` and `C2` only hold what `Predict` and `Unc2Cov`
return. -/
@[ext]
structure RollingMoments (dim : ℕ) (K : Type) where
  /-- `Sample` -/
  sample : K
  /-- `NonZero` -/
  nonZero : Bool
  /-- `Integral` -/
  integral : K
  /-- `P1` -/
  p1 : Fin dim → K
  /-- `P2` -/
  p2 : Matrix (Fin dim) (Fin dim) K

/-- A measurement, with its uncertainty. -/
structure Measurement (dim : ℕ) (K : Type) where
  /-- `Meas_State` -/
  state : Fin dim → K
  /-- `Meas_C2Unc` -/
  unc : Matrix (Fin dim) (Fin dim) K

/-- What a measurement adds to `P2`. -/
def Measurement.square {dim : ℕ} {K : Type} [Field K] (meas : Measurement dim K) :
    Matrix (Fin dim) (Fin dim) K :=
  meas.unc + vecMulVec meas.state meas.state

namespace RollingMoments

variable {dim : ℕ} {K : Type} [Field K]

/-- The constructor. -/
def construct (dim : ℕ) (K : Type) [Field K] : RollingMoments dim K where
  sample := 1
  nonZero := false
  integral := 0
  p1 := 0
  p2 := 0

/-- `Ready`. -/
def ready [LinearOrder K] (r : RollingMoments dim K) : Bool :=
  if 1 - r.integral > r.sample then false else true

/-- `Reset`. -/
def reset (r : RollingMoments dim K) : RollingMoments dim K :=
  { r with nonZero := false, integral := 0, p1 := 0, p2 := 0 }

/-- `Predict`. -/
def predict (r : RollingMoments dim K) : Fin dim → K :=
  if r.nonZero then fun i ↦ r.p1 i / r.integral else 0

/-- `Unc2Cov`. -/
def unc2Cov (r : RollingMoments dim K) : Matrix (Fin dim) (Fin dim) K :=
  if r.nonZero then
    let c1 : Fin dim → K := fun i ↦ r.p1 i / r.integral
    r.p2.map (· / r.integral) - vecMulVec c1 c1
  else 0

/-- `Update`. -/
def update (r : RollingMoments dim K) (meas : Measurement dim K) (weight : K) :
    RollingMoments dim K :=
  let filter := weight * r.sample
  { r with
    nonZero := true
    integral := filter + (1 - filter) * r.integral
    p1 := filter • meas.state + (1 - filter) • r.p1
    p2 := filter • meas.square + (1 - filter) • r.p2 }

/-- `Transform`. -/
def transform (r : RollingMoments dim K) (mul : Matrix (Fin dim) (Fin dim) K) (add : Fin dim → K) :
    RollingMoments dim K :=
  { r with
    p2 := mul * r.p2 * mulᵀ + vecMulVec (mul *ᵥ r.p1) add + vecMulVec add (mul *ᵥ r.p1) +
      vecMulVec add add
    p1 := mul *ᵥ r.p1 + add }

/-- The `Sample` for a new window; a window below 1 is ignored. -/
def newSample [LinearOrder K] (sample newWindow : K) : K :=
  if 1 ≤ newWindow then 1 / newWindow else sample

/-- `SetWindow`. -/
def setWindow [LinearOrder K] (r : RollingMoments dim K) (newWindow : K) : RollingMoments dim K :=
  { r with sample := newSample r.sample newWindow }

/-- The first measurement after a reset. -/
theorem integral_reset_update (r : RollingMoments dim K) (meas : Measurement dim K) (weight : K) :
    (r.reset.update meas weight).integral = weight * r.sample := by
  show weight * r.sample + (1 - weight * r.sample) * 0 = _
  rw [mul_zero, add_zero]

/-- The first measurement after a reset is the mean. -/
theorem predict_reset_update (r : RollingMoments dim K) (meas : Measurement dim K) {weight : K}
    (h : weight * r.sample ≠ 0) : (r.reset.update meas weight).predict = meas.state := by
  rw [predict, if_pos (show (r.reset.update meas weight).nonZero = true from rfl),
    integral_reset_update]
  funext i
  show (weight * r.sample * meas.state i + (1 - weight * r.sample) * 0) / _ = _
  rw [mul_zero, add_zero, mul_div_cancel_left₀ _ h]

/-- **One measurement of weight 1 after a reset** makes the filter ready exactly if the window is at
most 2. -/
theorem ready_reset_update_iff [LinearOrder K] [IsStrictOrderedRing K] {r : RollingMoments dim K}
    {window : K} (hwindow : 0 < window) (hsample : r.sample = 1 / window)
    (meas : Measurement dim K) : (r.reset.update meas 1).ready = true ↔ window ≤ 2 := by
  have hfilterSample : (r.reset.update meas 1).sample = 1 / window := hsample
  have hlate : 1 - 1 / window > 1 / window ↔ 2 < window := by
    rw [gt_iff_lt, lt_sub_iff_add_lt, ← add_div, div_lt_one hwindow]
    norm_num
  rw [ready, integral_reset_update, one_mul, hsample, hfilterSample]
  simp only [hlate]
  split_ifs with h
  · simpa using h
  · simpa using h

/-! ### The moments -/

/-- The moments are those of the measurements, under exponential weights. -/
structure Holds (us : List (K × Measurement dim K)) (r : RollingMoments dim K) : Prop where
  nonZero : r.nonZero = !us.isEmpty
  integral : r.integral = weightSum us
  p1 : r.p1 = total Measurement.state us
  p2 : r.p2 = total Measurement.square us

variable {us : List (K × Measurement dim K)} {r : RollingMoments dim K}

theorem holds_reset (r : RollingMoments dim K) : Holds [] r.reset := ⟨rfl, rfl, rfl, rfl⟩

/-- A new measurement, with the weight it is given. -/
theorem holds_update (h : Holds us r) (meas : Measurement dim K) (weight : K) :
    Holds (us ++ [(weight * r.sample, meas)]) (r.update meas weight) where
  nonZero := by simp [update]
  integral := by
    rw [weightSum_concat, ← h.integral]
    rfl
  p1 := by
    rw [total_concat, ← h.p1]
    rfl
  p2 := by
    rw [total_concat, ← h.p2]
    rfl

/-- `Predict` is the mean of the measurements. -/
theorem predict_eq (h : Holds us r) (hne : us ≠ []) : r.predict = mean Measurement.state us := by
  rw [predict, h.nonZero, if_pos (by simpa using hne), h.p1, h.integral, mean]
  funext i
  rw [Pi.smul_apply, smul_eq_mul, div_eq_inv_mul]

theorem predict_apply (h : Holds us r) (hne : us ≠ []) (i : Fin dim) :
    r.predict i = mean (fun meas ↦ meas.state i) us := by
  rw [predict_eq h hne]
  exact (mean_linear (LinearMap.proj i) Measurement.state us).symm

/-- The covariance that `Unc2Cov` computes, with the mean of the uncertainties. -/
theorem unc2Cov_apply (h : Holds us r) (hne : us ≠ []) (i j : Fin dim) :
    r.unc2Cov i j = mean (fun meas ↦ meas.square i j) us - r.predict i * r.predict j := by
  have hnonZero : r.nonZero = true := by
    rw [h.nonZero]
    simpa using hne
  have hsquare : r.p2 i j / r.integral = mean (fun meas ↦ meas.square i j) us := by
    have hentry := mean_linear (Matrix.entryLinearMap K K i j) Measurement.square us
    simp only [Matrix.entryLinearMap_apply] at hentry
    rw [hentry, mean, ← h.p2, ← h.integral, Matrix.smul_apply, smul_eq_mul, div_eq_inv_mul]
  rw [unc2Cov, predict, if_pos hnonZero, if_pos hnonZero, ← hsquare]
  rfl

/-! ### Mean and covariance -/

/-- The covariance of the components of the measurements. -/
def covarianceMatrix (us : List (K × Measurement dim K)) : Matrix (Fin dim) (Fin dim) K :=
  Matrix.of fun i j ↦ covariance (fun meas ↦ meas.state i) (fun meas ↦ meas.state j) us

/-- Without uncertainties, `Unc2Cov` is the covariance of the measurements. -/
theorem unc2Cov_eq (h : Holds us r) (hsum : weightSum us ≠ 0) (hunc : ∀ u ∈ us, u.2.unc = 0) :
    r.unc2Cov = covarianceMatrix us := by
  have hne : us ≠ [] := by
    rintro rfl
    exact hsum rfl
  ext i j
  have hsquare : mean (fun meas ↦ meas.square i j) us =
      mean (fun meas ↦ meas.state i * meas.state j) us := by
    refine mean_congr fun u hu ↦ ?_
    rw [Measurement.square, hunc u hu, zero_add, vecMulVec_apply]
  rw [unc2Cov_apply h hne, hsquare, predict_apply h hne, predict_apply h hne]
  exact (covariance_eq hsum _ _).symm

/-- The quadratic form of a matrix, as a function of the matrix. -/
def quadratic (v : Fin dim → K) : Matrix (Fin dim) (Fin dim) K →ₗ[K] K where
  toFun A := v ⬝ᵥ A *ᵥ v
  map_add' A B := by rw [Matrix.add_mulVec, dotProduct_add]
  map_smul' c A := by rw [Matrix.smul_mulVec, dotProduct_smul, RingHom.id_apply]

/-- **The covariance is positive semidefinite**: its quadratic form is the mean of squares. -/
theorem covarianceMatrix_nonneg [LinearOrder K] [IsStrictOrderedRing K]
    (hfractions : Fractions us) (v : Fin dim → K) :
    0 ≤ v ⬝ᵥ covarianceMatrix us *ᵥ v := by
  let deviation : Measurement dim K → Fin dim → K :=
    fun meas i ↦ meas.state i - mean (fun meas ↦ meas.state i) us
  have hmean : covarianceMatrix us =
      mean (fun meas ↦ vecMulVec (deviation meas) (deviation meas)) us := by
    ext i j
    exact mean_linear (Matrix.entryLinearMap K K i j)
      (fun meas ↦ vecMulVec (deviation meas) (deviation meas)) us
  have hform : v ⬝ᵥ covarianceMatrix us *ᵥ v =
      mean (fun meas ↦ (v ⬝ᵥ deviation meas) * (v ⬝ᵥ deviation meas)) us := by
    show quadratic v (covarianceMatrix us) = _
    rw [hmean, ← mean_linear]
    congr 1
    funext meas
    show v ⬝ᵥ vecMulVec (deviation meas) (deviation meas) *ᵥ v = _
    rw [vecMulVec_mulVec, dotProduct_smul, dotProduct_comm (deviation meas) v]
    rfl
  rw [hform]
  exact mean_nonneg hfractions fun u _ ↦ mul_self_nonneg _

theorem covarianceMatrix_isSymm (us : List (K × Measurement dim K)) :
    (covarianceMatrix us).IsSymm := by
  ext i j
  simp only [covarianceMatrix, Matrix.transpose_apply, Matrix.of_apply, covariance, mul_comm]

/-! ### Transformations -/

theorem unc2Cov_of_nonZero (h : r.nonZero = true) :
    r.unc2Cov = r.integral⁻¹ • r.p2 - vecMulVec r.predict r.predict := by
  rw [unc2Cov, predict, if_pos h, if_pos h]
  ext i j
  simp only [Matrix.sub_apply, Matrix.map_apply, Matrix.smul_apply, smul_eq_mul, div_eq_inv_mul]

/-- The first moment, from the mean. -/
theorem p1_eq (h : r.nonZero = true) (hintegral : r.integral ≠ 0) :
    r.p1 = r.integral • r.predict := by
  rw [predict, if_pos h]
  funext i
  rw [Pi.smul_apply, smul_eq_mul, mul_div_cancel₀ _ hintegral]

/-- The second moment, from the covariance and the mean. -/
theorem p2_eq (h : r.nonZero = true) (hintegral : r.integral ≠ 0) :
    r.p2 = r.integral • (r.unc2Cov + vecMulVec r.predict r.predict) := by
  rw [unc2Cov_of_nonZero h, sub_add_cancel, smul_smul, mul_inv_cancel₀ hintegral, one_smul]

/-- What `Transform` does to the mean: its offset is divided by the integral. -/
theorem predict_transform (h : r.nonZero = true) (hintegral : r.integral ≠ 0)
    (mul : Matrix (Fin dim) (Fin dim) K) (add : Fin dim → K) :
    (r.transform mul add).predict = mul *ᵥ r.predict + r.integral⁻¹ • add := by
  rw [predict, transform, if_pos h]
  funext i
  simp only [p1_eq h hintegral, Matrix.mulVec_smul, Pi.add_apply, Pi.smul_apply, smul_eq_mul]
  field_simp

/-- What `Transform` does to the covariance: it is off by a matrix that vanishes when the integral
is 1 or the offset is 0. -/
theorem unc2Cov_transform (h : r.nonZero = true) (hintegral : r.integral ≠ 0)
    (mul : Matrix (Fin dim) (Fin dim) K) (add : Fin dim → K) :
    (r.transform mul add).unc2Cov = mul * r.unc2Cov * mulᵀ +
      (1 - r.integral⁻¹) • (vecMulVec (mul *ᵥ r.predict) add + vecMulVec add (mul *ᵥ r.predict) +
        r.integral⁻¹ • vecMulVec add add) := by
  have hsquare : mul * vecMulVec r.predict r.predict * mulᵀ =
      vecMulVec (mul *ᵥ r.predict) (mul *ᵥ r.predict) := by
    rw [Matrix.mul_vecMulVec, Matrix.vecMulVec_mul, Matrix.vecMul_transpose]
  have hp2 : (r.transform mul add).p2 =
      r.integral • (mul * r.unc2Cov * mulᵀ + vecMulVec (mul *ᵥ r.predict) (mul *ᵥ r.predict)) +
        r.integral • vecMulVec (mul *ᵥ r.predict) add +
        r.integral • vecMulVec add (mul *ᵥ r.predict) + vecMulVec add add := by
    rw [transform, p1_eq h hintegral, p2_eq h hintegral, Matrix.mul_smul, Matrix.smul_mul,
      Matrix.mul_add, Matrix.add_mul, hsquare, Matrix.mulVec_smul, Matrix.smul_vecMulVec,
      Matrix.vecMulVec_smul]
  rw [unc2Cov_of_nonZero (show (r.transform mul add).nonZero = true from h), hp2,
    predict_transform h hintegral]
  show r.integral⁻¹ • _ - _ = _
  ext i j
  simp only [Matrix.sub_apply, Matrix.add_apply, Matrix.smul_apply, vecMulVec_apply, Pi.add_apply,
    Pi.smul_apply, smul_eq_mul]
  field_simp
  ring

/-- **`Transform`** maps the mean and the covariance as it should exactly if its offset is 0 or the
integral is 1. -/
theorem transform_law_iff (h : r.nonZero = true) (hintegral : r.integral ≠ 0)
    (mul : Matrix (Fin dim) (Fin dim) K) (add : Fin dim → K) :
    ((r.transform mul add).predict = mul *ᵥ r.predict + add ∧
        (r.transform mul add).unc2Cov = mul * r.unc2Cov * mulᵀ) ↔
      add = 0 ∨ r.integral = 1 := by
  rw [predict_transform h hintegral, unc2Cov_transform h hintegral, add_right_inj]
  constructor
  · rintro ⟨hoffset, -⟩
    have hzero : (r.integral⁻¹ - 1) • add = 0 := by
      rw [sub_smul, hoffset, one_smul, sub_self]
    rcases smul_eq_zero.1 hzero with hone | hadd
    · exact .inr (inv_eq_one.1 (sub_eq_zero.1 hone))
    · exact .inl hadd
  · rintro (rfl | hone)
    · simp
    · simp [hone]

/-! ### Runs -/

section Runs

variable [LinearOrder K]

/-- The calls between two resets. -/
inductive Call (dim : ℕ) (K : Type) where
  | update (meas : Measurement dim K) (weight : K)
  | setWindow (newWindow : K)

/-- One call. -/
def exec (r : RollingMoments dim K) : Call dim K → RollingMoments dim K
  | .update meas weight => r.update meas weight
  | .setWindow newWindow => r.setWindow newWindow

/-- A sequence of calls. -/
def run (r : RollingMoments dim K) (calls : List (Call dim K)) : RollingMoments dim K :=
  calls.foldl exec r

/-- The measurements of a sequence of calls, each with its effective weight: the weight times the
`Sample` at the time. -/
def measurements : K → List (Call dim K) → List (K × Measurement dim K)
  | _, [] => []
  | sample, .update meas weight :: calls => (weight * sample, meas) :: measurements sample calls
  | sample, .setWindow newWindow :: calls => measurements (newSample sample newWindow) calls

theorem holds_run (calls : List (Call dim K)) : ∀ {us : List (K × Measurement dim K)}
    {r : RollingMoments dim K}, Holds us r →
      Holds (us ++ measurements r.sample calls) (run r calls) := by
  induction calls with
  | nil =>
    intro us r h
    rwa [measurements, List.append_nil]
  | cons call calls ih =>
    intro us r h
    cases call with
    | update meas weight =>
      have hrest := ih (holds_update h meas weight)
      rwa [List.append_assoc] at hrest
    | setWindow newWindow => exact ih (r := r.setWindow newWindow) ⟨h.1, h.2, h.3, h.4⟩

/-- **The moments after a reset** are those of the measurements since then. -/
theorem holds_run_reset (r : RollingMoments dim K) (calls : List (Call dim K)) :
    Holds (measurements r.sample calls) (run r.reset calls) :=
  holds_run calls (holds_reset r)

variable [IsStrictOrderedRing K]

/-- **`Predict` and `Unc2Cov` after any calls since a reset**, with effective weights between 0 and
1 of which one is positive: `Predict` is the mean of the measurements under exponential weights,
each component between two measurements, and without uncertainties `Unc2Cov` is their covariance,
which is symmetric and positive semidefinite. -/
theorem predict_unc2Cov (r : RollingMoments dim K) (calls : List (Call dim K))
    (hfractions : Fractions (measurements r.sample calls))
    (hpos : ∃ u ∈ measurements r.sample calls, 0 < u.1) :
    let us := measurements r.sample calls
    let final := run r.reset calls
    final.predict = (weightSum us)⁻¹ • total Measurement.state us ∧
      (∀ i, (∃ u ∈ us, u.2.state i ≤ final.predict i) ∧ ∃ u ∈ us, final.predict i ≤ u.2.state i) ∧
      ((∀ u ∈ us, u.2.unc = 0) →
        final.unc2Cov = covarianceMatrix us ∧ final.unc2Cov.IsSymm ∧
          ∀ v, 0 ≤ v ⬝ᵥ final.unc2Cov *ᵥ v) := by
  intro us final
  have hholds : Holds us final := holds_run_reset r calls
  have hne : us ≠ [] := by
    obtain ⟨u, hu, -⟩ := hpos
    exact List.ne_nil_of_mem hu
  refine ⟨predict_eq hholds hne, fun i ↦ ?_, fun hunc ↦ ?_⟩
  · rw [predict_apply hholds hne]
    exact ⟨exists_le_mean hfractions hpos fun meas ↦ meas.state i,
      exists_mean_le hfractions hpos fun meas ↦ meas.state i⟩
  · rw [unc2Cov_eq hholds (weightSum_pos hfractions hpos).ne' hunc]
    exact ⟨rfl, covarianceMatrix_isSymm us, covarianceMatrix_nonneg hfractions⟩

/-- Two measurements in a window of 2. -/
theorem predict_unc2Cov_two :
    let calls : List (Call 2 ℚ) :=
      [.setWindow 2, .update ⟨![1, 0], 0⟩ 1, .update ⟨![0, 3], 0⟩ 1]
    ∀ v, 0 ≤ v ⬝ᵥ (run (construct 2 ℚ).reset calls).unc2Cov *ᵥ v := by
  intro calls
  have hus : measurements (construct 2 ℚ).sample calls =
      [(1 / 2, ⟨![1, 0], 0⟩), (1 / 2, ⟨![0, 3], 0⟩)] := by
    simp [calls, measurements, newSample]
  have hweights : ∀ u ∈ measurements (construct 2 ℚ).sample calls, u.1 = 1 / 2 ∧ u.2.unc = 0 := by
    rw [hus]
    intro u hu
    rcases List.mem_pair.1 hu with rfl | rfl <;> exact ⟨rfl, rfl⟩
  have hfractions : Fractions (measurements (construct 2 ℚ).sample calls) := fun u hu ↦ by
    rw [(hweights u hu).1]
    norm_num
  have hpos : ∃ u ∈ measurements (construct 2 ℚ).sample calls, 0 < u.1 := by
    rw [hus]
    exact ⟨_, List.mem_cons_self, by norm_num⟩
  exact ((predict_unc2Cov (construct 2 ℚ) calls hfractions hpos).2.2
    fun u hu ↦ (hweights u hu).2).2.2

/-- **`Transform` after any calls since a reset**: it maps the mean to `mul * mean + add` and the
covariance to `mul * covariance * mulᵀ` exactly if `add` is 0 or a measurement since the reset had
the effective weight 1. -/
theorem transform_iff (r : RollingMoments dim K) (calls : List (Call dim K))
    (hfractions : Fractions (measurements r.sample calls))
    (hpos : ∃ u ∈ measurements r.sample calls, 0 < u.1)
    (mul : Matrix (Fin dim) (Fin dim) K) (add : Fin dim → K) :
    (((run r.reset calls).transform mul add).predict =
          mul *ᵥ (run r.reset calls).predict + add ∧
        ((run r.reset calls).transform mul add).unc2Cov =
          mul * (run r.reset calls).unc2Cov * mulᵀ) ↔
      add = 0 ∨ ∃ u ∈ measurements r.sample calls, u.1 = 1 := by
  have hholds := holds_run_reset r calls
  have hnonZero : (run r.reset calls).nonZero = true := by
    obtain ⟨u, hu, -⟩ := hpos
    rw [hholds.nonZero]
    simpa using List.ne_nil_of_mem hu
  have hintegral : (run r.reset calls).integral ≠ 0 := by
    rw [hholds.integral]
    exact (weightSum_pos hfractions hpos).ne'
  rw [transform_law_iff hnonZero hintegral, hholds.integral, weightSum_eq_one_iff]

/-- In the default window the first measurement has the effective weight 1; a second one in a window
of 2 gives the moments a variance. -/
theorem transform_growing_window :
    let calls : List (Call 1 ℚ) := [.update ⟨![3], 0⟩ 1, .setWindow 2, .update ⟨![5], 0⟩ 1]
    let r := run (construct 1 ℚ).reset calls
    r.unc2Cov ≠ 0 ∧
    (r.transform (Matrix.of ![![2]]) ![5]).predict = Matrix.of ![![2]] *ᵥ r.predict + ![5] ∧
      (r.transform (Matrix.of ![![2]]) ![5]).unc2Cov =
        Matrix.of ![![2]] * r.unc2Cov * (Matrix.of ![![2]])ᵀ := by
  intro calls r
  have hus : measurements (construct 1 ℚ).sample calls = [(1, ⟨![3], 0⟩), (1 / 2, ⟨![5], 0⟩)] := by
    simp [calls, measurements, construct, newSample]
  have hvariance : r.unc2Cov ≠ 0 := fun hzero ↦ by
    have hone : r.unc2Cov 0 0 = 1 := by decide +kernel
    rw [hzero] at hone
    exact zero_ne_one hone
  refine ⟨hvariance, (transform_iff (construct 1 ℚ) calls ?_ ?_ _ _).2 (.inr ?_)⟩
  · rw [hus]
    intro u hu
    rcases List.mem_pair.1 hu with rfl | rfl <;> norm_num
  · exact ⟨_, hus ▸ List.mem_cons_self, one_pos⟩
  · exact ⟨_, hus ▸ List.mem_cons_self, rfl⟩

/-- In a window of 2, where one measurement makes the filter ready, `Transform` by an offset of 1
moves the mean by 2. -/
theorem not_transform_window_two :
    ¬ ∀ (calls : List (Call 1 ℚ)) (mul : Matrix (Fin 1) (Fin 1) ℚ) (add : Fin 1 → ℚ),
      Fractions (measurements (construct 1 ℚ).sample calls) →
        (∃ u ∈ measurements (construct 1 ℚ).sample calls, 0 < u.1) →
          let r := run (construct 1 ℚ).reset calls
          (r.transform mul add).predict = mul *ᵥ r.predict + add ∧
            (r.transform mul add).unc2Cov = mul * r.unc2Cov * mulᵀ := by
  intro hlaw
  have hus : measurements (construct 1 ℚ).sample [.setWindow 2, .update ⟨![0], 0⟩ 1] =
      [(1 / 2, ⟨![0], 0⟩)] := by
    simp [measurements, newSample]
  have hlaw := hlaw [.setWindow 2, .update ⟨![0], 0⟩ 1] (Matrix.of ![![1]]) ![1]
    (by
      rw [hus]
      intro u hu
      rw [List.mem_singleton.1 hu]
      norm_num)
    ⟨_, hus ▸ List.mem_cons_self, by norm_num⟩
  exact absurd hlaw.1 (by decide +kernel)

example : (run (construct 1 ℚ).reset [.setWindow 2, .update ⟨![0], 0⟩ 1]).ready = true := by
  decide +kernel

end Runs

end RollingMoments

end Touchless
