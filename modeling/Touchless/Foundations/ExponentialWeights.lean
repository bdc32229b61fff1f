import Mathlib.Algebra.BigOperators.Group.Finset.Basic
import Mathlib.Algebra.BigOperators.Ring.Finset
import Mathlib.Algebra.BigOperators.Ring.List
import Mathlib.Algebra.Module.BigOperators
import Mathlib.Algebra.Module.LinearMap.Basic
import Mathlib.Algebra.Order.BigOperators.Group.List
import Mathlib.Algebra.Order.Field.Basic
import Mathlib.Data.Finset.Max
import Mathlib.Data.Fintype.Basic
import Mathlib.Data.List.Induction
import Mathlib.Tactic.Abel
import Mathlib.Tactic.FieldSimp
import Mathlib.Tactic.Linarith
import Mathlib.Tactic.Ring

/-!
# Exponential weights

A running average gives each new value a weight `f` between 0 and 1, and scales all earlier weights
by `1 - f`. In the end a value has the weight it was given times `1 - f` for every later value, and
the weights sum to 1 minus the product of all `1 - f` (`weightSum_eq`).

A quantity that a run updates as `f * g x + (1 - f) * previous` is the sum of `g` under these
weights (`total_concat`). Divided by the sum of the weights it is a mean (`mean`), which lies
between two of the values, and the mean of the products of two deviations is the covariance, for
which the usual formula holds (`covariance_eq`).
-/

namespace Touchless.ExponentialWeights

variable {K V M N : Type*} [Field K] [AddCommGroup M] [Module K M] [AddCommGroup N] [Module K N]

/-- The values, each with the weight it has in the end. -/
def weighted : List (K × V) → List (K × V)
  | [] => []
  | (f, x) :: later => (f * (later.map fun p ↦ 1 - p.1).prod, x) :: weighted later

/-- The sum of a quantity under the weights. -/
def total (g : V → M) (us : List (K × V)) : M := ((weighted us).map fun p ↦ p.1 • g p.2).sum

/-- The sum of the weights. -/
def weightSum (us : List (K × V)) : K := ((weighted us).map Prod.fst).sum

/-- The mean of a quantity. -/
def mean (g : V → M) (us : List (K × V)) : M := (weightSum us)⁻¹ • total g us

/-! ### One value more -/

theorem weighted_concat (us : List (K × V)) (u : K × V) :
    weighted (us ++ [u]) = (weighted us).map (fun p ↦ ((1 - u.1) * p.1, p.2)) ++ [u] := by
  induction us with
  | nil => simp [weighted]
  | cons v us ih =>
    simp only [List.cons_append, weighted, ih, List.map_cons, List.map_append, List.prod_append,
      List.map_nil, List.prod_singleton]
    congr 2
    ring

@[simp]
theorem total_nil (g : V → M) : total g ([] : List (K × V)) = 0 := rfl

@[simp]
theorem weightSum_nil : weightSum ([] : List (K × V)) = 0 := rfl

/-- **What a new value does to a sum.** -/
theorem total_concat (g : V → M) (us : List (K × V)) (u : K × V) :
    total g (us ++ [u]) = u.1 • g u.2 + (1 - u.1) • total g us := by
  rw [total, weighted_concat, List.map_append, List.sum_append, List.map_map, total,
    List.smul_sum, List.map_map, add_comm]
  congr 1
  · simp
  · simp only [Function.comp_def, mul_smul]

theorem weightSum_eq_total (us : List (K × V)) : weightSum us = total (fun _ ↦ (1 : K)) us := by
  simp [weightSum, total]

theorem weightSum_concat (us : List (K × V)) (u : K × V) :
    weightSum (us ++ [u]) = u.1 + (1 - u.1) * weightSum us := by
  simp [weightSum_eq_total, total_concat]

/-- **The sum of the weights.** -/
theorem weightSum_eq (us : List (K × V)) :
    weightSum us = 1 - (us.map fun p ↦ 1 - p.1).prod := by
  induction us using List.reverseRecOn with
  | nil => simp
  | append_singleton us u ih =>
    rw [weightSum_concat, ih]
    simp only [List.map_append, List.prod_append, List.map_cons, List.map_nil, List.prod_singleton]
    ring

/-- The weights sum to 1 exactly if some value was given the weight 1. -/
theorem weightSum_eq_one_iff (us : List (K × V)) : weightSum us = 1 ↔ ∃ u ∈ us, u.1 = 1 := by
  rw [weightSum_eq, sub_eq_self, List.prod_eq_zero_iff, List.mem_map]
  simp only [sub_eq_zero]
  exact ⟨fun ⟨u, hu, h⟩ ↦ ⟨u, hu, h.symm⟩, fun ⟨u, hu, h⟩ ↦ ⟨u, hu, h.symm⟩⟩

/-- The weighted values are the values. -/
theorem exists_mem_of_mem_weighted {us : List (K × V)} {p : K × V} (h : p ∈ weighted us) :
    ∃ u ∈ us, u.2 = p.2 := by
  induction us with
  | nil => exact absurd h List.not_mem_nil
  | cons u us ih =>
    rcases List.mem_cons.1 h with rfl | h
    · exact ⟨u, List.mem_cons_self, rfl⟩
    · obtain ⟨v, hv, heq⟩ := ih h
      exact ⟨v, List.mem_cons_of_mem u hv, heq⟩

/-- Only the values of the list count. -/
theorem mean_congr {us : List (K × V)} {g h : V → M} (heq : ∀ u ∈ us, g u.2 = h u.2) :
    mean g us = mean h us := by
  rw [mean, mean, total, total]
  congr 2
  refine List.map_congr_left fun p hp ↦ ?_
  obtain ⟨u, hu, hvalue⟩ := exists_mem_of_mem_weighted hp
  rw [← hvalue, heq u hu]

/-! ### Linearity -/

/-- A linear map of the quantity is one of its sum. -/
theorem total_linear (L : M →ₗ[K] N) (g : V → M) (us : List (K × V)) :
    total (fun x ↦ L (g x)) us = L (total g us) := by
  induction us using List.reverseRecOn with
  | nil => simp
  | append_singleton us u ih => simp [total_concat, ih]

theorem total_add (g h : V → M) (us : List (K × V)) :
    total (fun x ↦ g x + h x) us = total g us + total h us := by
  induction us using List.reverseRecOn with
  | nil => simp
  | append_singleton us u ih =>
    rw [total_concat, total_concat, total_concat, ih, smul_add, smul_add]
    abel

theorem mean_linear (L : M →ₗ[K] N) (g : V → M) (us : List (K × V)) :
    mean (fun x ↦ L (g x)) us = L (mean g us) := by
  rw [mean, total_linear, mean, map_smul]

theorem mean_add (g h : V → M) (us : List (K × V)) :
    mean (fun x ↦ g x + h x) us = mean g us + mean h us := by
  rw [mean, total_add, smul_add, mean, mean]

/-- The mean of a constant. -/
theorem mean_const {us : List (K × V)} (h : weightSum us ≠ 0) (c : K) :
    mean (fun _ ↦ c) us = c := by
  have htotal : total (fun _ ↦ c) us = c * weightSum us := by
    rw [weightSum_eq_total]
    have hlinear := total_linear (LinearMap.mulLeft K c) (fun _ : V ↦ (1 : K)) us
    simpa using hlinear
  rw [mean, htotal, smul_eq_mul]
  field_simp

/-! ### Weights between 0 and 1 -/

section Order

variable [LinearOrder K] [IsStrictOrderedRing K] {us : List (K × V)}

/-- Every value was given a weight between 0 and 1. -/
def Fractions (us : List (K × V)) : Prop := ∀ u ∈ us, 0 ≤ u.1 ∧ u.1 ≤ 1

theorem weighted_nonneg (h : Fractions us) : ∀ p ∈ weighted us, 0 ≤ p.1 := by
  induction us with
  | nil => exact fun p hp ↦ absurd hp List.not_mem_nil
  | cons u us ih =>
    have hlater : Fractions us := fun v hv ↦ h v (List.mem_cons_of_mem u hv)
    intro p hp
    rcases List.mem_cons.1 hp with rfl | hp
    · refine mul_nonneg (h u List.mem_cons_self).1 (List.prod_nonneg fun y hy ↦ ?_)
      obtain ⟨v, hv, rfl⟩ := List.mem_map.1 hy
      exact sub_nonneg.2 (hlater v hv).2
    · exact ih hlater p hp

/-- With one positive weight the sum is positive. -/
theorem weightSum_pos (h : Fractions us) (hpos : ∃ u ∈ us, 0 < u.1) : 0 < weightSum us := by
  induction us using List.reverseRecOn with
  | nil =>
    obtain ⟨u, hu, -⟩ := hpos
    exact absurd hu List.not_mem_nil
  | append_singleton us u ih =>
    have hearlier : Fractions us := fun v hv ↦ h v (List.mem_append_left _ hv)
    obtain ⟨hnonneg, hle⟩ := h u (List.mem_append_right _ List.mem_cons_self)
    have hsum : 0 ≤ weightSum us :=
      List.sum_nonneg fun y hy ↦ by
        obtain ⟨p, hp, rfl⟩ := List.mem_map.1 hy
        exact weighted_nonneg hearlier p hp
    rw [weightSum_concat]
    rcases hnonneg.lt_or_eq with hu | hu
    · exact add_pos_of_pos_of_nonneg hu (mul_nonneg (sub_nonneg.2 hle) hsum)
    -- the last weight is 0, so it is an earlier one that is positive
    · rw [← hu, zero_add, sub_zero, one_mul]
      obtain ⟨v, hv, hvpos⟩ := hpos
      rcases List.mem_append.1 hv with hv | hv
      · exact ih hearlier ⟨v, hv, hvpos⟩
      · rw [List.mem_singleton.1 hv, ← hu] at hvpos
        exact absurd hvpos (lt_irrefl 0)

/-- The mean of what is not negative is not negative. -/
theorem mean_nonneg (h : Fractions us) {g : V → K} (hg : ∀ u ∈ us, 0 ≤ g u.2) :
    0 ≤ mean g us := by
  have hsum : 0 ≤ weightSum us :=
    List.sum_nonneg fun y hy ↦ by
      obtain ⟨p, hp, rfl⟩ := List.mem_map.1 hy
      exact weighted_nonneg h p hp
  refine mul_nonneg (inv_nonneg.2 hsum) (List.sum_nonneg fun y hy ↦ ?_)
  obtain ⟨p, hp, rfl⟩ := List.mem_map.1 hy
  obtain ⟨u, hu, heq⟩ := exists_mem_of_mem_weighted hp
  exact mul_nonneg (weighted_nonneg h p hp) (heq ▸ hg u hu)

/-- A lower bound of the values is one of the mean. -/
theorem le_mean (h : Fractions us) (hpos : ∃ u ∈ us, 0 < u.1) {g : V → K} {c : K}
    (hg : ∀ u ∈ us, c ≤ g u.2) : c ≤ mean g us := by
  have hsum := (weightSum_pos h hpos).ne'
  have hdiff : 0 ≤ mean (fun x ↦ g x + -c) us :=
    mean_nonneg h fun u hu ↦ by linarith [hg u hu]
  rw [mean_add, mean_const hsum] at hdiff
  linarith

/-- **The mean lies between two of the values.** -/
theorem exists_le_mean (h : Fractions us) (hpos : ∃ u ∈ us, 0 < u.1) (g : V → K) :
    ∃ u ∈ us, g u.2 ≤ mean g us := by
  obtain ⟨v, hv, hvpos⟩ := hpos
  have hne : (Finset.univ : Finset (Fin us.length)).Nonempty :=
    ⟨⟨0, List.length_pos_of_mem hv⟩, Finset.mem_univ _⟩
  obtain ⟨i, -, hmin⟩ := Finset.exists_min_image Finset.univ (fun i ↦ g (us.get i).2) hne
  refine ⟨us.get i, List.get_mem us i, le_mean h ⟨v, hv, hvpos⟩ fun u hu ↦ ?_⟩
  obtain ⟨j, rfl⟩ := List.mem_iff_get.1 hu
  exact hmin j (Finset.mem_univ j)

theorem exists_mean_le (h : Fractions us) (hpos : ∃ u ∈ us, 0 < u.1) (g : V → K) :
    ∃ u ∈ us, mean g us ≤ g u.2 := by
  obtain ⟨u, hu, hle⟩ := exists_le_mean h hpos fun x ↦ -g x
  have hneg : mean (fun x ↦ -g x) us = -mean g us := by
    simpa using mean_linear (-LinearMap.id : K →ₗ[K] K) g us
  exact ⟨u, hu, by linarith⟩

end Order

/-! ### Covariance -/

/-- The mean of the products of the deviations of two quantities. -/
def covariance (g h : V → K) (us : List (K × V)) : K :=
  mean (fun x ↦ (g x - mean g us) * (h x - mean h us)) us

/-- **The covariance** is the mean of the products less the product of the means. -/
theorem covariance_eq {us : List (K × V)} (hsum : weightSum us ≠ 0) (g h : V → K) :
    covariance g h us = mean (fun x ↦ g x * h x) us - mean g us * mean h us := by
  have hexpand : (fun x ↦ (g x - mean g us) * (h x - mean h us)) = fun x ↦
      (g x * h x + (-mean h us) * g x) + ((-mean g us) * h x + mean g us * mean h us) := by
    funext x
    ring
  have hg := mean_linear (LinearMap.mulLeft K (-mean h us)) g us
  have hh := mean_linear (LinearMap.mulLeft K (-mean g us)) h us
  simp only [LinearMap.mulLeft_apply] at hg hh
  rw [covariance, hexpand, mean_add, mean_add, mean_add, hg, hh, mean_const hsum]
  ring

end Touchless.ExponentialWeights
