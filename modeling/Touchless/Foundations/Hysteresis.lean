import Mathlib.Algebra.Order.Field.Basic
import Mathlib.Data.Set.Finite.Lemmas
import Mathlib.Order.Interval.Finset.Nat
import Mathlib.Order.Bounds.Basic
import Mathlib.Tactic.Linarith

/-!
# Triggers with hysteresis

A trigger for the movement of a distance back and forth. The first one is given when the distance is
far enough from zero, and each later one when the distance has come back far enough from its extreme
since the one before (`trigger_first`, `trigger_next`). What is kept for this is a threshold that
moves on with the distance in the direction of the last trigger: the extreme since then
(`Tracks.threshold`).
-/

namespace Touchless

/-- The direction of a trigger. -/
inductive Trigger where
  | positive
  | negative
  deriving DecidableEq

namespace Trigger

variable {K : Type} [Field K] [LinearOrder K]

/-- The other direction. -/
def opposite : Trigger → Trigger
  | positive => negative
  | negative => positive

/-- A distance, as it is counted in the direction. -/
def signed (t : Trigger) (x : K) : K :=
  match t with
  | positive => x
  | negative => -x

end Trigger

/-- What is kept between two distances. -/
structure Hysteresis (K : Type) where
  threshold : K
  direction : Option Trigger

namespace Hysteresis

variable {K : Type} [Field K] [LinearOrder K]

/-- What a new distance leaves, and the trigger it gives. -/
def step (width : K) (h : Hysteresis K) (distance : K) : Hysteresis K × Option Trigger :=
  match h.direction with
  | some t =>
    if t.signed h.threshold < t.signed distance then (⟨distance, some t⟩, none)
    else if t.signed distance ≤ t.signed h.threshold - width then
      (⟨distance, some t.opposite⟩, some t.opposite)
    else (h, none)
  | none =>
    if width ≤ distance then (⟨distance, some .positive⟩, some .positive)
    else if distance ≤ -width then (⟨distance, some .negative⟩, some .negative)
    else (h, none)

variable (width : K) (start : K) (d : ℕ → K)

/-- What is kept before a distance. -/
def before : ℕ → Hysteresis K
  | 0 => ⟨start, none⟩
  | n + 1 => (step width (before n) (d n)).1

/-- The trigger that a distance gives. -/
def trigger (n : ℕ) : Option Trigger := (step width (before width start d n) (d n)).2

end Hysteresis

/-! ### The first trigger -/

/-- The first trigger from some place on. -/
structure FirstTrigger (s : ℕ → Option Trigger) (start i : ℕ) : Prop where
  le : start ≤ i
  trigger : s i ≠ none
  quiet : ∀ k, start ≤ k → k < i → s k = none

/-- It is the least place of a property that triggers as long as there is none. -/
theorem firstTrigger_iff_isLeast {s : ℕ → Option Trigger} {start : ℕ} {P : ℕ → Prop}
    (h : ∀ i, start ≤ i → (∀ k, start ≤ k → k < i → s k = none) → (s i ≠ none ↔ P i)) (i : ℕ) :
    FirstTrigger s start i ↔ IsLeast {i | start ≤ i ∧ P i} i := by
  constructor
  · rintro ⟨hle, htrigger, hquiet⟩
    refine ⟨⟨hle, (h i hle hquiet).1 htrigger⟩, fun k ⟨hk, hP⟩ ↦ ?_⟩
    by_contra hlt
    have hki : k < i := not_le.1 hlt
    exact (h k hk fun l hl hlk ↦ hquiet l hl (hlk.trans hki)).2 hP (hquiet k hk hki)
  · rintro ⟨⟨hle, hP⟩, hleast⟩
    have hquiet : ∀ k, start ≤ k → k < i → s k = none := by
      intro k
      induction k using Nat.strong_induction_on with
      | h k ih =>
        intro hk hki
        by_contra htrigger
        exact absurd (hleast ⟨hk, (h k hk fun l hl hlk ↦ ih l hlk hl (hlk.trans hki)).1 htrigger⟩)
          (not_le.2 hki)
    exact ⟨hle, (h i hle hquiet).2 hP, hquiet⟩

namespace Hysteresis

variable {K : Type} [Field K] [LinearOrder K] [IsStrictOrderedRing K] {width start : K} {d : ℕ → K}

/-- The distance has come back from its extreme since some place. -/
def CameBack (width : K) (d : ℕ → K) (t : Trigger) (j i : ℕ) : Prop :=
  ∃ k, j ≤ k ∧ k ≤ i ∧ t.signed (d i) ≤ t.signed (d k) - width

/-- What is kept says: there has been no trigger; or which one was the last, and the extreme since
then. -/
inductive Tracks (s : ℕ → Option Trigger) (d : ℕ → K) (n : ℕ) : Hysteresis K → Prop
  | start {threshold : K} (hquiet : ∀ k < n, s k = none) : Tracks s d n ⟨threshold, none⟩
  | after {j : ℕ} {t : Trigger} {threshold : K} (hlt : j < n) (htrigger : s j = some t)
    (hquiet : ∀ k, j + 1 ≤ k → k < n → s k = none)
    (hthreshold : IsGreatest ((fun k ↦ t.signed (d k)) '' Set.Ico j n) (t.signed threshold)) :
    Tracks s d n ⟨threshold, some t⟩

/-- What a distance triggers after a trigger. -/
theorem step_some (hwidth : 0 < width) {t : Trigger} {j n : ℕ} {threshold : K} (hlt : j < n)
    (hthreshold : IsGreatest ((fun k ↦ t.signed (d k)) '' Set.Ico j n) (t.signed threshold)) :
    (CameBack width d t j n → step width ⟨threshold, some t⟩ (d n) =
        (⟨d n, some t.opposite⟩, some t.opposite)) ∧
      (¬CameBack width d t j n → ∃ threshold',
        step width ⟨threshold, some t⟩ (d n) = (⟨threshold', some t⟩, none) ∧
        IsGreatest ((fun k ↦ t.signed (d k)) '' Set.Ico j (n + 1)) (t.signed threshold')) := by
  obtain ⟨⟨top, ⟨hjtop, htopn⟩, htop⟩, hbound⟩ := hthreshold
  -- it has come back from the extreme before it, or not at all
  have hback : CameBack width d t j n ↔ t.signed (d n) ≤ t.signed threshold - width := by
    constructor
    · rintro ⟨k, hjk, hkn, hle⟩
      rcases hkn.lt_or_eq with hkn | rfl
      · have hk : t.signed (d k) ≤ t.signed threshold := hbound ⟨k, ⟨hjk, hkn⟩, rfl⟩
        linarith
      · linarith
    · exact fun hle ↦ ⟨top, hjtop, htopn.le, by rwa [show t.signed (d top) = _ from htop]⟩
  have hextreme : ∀ {threshold' : K}, t.signed threshold ≤ t.signed threshold' →
      t.signed (d n) ≤ t.signed threshold' →
      t.signed threshold' ∈ (fun k ↦ t.signed (d k)) '' Set.Ico j (n + 1) →
      IsGreatest ((fun k ↦ t.signed (d k)) '' Set.Ico j (n + 1)) (t.signed threshold') := by
    rintro threshold' hold hnew hmem
    refine ⟨hmem, ?_⟩
    rintro _ ⟨k, ⟨hjk, hkn⟩, rfl⟩
    rcases (Nat.lt_succ_iff.1 hkn).lt_or_eq with hkn | rfl
    · exact (hbound ⟨k, ⟨hjk, hkn⟩, rfl⟩).trans hold
    · exact hnew
  by_cases hnew : t.signed threshold < t.signed (d n)
  · have hstep : step width ⟨threshold, some t⟩ (d n) = (⟨d n, some t⟩, none) := if_pos hnew
    refine ⟨fun h ↦ ?_, fun _ ↦ ⟨d n, hstep, ?_⟩⟩
    · have hle := hback.1 h
      linarith
    · exact hextreme hnew.le le_rfl ⟨n, ⟨hlt.le, n.lt_succ_self⟩, rfl⟩
  · refine ⟨fun h ↦ ?_, fun h ↦ ⟨threshold, ?_, ?_⟩⟩
    · exact (if_neg hnew).trans (if_pos (hback.1 h))
    · exact (if_neg hnew).trans (if_neg fun hle ↦ h (hback.2 hle))
    · exact hextreme le_rfl (not_lt.1 hnew) ⟨top, ⟨hjtop, htopn.trans n.lt_succ_self⟩, htop⟩

/-- What a distance triggers before any trigger. -/
theorem step_none (hwidth : 0 < width) (threshold distance : K) :
    (width ≤ |distance| →
      step width ⟨threshold, none⟩ distance =
        (⟨distance, some (if 0 < distance then .positive else .negative)⟩,
          some (if 0 < distance then .positive else .negative))) ∧
      (¬width ≤ |distance| →
        step width ⟨threshold, none⟩ distance = (⟨threshold, none⟩, none)) := by
  rw [le_abs']
  by_cases hpositive : width ≤ distance
  · have hstep : step width ⟨threshold, none⟩ distance =
        (⟨distance, some .positive⟩, some .positive) := if_pos hpositive
    rw [hstep, if_pos (hwidth.trans_le hpositive)]
    exact ⟨fun _ ↦ rfl, fun h ↦ absurd (.inr hpositive) h⟩
  · by_cases hnegative : distance ≤ -width
    · have hstep : step width ⟨threshold, none⟩ distance =
          (⟨distance, some .negative⟩, some .negative) :=
        (if_neg hpositive).trans (if_pos hnegative)
      rw [hstep, if_neg (by linarith)]
      exact ⟨fun _ ↦ rfl, fun h ↦ absurd (.inl hnegative) h⟩
    · exact ⟨fun h ↦ (h.elim hnegative hpositive).elim,
        fun _ ↦ (if_neg hpositive).trans (if_neg hnegative)⟩

omit [IsStrictOrderedRing K] in
/-- The place of a trigger is the first one since then. -/
theorem isGreatest_trigger (t : Trigger) (n : ℕ) :
    IsGreatest ((fun k ↦ t.signed (d k)) '' Set.Ico n (n + 1)) (t.signed (d n)) := by
  refine ⟨⟨n, ⟨le_rfl, n.lt_succ_self⟩, rfl⟩, ?_⟩
  rintro _ ⟨k, ⟨hnk, hkn⟩, rfl⟩
  rw [Nat.le_antisymm (Nat.lt_succ_iff.1 hkn) hnk]

/-- **What is kept tracks the run.** -/
theorem tracks_before (hwidth : 0 < width) (start : K) (d : ℕ → K) (n : ℕ) :
    Tracks (trigger width start d) d n (before width start d n) := by
  induction n with
  | zero => exact .start fun k hk ↦ absurd hk (Nat.not_lt_zero k)
  | succ n ih =>
    have hnext : before width start d (n + 1) = (step width (before width start d n) (d n)).1 := rfl
    have htrigger : trigger width start d n = (step width (before width start d n) (d n)).2 := rfl
    generalize before width start d n = h at ih hnext htrigger
    rw [hnext]
    cases ih with
    | @start threshold hquiet =>
      obtain ⟨hfar, hnear⟩ := step_none hwidth threshold (d n)
      by_cases hwide : width ≤ |d n|
      · rw [hfar hwide] at htrigger ⊢
        exact .after n.lt_succ_self htrigger (fun k hk hkn ↦ by omega) (isGreatest_trigger _ n)
      · rw [hnear hwide] at htrigger ⊢
        refine .start fun k hk ↦ ?_
        rcases (Nat.lt_succ_iff.1 hk).lt_or_eq with hkn | rfl
        · exact hquiet k hkn
        · exact htrigger
    | @after j t threshold hlt hlast hquiet hthreshold =>
      obtain ⟨hback, hnot⟩ := step_some hwidth hlt hthreshold
      by_cases hcame : CameBack width d t j n
      · rw [hback hcame] at htrigger ⊢
        exact .after n.lt_succ_self htrigger (fun k hk hkn ↦ by omega) (isGreatest_trigger _ n)
      · obtain ⟨threshold', hstep, hthreshold'⟩ := hnot hcame
        rw [hstep] at htrigger ⊢
        refine .after (hlt.trans n.lt_succ_self) hlast (fun k hk hkn ↦ ?_) hthreshold'
        rcases (Nat.lt_succ_iff.1 hkn).lt_or_eq with hkn | rfl
        · exact hquiet k hk hkn
        · exact htrigger

/-- What is triggered when nothing was before. -/
theorem trigger_of_quiet (hwidth : 0 < width) {i : ℕ}
    (hquiet : ∀ k < i, trigger width start d k = none) :
    trigger width start d i =
      if width ≤ |d i| then some (if 0 < d i then .positive else .negative) else none := by
  have htracks := tracks_before hwidth start d i
  rw [trigger]
  generalize before width start d i = h at htracks
  cases htracks with
  | @start threshold _ =>
    obtain ⟨hfar, hnear⟩ := step_none hwidth threshold (d i)
    split_ifs with hwide hpositive
    · rw [hfar hwide, if_pos hpositive]
    · rw [hfar hwide, if_neg hpositive]
    · rw [hnear hwide]
  | @after j t threshold hlt hlast _ _ =>
    rw [hquiet j hlt] at hlast
    cases hlast

/-- What is triggered after a trigger. -/
theorem trigger_of_last (hwidth : 0 < width) {t : Trigger} {j i : ℕ}
    (hlast : trigger width start d j = some t) (hlt : j < i)
    (hquiet : ∀ k, j + 1 ≤ k → k < i → trigger width start d k = none) :
    (CameBack width d t j i → trigger width start d i = some t.opposite) ∧
      (¬CameBack width d t j i → trigger width start d i = none) := by
  have htracks := tracks_before hwidth start d i
  have htrigger : trigger width start d i = (step width (before width start d i) (d i)).2 := rfl
  generalize before width start d i = h at htracks htrigger
  cases htracks with
  | start hnone =>
    rw [hnone j hlt] at hlast
    cases hlast
  | @after j' t' threshold hlt' hlast' hquiet' hthreshold =>
    -- there is only one last trigger
    obtain rfl : j' = j := by
      rcases Nat.lt_trichotomy j' j with h | h | h
      · rw [hquiet' j h hlt] at hlast
        cases hlast
      · exact h
      · rw [hquiet j' h hlt'] at hlast'
        cases hlast'
    obtain rfl : t' = t := Option.some.inj (hlast'.symm.trans hlast)
    obtain ⟨hback, hnot⟩ := step_some hwidth hlt' hthreshold
    refine ⟨fun hcame ↦ ?_, fun hcame ↦ ?_⟩
    · rw [htrigger, hback hcame]
    · obtain ⟨threshold', hstep, -⟩ := hnot hcame
      rw [htrigger, hstep]

/-- **The first trigger** is given when the distance is far enough from zero, -/
theorem trigger_first (hwidth : 0 < width) (i : ℕ) :
    FirstTrigger (trigger width start d) 0 i ↔ IsLeast {i | width ≤ |d i|} i := by
  have hset : {i | width ≤ |d i|} = {i | 0 ≤ i ∧ width ≤ |d i|} := by simp
  rw [hset]
  refine firstTrigger_iff_isLeast (P := fun i ↦ width ≤ |d i|) (fun i _ hquiet ↦ ?_) i
  rw [trigger_of_quiet hwidth fun k hk ↦ hquiet k (Nat.zero_le k) hk]
  split_ifs with hwide <;> simp [hwide]

/-- **and each later one** when it has come back far enough from its extreme since the one before.
-/
theorem trigger_next (hwidth : 0 < width) {t : Trigger} {j : ℕ}
    (hlast : trigger width start d j = some t) (i : ℕ) :
    FirstTrigger (trigger width start d) (j + 1) i ↔
      IsLeast {i | j < i ∧ CameBack width d t j i} i := by
  refine firstTrigger_iff_isLeast (P := CameBack width d t j) (fun i hle hquiet ↦ ?_) i
  obtain ⟨hback, hnot⟩ := trigger_of_last hwidth hlast hle hquiet
  by_cases hcame : CameBack width d t j i
  · simp [hback hcame, hcame]
  · simp [hnot hcame, hcame]

/-- Two triggers with none in between have opposite directions. -/
theorem trigger_alternates (hwidth : 0 < width) {t : Trigger} {j i : ℕ}
    (hlast : trigger width start d j = some t)
    (hnext : FirstTrigger (trigger width start d) (j + 1) i) :
    trigger width start d i = some t.opposite := by
  obtain ⟨hback, hnot⟩ := trigger_of_last hwidth hlast hnext.le hnext.quiet
  by_cases hcame : CameBack width d t j i
  · exact hback hcame
  · exact absurd (hnot hcame) hnext.trigger

/-- The maximum since some place is one of finitely many distances, -/
theorem cameBack_positive {j i : ℕ} :
    CameBack width d .positive j i ↔
      ∃ maximum, IsGreatest (d '' Set.Icc j i) maximum ∧ d i ≤ maximum - width := by
  constructor
  · rintro ⟨k, hjk, hki, hback⟩
    obtain ⟨top, htop, hle⟩ := Set.exists_max_image (Set.Icc j i) d (Set.finite_Icc j i)
      ⟨k, hjk, hki⟩
    refine ⟨d top, ⟨⟨top, htop, rfl⟩, ?_⟩, hback.trans (sub_le_sub_right (hle k ⟨hjk, hki⟩) width)⟩
    rintro _ ⟨l, hl, rfl⟩
    exact hle l hl
  · rintro ⟨_, ⟨⟨k, ⟨hjk, hki⟩, rfl⟩, -⟩, hback⟩
    exact ⟨k, hjk, hki, hback⟩

/-- and so is the minimum. -/
theorem cameBack_negative {j i : ℕ} :
    CameBack width d .negative j i ↔
      ∃ minimum, IsLeast (d '' Set.Icc j i) minimum ∧ minimum + width ≤ d i := by
  have hsigned : ∀ k, Trigger.negative.signed (d i) ≤ Trigger.negative.signed (d k) - width ↔
      d k + width ≤ d i := fun k ↦ by
    show -d i ≤ -d k - width ↔ _
    rw [← neg_add', neg_le_neg_iff]
  constructor
  · rintro ⟨k, hjk, hki, hback⟩
    obtain ⟨bottom, hbottom, hle⟩ := Set.exists_min_image (Set.Icc j i) d (Set.finite_Icc j i)
      ⟨k, hjk, hki⟩
    refine ⟨d bottom, ⟨⟨bottom, hbottom, rfl⟩, ?_⟩,
      (add_le_add_left (hle k ⟨hjk, hki⟩) width).trans ((hsigned k).1 hback)⟩
    rintro _ ⟨l, hl, rfl⟩
    exact hle l hl
  · rintro ⟨_, ⟨⟨k, ⟨hjk, hki⟩, rfl⟩, -⟩, hback⟩
    exact ⟨k, hjk, hki, (hsigned k).2 hback⟩

end Hysteresis

end Touchless
