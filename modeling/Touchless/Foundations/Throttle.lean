import Mathlib.Algebra.BigOperators.Group.List.Basic
import Mathlib.Data.Rat.Cast.Order
import Mathlib.Tactic.Linarith
import Touchless.Foundations.PartialRun

/-!
# Throttling

A throttled action fires when the time since it last fired has run up, and then starts to wait
again. If it never fires before a period is over, then it fires in every stretch of a run at most
once, and once more for each period that the stretch takes (`Throttle.count_le`). What the timer
says where the stretch starts does not matter.
-/

namespace Touchless

/-- A timer in a state that changes with operations, each of which takes some time. -/
structure Throttle {σ α : Type} (next : σ → α → σ) where
  timer : σ → ℤ
  time : α → ℤ
  fires : σ → α → Bool
  /-- the timer starts again when the action fires, -/
  timer_fires : ∀ {s a}, fires s a = true → timer (next s a) = 0
  /-- and else counts the time, or ignores the operation -/
  timer_waits : ∀ {s a}, fires s a = false →
    timer (next s a) = timer s + time a ∨ timer (next s a) = timer s

namespace Throttle

variable {σ α : Type} {next : σ → α → σ} (throttle : Throttle next)

/-- How often a run fires. -/
def count : σ → List α → ℕ
  | _, [] => 0
  | s, a :: labels => (if throttle.fires s a then 1 else 0) + count (next s a) labels

/-- The run fires only after a period. -/
def KeepsPeriod (period : ℚ) (s : σ) (labels : List α) : Prop :=
  ∀ earlier a later, labels = earlier ++ a :: later →
    throttle.fires (earlier.foldl next s) a = true →
      period ≤ ((throttle.timer (earlier.foldl next s) + throttle.time a : ℤ) : ℚ)

variable {throttle} {period : ℚ}

theorem keepsPeriod_cons {s : σ} {a : α} {labels : List α} :
    throttle.KeepsPeriod period s (a :: labels) ↔
      (throttle.fires s a = true → period ≤ ((throttle.timer s + throttle.time a : ℤ) : ℚ)) ∧
        throttle.KeepsPeriod period (next s a) labels :=
  PartialRun.forall_split_cons

/-- A run that keeps the period keeps it in each of its stretches. -/
theorem KeepsPeriod.stretch {s : σ} {first second third : List α}
    (h : throttle.KeepsPeriod period s (first ++ second ++ third)) :
    throttle.KeepsPeriod period (first.foldl next s) second := by
  intro earlier a later hsplit
  rw [← List.foldl_append]
  exact h (first ++ earlier) a (later ++ third) (by rw [hsplit]; simp)

/-- The periods fit into what the timer says and the time that passes. -/
theorem count_mul_le_timer {labels : List α} (htime : ∀ a ∈ labels, 0 ≤ throttle.time a) :
    ∀ {s}, 0 ≤ throttle.timer s → throttle.KeepsPeriod period s labels →
      throttle.count s labels * period ≤
        ((throttle.timer s + (labels.map throttle.time).sum : ℤ) : ℚ) := by
  induction labels with
  | nil =>
    intro s htimer _
    rw [count, List.map_nil, List.sum_nil, add_zero, Nat.cast_zero, zero_mul]
    exact_mod_cast htimer
  | cons a labels ih =>
    intro s htimer hkeeps
    obtain ⟨hperiod, hrest⟩ := keepsPeriod_cons.1 hkeeps
    have htime' := fun b hb ↦ htime b (List.mem_cons_of_mem a hb)
    have hpos : 0 ≤ throttle.time a := htime a List.mem_cons_self
    rw [count, List.map_cons, List.sum_cons]
    cases hfires : throttle.fires s a with
    | true =>
      have hreset := throttle.timer_fires hfires
      have hcount := ih htime' hreset.ge hrest
      have hlong := hperiod hfires
      rw [if_pos rfl]
      rw [hreset] at hcount
      push_cast at hcount hlong ⊢
      linarith
    | false =>
      have hwaits := throttle.timer_waits hfires
      have htimer' : 0 ≤ throttle.timer (next s a) := by omega
      have hcount := ih htime' htimer' hrest
      have hle : (throttle.timer (next s a) : ℚ) ≤ throttle.timer s + throttle.time a := by
        exact_mod_cast (show throttle.timer (next s a) ≤ _ by omega)
      rw [if_neg Bool.false_ne_true, zero_add]
      push_cast at hcount ⊢
      linarith

/-- **A throttled action fires at most once, and once more for each period.** -/
theorem count_mul_le (hperiod : 0 ≤ period) {labels : List α}
    (htime : ∀ a ∈ labels, 0 ≤ throttle.time a) :
    ∀ {s}, throttle.KeepsPeriod period s labels →
      throttle.count s labels * period ≤ period + ((labels.map throttle.time).sum : ℤ) := by
  induction labels with
  | nil =>
    intro s _
    rw [count, List.map_nil, List.sum_nil, Nat.cast_zero, zero_mul, Int.cast_zero, add_zero]
    exact hperiod
  | cons a labels ih =>
    intro s hkeeps
    obtain ⟨-, hrest⟩ := keepsPeriod_cons.1 hkeeps
    have htime' := fun b hb ↦ htime b (List.mem_cons_of_mem a hb)
    have hpos : (0 : ℚ) ≤ throttle.time a := by exact_mod_cast htime a List.mem_cons_self
    rw [count, List.map_cons, List.sum_cons]
    cases hfires : throttle.fires s a with
    | true =>
      -- from the first time on the timer starts at 0
      have hreset := throttle.timer_fires hfires
      have hcount := count_mul_le_timer htime' hreset.ge hrest
      rw [if_pos rfl]
      rw [hreset] at hcount
      push_cast at hcount ⊢
      linarith
    | false =>
      have hcount := ih htime' hrest
      rw [if_neg Bool.false_ne_true, zero_add]
      push_cast at hcount ⊢
      linarith

end Throttle

end Touchless
