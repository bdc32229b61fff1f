import Mathlib.Algebra.BigOperators.Group.Finset.Basic
import Touchless.Foundations.ExactOperations
import Touchless.Foundations.Hysteresis
import Touchless.OSInteraction.LPGesture

/-!
# The triggers of a desktop swipe

On the Mac a desktop swipe adds up its movements along one axis, and each call posts an event that
may carry a trigger. In exact arithmetic the triggers are those of a hysteresis of width 0.05
(`desktopSwipe_triggers`): they alternate, the first is given where the distance is that far from
zero, and each later one where it has come back that far from its extreme since the one before.
-/

namespace Touchless

namespace LPGesture

variable {F : Type}

section Calls

variable [Arithmetic F] (g : LPGesture F)

/-- The mask of a trigger, for the axis of the gesture. -/
def swipeMask (trigger : Option Trigger) : SwipeMask :=
  match trigger with
  | none => .none
  | some .positive => g.swipePositive
  | some .negative => g.swipeNegative

/-- The state after some calls. -/
def swiped [Rounding F] (platform : Platform) (calls : ℕ → F × F) (n : ℕ) : LPGesture F :=
  g.run platform ((List.range n).map fun i ↦ .applyDesktopSwipe (calls i).1 (calls i).2)

end Calls

section Exact

variable {K : Type} [Field K] [LinearOrder K] [IsStrictOrderedRing K] [Arithmetic F]
  (exact : ExactSigns F K)

/-- A movement along the axis of the gesture, in the units of the trackpad. -/
def swipeMovement (gestureType : GestureType) (call : F × F) : K :=
  if gestureType = .desktopSwipeVertical then exact.value call.2 / 300
  else -exact.value call.1 / 300

/-- The members of the gesture that the triggers depend on. -/
structure Swiping (g : LPGesture F) (h : Hysteresis K) : Prop where
  threshold : exact.value g.desktopSwipeDistanceThreshold = h.threshold
  direction : g.desktopSwipeDirection = g.swipeMask h.direction

variable {exact} {g : LPGesture F} {h : Hysteresis K}

omit [Arithmetic F] in
/-- The two directions differ, and neither of them is none. -/
theorem swipe_ne :
    g.swipePositive ≠ g.swipeNegative ∧ g.swipePositive ≠ .none ∧ g.swipeNegative ≠ .none := by
  rw [swipePositive, swipeNegative]
  split_ifs <;> decide

omit [Arithmetic F] in
@[simp]
theorem swipeMask_eq_none {trigger : Option Trigger} :
    g.swipeMask trigger = .none ↔ trigger = none := by
  obtain ⟨-, hpositive, hnegative⟩ := swipe_ne (g := g)
  rcases trigger with - | - | -
  · exact iff_of_true rfl rfl
  · exact iff_of_false hpositive (by simp)
  · exact iff_of_false hnegative (by simp)

variable (exact) in
/-- The comparisons of a distance, by values. -/
theorem swipe_le_iff {x y : F} :
    (Arithmetic.le (x + swipeTrigger F) y = true ↔ exact.value x + 1 / 20 ≤ exact.value y) ∧
      (Arithmetic.le y (x - swipeTrigger F) = true ↔ exact.value y ≤ exact.value x - 1 / 20) ∧
      (Arithmetic.le (swipeTrigger F) y = true ↔ 1 / 20 ≤ exact.value y) ∧
      (Arithmetic.le y (-swipeTrigger F) = true ↔ exact.value y ≤ -(1 / 20)) := by
  have htrigger : exact.value (swipeTrigger F) = 1 / 20 := by
    rw [swipeTrigger, exact.value_lit]
    norm_num
  rw [exact.le_iff, exact.le_iff, exact.le_iff, exact.le_iff, exact.value_add, exact.value_sub,
    exact.value_neg, htrigger]
  exact ⟨.rfl, .rfl, .rfl, .rfl⟩

/-- What a new distance leaves and triggers agrees with the hysteresis. -/
structure Agree (exact : ExactSigns F K) (g : LPGesture F) (distance : F) (r : F × SwipeMask)
    (r' : Hysteresis K × Option Trigger) : Prop where
  swipe : r.2 = g.swipeMask r'.2
  threshold : exact.value (if r.2 = .none then r.1 else distance) = r'.1.threshold
  direction : (if r.2 = .none then g.desktopSwipeDirection else r.2) = g.swipeMask r'.1.direction

omit [IsStrictOrderedRing K] in
theorem agree_trigger (x distance : F) (t : Trigger) :
    Agree exact g distance (x, g.swipeMask (some t)) (⟨exact.value distance, some t⟩, some t) where
  swipe := rfl
  threshold := by rw [if_neg (by simp)]
  direction := by rw [if_neg (by simp)]

omit [IsStrictOrderedRing K] in
theorem agree_none {x distance : F} {threshold : K} {direction : Option Trigger}
    (hthreshold : exact.value x = threshold)
    (hdirection : g.desktopSwipeDirection = g.swipeMask direction) :
    Agree exact g distance (x, .none) (⟨threshold, direction⟩, none) where
  swipe := rfl
  threshold := by rw [if_pos rfl, hthreshold]
  direction := by rw [if_pos rfl, hdirection]

omit [IsStrictOrderedRing K] in
theorem agree_ite {p q : Prop} [Decidable p] [Decidable q] {distance : F} {a b : F × SwipeMask}
    {a' b' : Hysteresis K × Option Trigger} (h : p ↔ q) (ha : Agree exact g distance a a')
    (hb : Agree exact g distance b b') :
    Agree exact g distance (if p then a else b) (if q then a' else b') := by
  simp only [h]
  split_ifs
  · exact ha
  · exact hb

/-- **A new distance** triggers what the hysteresis says. -/
theorem swipeStep_agrees (hswiping : Swiping exact g h) (distance : F) :
    Agree exact g distance (g.swipeStep distance) (h.step (1 / 20) (exact.value distance)) := by
  obtain ⟨hne, hpositive, hnegative⟩ := swipe_ne (g := g)
  obtain ⟨hup, hdown, hfar, hfarBack⟩ := swipe_le_iff exact
    (x := g.desktopSwipeDistanceThreshold) (y := distance)
  obtain ⟨threshold, direction⟩ := h
  obtain ⟨hthreshold, hdirection⟩ := hswiping
  rw [hthreshold] at hup hdown
  rw [swipeStep, Hysteresis.step]
  rcases direction with - | - | -
  · have hnone : g.desktopSwipeDirection = .none := hdirection
    rw [hnone, if_neg hnegative.symm, if_neg hpositive.symm]
    exact agree_ite hfar (agree_trigger _ _ .positive)
      (agree_ite hfarBack (agree_trigger _ _ .negative) (agree_none hthreshold hdirection))
  · have hlast : g.desktopSwipeDirection = g.swipePositive := hdirection
    rw [hlast, if_neg hne, if_pos rfl]
    refine agree_ite ?_ (agree_none rfl hdirection)
      (agree_ite hdown (agree_trigger _ _ .negative) (agree_none hthreshold hdirection))
    rw [exact.lt_iff, hthreshold]
    rfl
  · have hlast : g.desktopSwipeDirection = g.swipeNegative := hdirection
    rw [hlast, if_pos rfl]
    refine agree_ite ?_ (agree_none rfl hdirection)
      (agree_ite ?_ (agree_trigger _ _ .positive) (agree_none hthreshold hdirection))
    · rw [exact.lt_iff, hthreshold]
      exact neg_lt_neg_iff.symm
    · show _ ↔ -exact.value distance ≤ -threshold - 1 / 20
      rw [hup, ← neg_add', neg_le_neg_iff]

omit [Arithmetic F] in
/-- The masks depend on the type only. -/
theorem swipeMask_congr {g' : LPGesture F} (h : g'.type = g.type) (trigger : Option Trigger) :
    g'.swipeMask trigger = g.swipeMask trigger := by
  rcases trigger with - | - | -
  · rfl
  · rw [swipeMask, swipeMask, swipePositive, swipePositive, h]
  · rw [swipeMask, swipeMask, swipeNegative, swipeNegative, h]

omit [Arithmetic F] in
/-- The phase concerns none of this. -/
theorem changePhase_swipe :
    g.changePhase.type = g.type ∧ g.changePhase.desktopSwipeDistance = g.desktopSwipeDistance ∧
      g.changePhase.desktopSwipeDistanceThreshold = g.desktopSwipeDistanceThreshold ∧
      g.changePhase.desktopSwipeDirection = g.desktopSwipeDirection ∧
      g.changePhase.events = g.events := by
  rw [changePhase]
  split_ifs <;> exact ⟨rfl, rfl, rfl, rfl, rfl⟩

/-- The scaled movement along the axis. -/
theorem value_swipeMovement (gestureType : GestureType) (dx dy : F) :
    exact.value (if gestureType = .desktopSwipeVertical then dy * (lit 1 / lit 300)
        else dx * -(lit 1 / lit 300)) = swipeMovement exact gestureType (dx, dy) := by
  rw [swipeMovement]
  split_ifs
  · rw [exact.value_mul, exact.value_div, exact.value_lit, exact.value_lit]
    push_cast
    ring
  · rw [exact.value_mul, exact.value_neg, exact.value_div, exact.value_lit, exact.value_lit]
    push_cast
    ring

/-- **A call** adds its movement, triggers what the hysteresis says, and posts it. -/
theorem applyDesktopSwipe_spec (htype : g.type.isDesktopSwipe = true)
    (hswiping : Swiping exact g h) (dx dy : F) :
    let g' := (g.applyDesktopSwipe .mac dx dy).1
    let distance := exact.value g.desktopSwipeDistance + swipeMovement exact g.type (dx, dy)
    g'.type = g.type ∧ exact.value g'.desktopSwipeDistance = distance ∧
      Swiping exact g' (h.step (1 / 20) distance).1 ∧
      ∃ phase motion dx' dy', g'.events = g.events ++
        [.dockSwipe phase motion (g.swipeMask (h.step (1 / 20) distance).2)
          g'.desktopSwipeDistance dx' dy'] := by
  intro g' distance
  have hg' : g' = (g.swipeMac dx dy).changePhase := by
    show (g.applyDesktopSwipe .mac dx dy).1 = _
    rw [applyDesktopSwipe, if_pos htype, if_pos rfl]
  have hdistance : exact.value (g.swipeMac dx dy).desktopSwipeDistance = distance := by
    show _ = exact.value g.desktopSwipeDistance + swipeMovement exact g.type (dx, dy)
    rw [← value_swipeMovement, ← exact.value_add]
    rfl
  obtain ⟨hswipe, hthreshold, hdirection⟩ :=
    swipeStep_agrees hswiping (g.swipeMac dx dy).desktopSwipeDistance
  obtain ⟨htype', hdistance', hthreshold', hdirection', hevents'⟩ :=
    (g.swipeMac dx dy).changePhase_swipe
  rw [hdistance] at hswipe hthreshold hdirection
  rw [hg', hdistance', hevents']
  refine ⟨htype', hdistance, ⟨?_, ?_⟩, ?_⟩
  · rw [hthreshold', ← hthreshold]
    rfl
  · rw [swipeMask_congr (g := g) htype', hdirection', ← hdirection]
    rfl
  · rw [← hswipe]
    exact ⟨_, _, _, _, rfl⟩

variable [Rounding F]

variable (exact) in
omit [IsStrictOrderedRing K] in
/-- `begin` starts at distance 0, without a trigger. -/
theorem beginGesture_swipe {platform : Platform} {number : ℕ}
    (hswipe : (GestureType.ofNumber number).isDesktopSwipe = true)
    (h : (g.beginGesture platform number).2 = true) :
    let begun := (g.beginGesture platform number).1
    begun.type = .ofNumber number ∧ exact.value begun.desktopSwipeDistance = 0 ∧
      Swiping exact begun ⟨0, none⟩ := by
  have hopens : g.type = .none ∧ (GestureType.ofNumber number).eventType ≠ .null := by
    simpa using beginGesture_succeeds_iff.1 h
  simp only [beginGesture, if_pos hopens]
  generalize ite (g.momentumPhase ≠ .undefined) _ g = stopped
  rw [if_pos hswipe]
  have hnothing : (stopped.restart platform (.ofNumber number)).applyNothing platform =
      stopped.restart platform (.ofNumber number) := by
    have htype : GestureType.ofNumber number ≠ .zoom ∧ GestureType.ofNumber number ≠ .rotate := by
      revert hswipe
      cases GestureType.ofNumber number <;> decide
    rw [applyNothing]
    exact (if_neg htype.1).trans (if_neg htype.2)
  rw [hnothing]
  exact ⟨rfl, exact.value_zero, exact.value_zero, rfl⟩

omit [IsStrictOrderedRing K] in
theorem swiped_succ (platform : Platform) (calls : ℕ → F × F) (n : ℕ) :
    g.swiped platform calls (n + 1) =
      ((g.swiped platform calls n).applyDesktopSwipe platform (calls n).1 (calls n).2).1 := by
  rw [swiped, List.range_succ, List.map_append, run, List.foldl_append]
  rfl

variable (exact) in
/-- **The calls of a gesture** are followed by the hysteresis. -/
theorem swiped_spec (hswipe : g.type.isDesktopSwipe = true)
    (hzero : exact.value g.desktopSwipeDistance = 0) (hswiping : Swiping exact g ⟨0, none⟩)
    (calls : ℕ → F × F) (n : ℕ) :
    let after := g.swiped .mac calls
    (after n).type = g.type ∧
      exact.value (after n).desktopSwipeDistance =
        ∑ i ∈ Finset.range n, swipeMovement exact g.type (calls i) ∧
      Swiping exact (after n) (Hysteresis.before (1 / 20) 0
        (fun i ↦ exact.value (after (i + 1)).desktopSwipeDistance) n) := by
  intro after
  induction n with
  | zero => exact ⟨rfl, hzero, hswiping⟩
  | succ n ih =>
    obtain ⟨htype, hsum, hswiping⟩ := ih
    obtain ⟨htype', hdistance, hswiping', -⟩ :=
      applyDesktopSwipe_spec (by rwa [htype]) hswiping (calls n).1 (calls n).2
    rw [← swiped_succ] at htype' hdistance hswiping'
    refine ⟨htype'.trans htype, ?_, ?_⟩
    · rw [show exact.value (after (n + 1)).desktopSwipeDistance = _ from hdistance, hsum, htype,
        Finset.sum_range_succ]
    · rw [← hdistance] at hswiping'
      exact hswiping'

/-- **The triggers of a desktop swipe**: call `n` posts the mask of trigger `n`, where the first
trigger is given at the first call whose distance is 0.05 from zero, and each later one at the first
call where the distance has come back by 0.05 from its maximum, or minimum, since the one before;
they alternate. -/
theorem desktopSwipe_triggers (exact : ExactSigns F K) (g : LPGesture F) (number : ℕ)
    (hswipe : (GestureType.ofNumber number).isDesktopSwipe = true)
    (hbegin : (g.beginGesture .mac number).2 = true) (calls : ℕ → F × F) :
    let begun := (g.beginGesture .mac number).1
    let after := begun.swiped .mac calls
    let distance : ℕ → K := fun n ↦ exact.value (after (n + 1)).desktopSwipeDistance
    (∀ n, distance n =
      ∑ i ∈ Finset.range (n + 1), swipeMovement exact (.ofNumber number) (calls i)) ∧
    ∃ trigger : ℕ → Option Trigger,
      (∀ n, ∃ phase motion dx dy, (after (n + 1)).events = (after n).events ++
        [.dockSwipe phase motion (begun.swipeMask (trigger n))
          (after (n + 1)).desktopSwipeDistance dx dy]) ∧
      (∀ j i t, trigger j = some t → FirstTrigger trigger (j + 1) i →
        trigger i = some t.opposite) ∧
      (∀ i, FirstTrigger trigger 0 i ↔ IsLeast {i | 1 / 20 ≤ |distance i|} i) ∧
      (∀ i, FirstTrigger trigger 0 i →
        trigger i = some (if 0 < distance i then .positive else .negative)) ∧
      (∀ j, trigger j = some .positive → ∀ i, FirstTrigger trigger (j + 1) i ↔
        IsLeast {i | j < i ∧ ∃ maximum, IsGreatest (distance '' Set.Icc j i) maximum ∧
          distance i ≤ maximum - 1 / 20} i) ∧
      ∀ j, trigger j = some .negative → ∀ i, FirstTrigger trigger (j + 1) i ↔
        IsLeast {i | j < i ∧ ∃ minimum, IsLeast (distance '' Set.Icc j i) minimum ∧
          minimum + 1 / 20 ≤ distance i} i := by
  intro begun after distance
  obtain ⟨htype, hzero, hswiping⟩ := beginGesture_swipe exact hswipe hbegin
  have hspec := swiped_spec exact (g := begun) (by rwa [htype]) hzero hswiping calls
  have hwidth : (0 : K) < 1 / 20 := by norm_num
  refine ⟨fun n ↦ ?_, Hysteresis.trigger (1 / 20) 0 distance, fun n ↦ ?_, ?_, ?_, ?_, ?_, ?_⟩
  · rw [← htype]
    exact (hspec (n + 1)).2.1
  · obtain ⟨htypeN, -, hswipingN⟩ := hspec n
    obtain ⟨-, hdistance, -, phase, motion, dx, dy, hevents⟩ :=
      applyDesktopSwipe_spec (by rwa [htypeN, htype]) hswipingN (calls n).1 (calls n).2
    rw [← swiped_succ] at hdistance hevents
    refine ⟨phase, motion, dx, dy, hevents.trans ?_⟩
    rw [← hdistance, swipeMask_congr htypeN]
    rfl
  · exact fun j i t hlast hnext ↦ Hysteresis.trigger_alternates hwidth hlast hnext
  · exact Hysteresis.trigger_first hwidth
  · intro i hfirst
    have htrigger := Hysteresis.trigger_of_quiet hwidth fun k hk ↦ hfirst.quiet k (Nat.zero_le k) hk
    have hwide : 1 / 20 ≤ |distance i| := ((Hysteresis.trigger_first hwidth i).1 hfirst).1
    rw [htrigger, if_pos hwide]
  · intro j hlast i
    rw [Hysteresis.trigger_next hwidth hlast]
    simp only [Hysteresis.cameBack_positive]
  · intro j hlast i
    rw [Hysteresis.trigger_next hwidth hlast]
    simp only [Hysteresis.cameBack_negative]

omit [Rounding F] [Arithmetic F] in
/-- A vertical swipe whose first movement is just far enough, downwards. -/
theorem desktopSwipe_triggers_down :
    letI : Arithmetic ℚ := rationalArithmetic id
    letI : Rounding ℚ := rationalRounding
    let begun : LPGesture ℚ := ((construct (.replicate 11 .zero)).beginGesture .mac 5).1
    let after := begun.swiped .mac fun n ↦ (0, if n = 0 then 15 else -15)
    ∃ trigger : ℕ → Option Trigger,
      (∀ n, ∃ phase motion dx dy, (after (n + 1)).events = (after n).events ++
        [.dockSwipe phase motion (begun.swipeMask (trigger n))
          (after (n + 1)).desktopSwipeDistance dx dy]) ∧
      trigger 0 = some .positive ∧ begun.swipeMask (some .positive) = .down := by
  let : Arithmetic ℚ := rationalArithmetic id
  let : Rounding ℚ := rationalRounding
  intro begun after
  obtain ⟨-, trigger, hevents, -, hfirst, hdirection, -⟩ :=
    desktopSwipe_triggers (ExactSigns.rational id) (construct (.replicate 11 .zero)) 5 (by decide)
      (by decide) fun n ↦ (0, if n = 0 then 15 else -15)
  have hfar : FirstTrigger trigger 0 0 :=
    (hfirst 0).2 ⟨by decide +kernel, fun i _ ↦ Nat.zero_le i⟩
  refine ⟨trigger, hevents, (hdirection 0 hfar).trans ?_, by decide⟩
  rw [if_pos (by decide +kernel)]

end Exact

end LPGesture

end Touchless
