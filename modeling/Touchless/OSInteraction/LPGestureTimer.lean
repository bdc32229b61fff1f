import Touchless.Foundations.PartialRun
import Touchless.OSInteraction.LPGestureMomentum

/-!
# The timer of the momentum

The timer is meant to run while there is a momentum. It is started with the momentum and stopped
where a gesture begins and where the momentum ends, but for one branch: a momentum that is slow from
the start ends without having scrolled, and the timer goes on. This is the only operation after
which the two differ (`momentumTimer_iff`).
-/

namespace Touchless

namespace LPGesture

variable {F : Type}

/-- The timer runs while there is a momentum. -/
def TimerRuns (g : LPGesture F) : Prop := g.momentumTimer = true ↔ g.momentumPhase ≠ .undefined

/-- The operation ends a momentum that has only begun. -/
def EndsAtOnce [Arithmetic F] (g : LPGesture F) : Operation F → Prop
  | .applyScroll dx dy _ => g.momentumPhase = .began ∧ isSlow dx dy = true
  | .applyMomentum => g.momentumPhase = .began ∧ isSlow g.momentum.x g.momentum.y = true
  | _ => False

namespace Control

/-- A settled gesture whose timer runs while there is a momentum, which is not about to end. -/
structure Timed (c : Control) : Prop where
  settled : c.Settled
  runs : c.momentumTimer = true ↔ c.momentumPhase ≠ .undefined
  notEnded : c.momentumPhase ≠ .ended

variable {c : Control}

/-- In an open gesture there is neither. -/
theorem Timed.opened (h : c.Timed) (htype : c.type ≠ .none) :
    c.momentumPhase = .undefined ∧ c.momentumTimer = false := by
  have hundefined := (h.settled.opened htype).2
  exact ⟨hundefined, Bool.eq_false_iff.2 fun hruns ↦ h.runs.1 hruns hundefined⟩

/-- With a momentum, no gesture is open. -/
theorem Timed.closed (h : c.Timed) (hmomentum : c.momentumPhase ≠ .undefined) :
    c.type = .none ∧ c.phase = .undefined ∧ c.momentumTimer = true := by
  have htype : c.type = .none := by
    by_contra htype
    exact hmomentum (h.settled.opened htype).2
  exact ⟨htype, h.settled.closed htype, h.runs.2 hmomentum⟩

/-- Changing the phase concerns neither. -/
theorem changePhase_timer (c : Control) :
    c.changePhase.momentumPhase = c.momentumPhase ∧
      c.changePhase.momentumTimer = c.momentumTimer := by
  rw [changePhase]
  split_ifs <;> exact ⟨rfl, rfl⟩

theorem momentumTimer_advance (c : Control) : c.advance.momentumTimer = c.momentumTimer := by
  rw [advance]
  split_ifs <;> rfl

/-- What keeps the gesture settled and concerns neither. -/
theorem Timed.of_eq {c' : Control} (h : c.Timed) (hsettled : c'.Settled)
    (hmomentum : c'.momentumPhase = c.momentumPhase) (htimer : c'.momentumTimer = c.momentumTimer) :
    c'.Timed where
  settled := hsettled
  runs := by rw [hmomentum, htimer, h.runs]
  notEnded := by rw [hmomentum]; exact h.notEnded

theorem Timed.changePhaseIf (h : c.Timed) (p : Prop) [Decidable p] :
    (if p then c.changePhase else c).Timed := by
  refine h.of_eq (h.settled.changePhaseIf p) ?_ ?_
  · split_ifs
    · exact c.changePhase_timer.1
    · rfl
  · split_ifs
    · exact c.changePhase_timer.2
    · rfl

/-- Closed, with the timer as it should be. -/
theorem timed_closed (momentumPhase : MomentumPhase) (h : momentumPhase ≠ .ended) :
    Timed ⟨.none, .undefined, momentumPhase, momentumPhase ≠ .undefined⟩ where
  settled := ⟨fun _ ↦ rfl, fun hopen ↦ absurd rfl hopen⟩
  runs := decide_eq_true_iff
  notEnded := h

end Control

section Operations

variable [Arithmetic F] [Rounding F] {platform : Platform} {g : LPGesture F}

variable (platform) in
omit [Rounding F] in
/-- The calls that post something concern neither, -/
theorem applyNothing_timer :
    (g.applyNothing platform).momentumPhase = g.momentumPhase ∧
      (g.applyNothing platform).momentumTimer = g.momentumTimer := by
  have hif : ∀ (p : Prop) [Decidable p] {c : Control},
      (if p then g.control.changePhase else g.control) = c →
        c.momentumPhase = g.momentumPhase ∧ c.momentumTimer = g.momentumTimer := by
    rintro p _ _ rfl
    split_ifs
    · exact g.control.changePhase_timer
    · exact ⟨rfl, rfl⟩
  rw [applyNothing]
  split_ifs
  · exact hif _ (control_applyZoom _).symm
  · exact hif _ (control_applyRotation _).symm
  · exact ⟨rfl, rfl⟩

omit [Rounding F] in
theorem endMac_timer :
    g.endMac.type = g.type ∧ g.endMac.momentumPhase = g.momentumPhase ∧
      g.endMac.momentumTimer = g.momentumTimer := by
  rw [endMac]
  split_ifs
  · dsimp only
    split_ifs <;> exact ⟨rfl, rfl, rfl⟩
  · exact ⟨rfl, rfl, rfl⟩

/-- and a scroll never starts the timer. -/
theorem momentumTimer_applyScroll (h : g.momentumTimer = false) (dx dy : F) (timeDiff : ℤ) :
    (g.applyScroll platform dx dy timeDiff).1.momentumTimer = false := by
  by_cases hmomentum : g.momentumPhase = .undefined
  · have hcontrol : (g.applyScroll platform dx dy timeDiff).1.control = g.control ∨
        (g.applyScroll platform dx dy timeDiff).1.control = g.control.changePhase :=
      control_applyScroll hmomentum dx dy timeDiff
    rcases hcontrol with hsame | hchanged
    · exact (congrArg Control.momentumTimer hsame).trans h
    · exact (congrArg Control.momentumTimer hchanged).trans (g.control.changePhase_timer.2.trans h)
  · have hcontrol := (applyScroll_inertia platform (.inr hmomentum) dx dy timeDiff).2
    -- what ends the momentum stops the timer or leaves it alone
    have hprepared : (g.prepareScroll dx dy timeDiff).1.momentumTimer = false := by
      cases hslow : isSlow dx dy with
      | true =>
        have hslowly := (prepareScroll_slow hmomentum hslow timeDiff).2.2
        refine (congrArg Control.momentumTimer hslowly).trans ?_
        split_ifs
        · exact h
        · rfl
      | false =>
        exact (congrArg Control.momentumTimer
          (prepareScroll_decays hmomentum hslow timeDiff).2.2).trans h
    refine (congrArg Control.momentumTimer hcontrol).trans ?_
    split_ifs
    · exact (Control.momentumTimer_advance _).trans hprepared
    · exact hprepared

theorem timed_beginGesture (h : g.control.Timed) (number : ℕ) :
    (g.beginGesture platform number).1.control.Timed := by
  by_cases hopens : g.type = .none ∧ GestureType.ofNumber number ≠ .none
  · have hsettled : (g.beginGesture platform number).1.control.Settled :=
      (beginGesture_opens hopens.1 hopens.2).2.2
    have hnone : (g.beginGesture platform number).1.momentumPhase = .undefined ∧
        (g.beginGesture platform number).1.momentumTimer = false := by
      have hopens' : g.type = .none ∧ (GestureType.ofNumber number).eventType ≠ .null :=
        ⟨hopens.1, by simpa using hopens.2⟩
      simp only [beginGesture, if_pos hopens']
      generalize hstopped : ite (g.momentumPhase ≠ .undefined) _ g = stopped
      have htimer : stopped.momentumTimer = false := by
        rw [← hstopped]
        by_cases hmomentum : g.momentumPhase = .undefined
        · rw [if_neg (not_not_intro hmomentum)]
          exact Bool.eq_false_iff.2 fun hruns ↦ h.runs.1 hruns hmomentum
        · rw [if_pos hmomentum]
          exact momentumTimer_applyScroll rfl _ _ _
      generalize hposted : ite (GestureType.isDesktopSwipe _ = true) _ _ = posted
      obtain ⟨hphase, htimer'⟩ := applyNothing_timer platform (g := posted)
      rw [hphase, htimer', ← hposted]
      split_ifs
      · exact ⟨rfl, htimer⟩
      · rw [postMac]
        split_ifs <;> exact ⟨rfl, htimer⟩
    exact ⟨hsettled, iff_of_false (by simp [control, hnone.2]) (not_not_intro hnone.1),
      by simp [control, hnone.1]⟩
  · rw [beginGesture_refused (by rwa [not_and_or, not_not] at hopens)]
    exact h

theorem timed_endGesture (h : g.control.Timed) : (g.endGesture platform).1.control.Timed := by
  by_cases htype : g.type = .none
  · rw [endGesture_refused htype]
    exact h
  obtain ⟨hundefined, htimer⟩ := h.opened htype
  by_cases hscroll : g.type = .scroll
  · have hcontrol := (endGesture_inertia platform h.settled hscroll).1
    rw [hcontrol]
    split_ifs
    · exact Control.timed_closed .began (by decide)
    · exact Control.timed_closed .undefined (by decide)
  · have hopen : g.type ≠ .none ∧ (g.phase = .began ∨ g.phase = .changed) :=
      ⟨htype, (h.settled.opened htype).1⟩
    simp only [endGesture, if_pos hopen]
    -- the end of another gesture only posts something
    obtain ⟨hphase, htimer'⟩ := applyNothing_timer platform
      (g := { g with phase := .ended })
    have htype' : ({ g with phase := .ended }.applyNothing platform).type = g.type :=
      (continues_applyNothing (g := { g with phase := .ended })).type
    generalize { g with phase := .ended }.applyNothing platform = posted at *
    have hended : ∀ {ended : LPGesture F}, (if platform = .mac then posted.endMac else posted) =
        ended → ended.type = g.type ∧ ended.momentumPhase = .undefined ∧
          ended.momentumTimer = false := by
      obtain ⟨hendType, hendPhase, hendTimer⟩ := posted.endMac_timer
      rintro _ rfl
      split_ifs
      · exact ⟨hendType.trans htype', hendPhase.trans (hphase.trans hundefined),
          hendTimer.trans (htimer'.trans htimer)⟩
      · exact ⟨htype', hphase.trans hundefined, htimer'.trans htimer⟩
    generalize ite (platform = .mac) posted.endMac posted = ended at *
    obtain ⟨hendType, hendPhase, hendTimer⟩ := hended rfl
    rw [if_neg (by rwa [hendType])]
    have hclosed : ({ ended with type := .none, phase := .undefined } : LPGesture F).control =
        ⟨.none, .undefined, .undefined, false⟩ := by
      rw [← hendPhase, ← hendTimer]
      rfl
    rw [hclosed]
    exact Control.timed_closed .undefined (by decide)

/-- **A scroll** ends the momentum with its timer, unless the momentum has only begun. -/
theorem timed_applyScroll (h : g.control.Timed) {dx dy : F} (timeDiff : ℤ)
    (hgood : ¬(g.momentumPhase = .began ∧ isSlow dx dy = true)) :
    (g.applyScroll platform dx dy timeDiff).1.control.Timed := by
  by_cases hmomentum : g.momentumPhase = .undefined
  · have hcontrol : (g.applyScroll platform dx dy timeDiff).1.control = g.control ∨
        (g.applyScroll platform dx dy timeDiff).1.control = g.control.changePhase :=
      control_applyScroll hmomentum dx dy timeDiff
    rcases hcontrol with hsame | hchanged
    · rw [hsame]
      exact h
    · rw [hchanged]
      exact h.of_eq (h.settled.changePhaseIf True) g.control.changePhase_timer.1
        g.control.changePhase_timer.2
  · obtain ⟨htype, hphase, htimer⟩ := h.closed hmomentum
    have hcontrol := (applyScroll_inertia platform (.inr hmomentum) dx dy timeDiff).2
    have hg : g.control = ⟨.none, .undefined, g.momentumPhase, true⟩ := by
      rw [← htype, ← hphase, ← htimer]
      rfl
    cases hslow : isSlow dx dy with
    | true =>
      have hbegan : g.momentumPhase ≠ .began := fun hbegan ↦ hgood ⟨hbegan, hslow⟩
      obtain ⟨-, hgoesOn, hprepared⟩ := prepareScroll_slow hmomentum hslow timeDiff
      rw [hgoesOn, hprepared, if_neg hbegan, hg, if_pos (by simp [hbegan])] at hcontrol
      rw [hcontrol]
      exact Control.timed_closed .undefined (by decide)
    | false =>
      obtain ⟨-, hgoesOn, hprepared⟩ := prepareScroll_decays hmomentum hslow timeDiff
      rw [hgoesOn, hprepared, hg, if_pos rfl] at hcontrol
      rw [hcontrol]
      have hmoving : g.momentumPhase = .began ∨ g.momentumPhase = .changed := by
        have hended : g.momentumPhase ≠ .ended := h.notEnded
        revert hmomentum hended
        cases g.momentumPhase <;> decide
      rcases hmoving with hphase | hphase <;> rw [hphase] <;>
        exact Control.timed_closed .changed (by decide)

/-- A momentum that has only begun ends without its timer. -/
theorem not_timerRuns_applyScroll (h : g.control.Timed) {dx dy : F} (timeDiff : ℤ)
    (hbegan : g.momentumPhase = .began) (hslow : isSlow dx dy = true) :
    ¬(g.applyScroll platform dx dy timeDiff).1.TimerRuns := by
  have hmomentum : g.momentumPhase ≠ .undefined := by simp [hbegan]
  obtain ⟨htype, hphase, htimer⟩ := h.closed hmomentum
  have hcontrol := (applyScroll_inertia platform (.inr hmomentum) dx dy timeDiff).2
  obtain ⟨-, hgoesOn, hprepared⟩ := prepareScroll_slow hmomentum hslow timeDiff
  have hphase' : g.phase ≠ .ended := by
    rw [show g.phase = .undefined from hphase]
    decide
  rw [hgoesOn, hprepared, if_pos hbegan, if_neg (by simp [hbegan, hphase'])] at hcontrol
  intro hruns
  have htimer' : (g.applyScroll platform dx dy timeDiff).1.momentumTimer = true :=
    (congrArg Control.momentumTimer hcontrol).trans htimer
  exact hruns.1 htimer' (congrArg Control.momentumPhase hcontrol)

/-! ### Runs -/

/-- Every other operation keeps the timer as it should be. -/
theorem timed_exec (h : g.control.Timed) {operation : Operation F}
    (hgood : ¬g.EndsAtOnce operation) : (g.exec platform operation).control.Timed := by
  cases operation with
  | beginGesture number => exact timed_beginGesture h number
  | endGesture => exact timed_endGesture h
  | applyZoom zoom =>
    rw [exec, control_applyZoom]
    exact h.changePhaseIf _
  | applyRotation rotation =>
    rw [exec, control_applyRotation]
    exact h.changePhaseIf _
  | applyDesktopSwipe dx dy =>
    rw [exec, control_applyDesktopSwipe]
    exact h.changePhaseIf _
  | applyScroll dx dy timeDiff => exact timed_applyScroll h timeDiff hgood
  | applyMomentum =>
    rw [exec, applyMomentum]
    split_ifs
    · exact timed_applyScroll h _ hgood
    · exact h

theorem not_timerRuns_exec (h : g.control.Timed) {operation : Operation F}
    (hbad : g.EndsAtOnce operation) : ¬(g.exec platform operation).TimerRuns := by
  cases operation with
  | applyScroll dx dy timeDiff => exact not_timerRuns_applyScroll h timeDiff hbad.1 hbad.2
  | applyMomentum =>
    have hmomentum : g.momentumPhase ≠ .undefined := by simp [hbad.1]
    rw [exec, applyMomentum, if_pos hmomentum]
    exact not_timerRuns_applyScroll h _ hbad.1 hbad.2
  | beginGesture number => exact hbad.elim
  | endGesture => exact hbad.elim
  | applyZoom zoom => exact hbad.elim
  | applyRotation rotation => exact hbad.elim
  | applyDesktopSwipe dx dy => exact hbad.elim

/-- **After every operation** of a sequence the timer runs exactly if there is a momentum, as long
as no momentum ends that has only begun, and no longer. -/
theorem momentumTimer_iff (platform : Platform) (memory : Vector (GesturePoint F) 11)
    (operations : List (Operation F)) :
    (∀ earlier operation later, operations = earlier ++ operation :: later →
      ((construct memory).run platform (earlier ++ [operation])).TimerRuns) ↔
    ∀ earlier operation later, operations = earlier ++ operation :: later →
      ¬((construct memory).run platform earlier).EndsAtOnce operation := by
  have hstart : (construct memory : LPGesture F).control.Timed :=
    ⟨settled_construct memory, iff_of_false Bool.false_ne_true (not_not_intro rfl), nofun⟩
  exact PartialRun.forall_step_iff_not_bad (I := fun g ↦ g.control.Timed) (fun _ h ↦ h.runs)
    (fun _ _ h hgood ↦ timed_exec h hgood) (fun _ _ h hbad ↦ not_timerRuns_exec h hbad)
    operations hstart

end Operations

/-- After a scroll that leaves a momentum of 0.01 the first tick ends it, and the timer runs on. -/
theorem momentumTimer_runs_on :
    letI : Arithmetic ℚ := rationalArithmetic id
    letI : Rounding ℚ := rationalRounding
    let operations : List (Operation ℚ) :=
      [.beginGesture 1, .applyScroll 0 (1 / 100) 8000, .endGesture, .applyMomentum]
    ¬∀ earlier operation later, operations = earlier ++ operation :: later →
      ((construct (.replicate 11 .zero)).run .mac (earlier ++ [operation])).TimerRuns := by
  let : Arithmetic ℚ := rationalArithmetic id
  let : Rounding ℚ := rationalRounding
  intro operations h
  have hruns :=
    h [.beginGesture 1, .applyScroll 0 (1 / 100) 8000, .endGesture] .applyMomentum [] rfl
  exact hruns.1 (by decide +kernel) (by decide +kernel)

end LPGesture

end Touchless
