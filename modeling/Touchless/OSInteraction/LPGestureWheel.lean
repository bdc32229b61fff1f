import Touchless.Foundations.Throttle
import Touchless.OSInteraction.LPGestureScroll

/-!
# The wheel of Windows

On Windows whole lines are flushed to the wheel only when a timer has run up. Those that wait are
not lost, in exact arithmetic (`wheel_conserved`). The timer runs up to `windowsUpdateRate`, which
is meant to be a sixtieth of a second and is a tenth of that: the limit of 60 updates a second holds
in runs that never flush between the two, whatever the arithmetic (`wheel_limited`).
-/

namespace Touchless

/-- What an event turns the wheel by, on an axis. -/
def GestureEvent.wheelData {F : Type} : Axis → GestureEvent F → ℤ
  | .y, .wheel mouseData => mouseData
  | .x, .hwheel mouseData => -mouseData
  | _, _ => 0

namespace LPGesture

variable {F : Type}

/-- What all events turn the wheel by. -/
def wheelData (axis : Axis) (g : LPGesture F) : ℤ :=
  (g.events.map (GestureEvent.wheelData axis)).sum

section Calls

variable [Arithmetic F] [Rounding F] (platform : Platform)

/-- A call of `applyScroll`. -/
def scrollCall (g : LPGesture F) (call : F × F × ℤ) : LPGesture F :=
  (g.applyScroll platform call.1 call.2.1 call.2.2).1

/-- Does the call take the branch of `m_windowsEventTimer`? -/
def flushes (g : LPGesture F) (call : F × F × ℤ) : Bool :=
  (g.applyScroll platform call.1 call.2.1 call.2.2).2 &&
    decide (g.windowsEventTimer + call.2.2 ≥ windowsUpdateRate)

/-- The operations that calls are. -/
def scrollOperations (calls : List (F × F × ℤ)) : List (Operation F) :=
  calls.map fun call ↦ .applyScroll call.1 call.2.1 call.2.2

end Calls

section Frame

variable [Arithmetic F] {platform : Platform} {g : LPGesture F}

/-- Preparing a scroll concerns neither the timer nor the events. -/
theorem prepareScroll_wheel (dx dy : F) (timeDiff : ℤ) :
    (g.prepareScroll dx dy timeDiff).1.windowsEventTimer = g.windowsEventTimer ∧
      (g.prepareScroll dx dy timeDiff).1.events = g.events := by
  rw [prepareScroll]
  split_ifs
  · simp only [decayMomentum]
    split_ifs <;> exact ⟨rfl, rfl⟩
  · simp only [recordMomentum]
    split_ifs <;> exact ⟨rfl, rfl⟩
  · exact ⟨rfl, rfl⟩

omit [Arithmetic F] in
theorem postWheel_wheel (event : ℤ → GestureEvent F) (lines mouseData : ℤ) (axis : Axis)
    (hzero : lines = 0 → GestureEvent.wheelData axis (event mouseData) = 0) :
    (g.postWheel event lines mouseData).windowsEventTimer = g.windowsEventTimer ∧
      (g.postWheel event lines mouseData).wheelData axis =
        g.wheelData axis + GestureEvent.wheelData axis (event mouseData) := by
  rw [postWheel]
  split_ifs with h
  · exact ⟨rfl, by simp [post, wheelData]⟩
  · rw [hzero (not_not.1 h), add_zero]
    exact ⟨rfl, rfl⟩

omit [Arithmetic F] in
@[simp]
theorem advancePhases_wheel :
    g.advancePhases.windowsEventTimer = g.windowsEventTimer ∧
      g.advancePhases.events = g.events := by
  rw [advancePhases]
  split_ifs <;> exact ⟨rfl, rfl⟩

omit [Arithmetic F] in
/-- Windows turns the wheel by twice the lines. -/
theorem postScroll_wheel (wheelScrollChars wheelScrollLines : Option ℕ) (px py : F)
    (lines : GesturePoint ℤ) (axis : Axis) :
    (g.postScroll (.windows wheelScrollChars wheelScrollLines) px py lines.x
        lines.y).windowsEventTimer = g.windowsEventTimer ∧
      (g.postScroll (.windows wheelScrollChars wheelScrollLines) px py lines.x
        lines.y).wheelData axis = g.wheelData axis + 2 * lines.get axis := by
  obtain ⟨htimer, hdata⟩ := postWheel_wheel (g := g) .wheel lines.y (lines.y * 2) axis (by
    cases axis <;> simp [GestureEvent.wheelData])
  obtain ⟨htimer', hdata'⟩ := postWheel_wheel (g := g.postWheel .wheel lines.y (lines.y * 2))
    .hwheel lines.x (-lines.x * 2) axis (by cases axis <;> simp [GestureEvent.wheelData])
  refine ⟨htimer'.trans htimer, hdata'.trans ?_⟩
  rw [hdata]
  cases axis <;> simp [GestureEvent.wheelData, GesturePoint.get] <;> ring

variable [Rounding F] (wheelScrollChars wheelScrollLines : Option ℕ)

/-- All lines there are go to the wheel, or none while the timer runs up. -/
theorem takeWhole_wheel (px py lx ly : F) (timeDiff : ℤ) :
    let taken := g.takeWhole (.windows wheelScrollChars wheelScrollLines) px py lx ly timeDiff
    taken.1.events = g.events ∧
      if g.windowsEventTimer + timeDiff ≥ windowsUpdateRate then
        taken.1.windowsEventTimer = 0 ∧
          taken.1.scrollPartialLine =
            ⟨g.scrollPartialLine.x + lx - Rounding.floor (g.scrollPartialLine.x + lx),
              g.scrollPartialLine.y + ly - Rounding.floor (g.scrollPartialLine.y + ly)⟩ ∧
          taken.2.2 = ⟨Rounding.toInt (Rounding.floor (g.scrollPartialLine.x + lx)),
            Rounding.toInt (Rounding.floor (g.scrollPartialLine.y + ly))⟩
      else
        taken.1.windowsEventTimer = g.windowsEventTimer + timeDiff ∧
          taken.1.scrollPartialLine =
            ⟨g.scrollPartialLine.x + lx, g.scrollPartialLine.y + ly⟩ ∧
          taken.2.2 = ⟨Rounding.toInt (lit 0 : F), Rounding.toInt (lit 0 : F)⟩ := by
  simp only [takeWhole, takeLines]
  split_ifs
  · exact ⟨rfl, rfl, rfl, rfl⟩
  · exact ⟨rfl, rfl, rfl, rfl⟩

variable {wheelScrollChars wheelScrollLines}

/-- **The timer** of Windows: a call that flushes starts it again, another one that goes on counts
its time. -/
theorem scrollCall_timer (call : F × F × ℤ) :
    (g.scrollCall (.windows wheelScrollChars wheelScrollLines) call).windowsEventTimer =
      if g.flushes (.windows wheelScrollChars wheelScrollLines) call then 0
      else if (g.applyScroll (.windows wheelScrollChars wheelScrollLines) call.1 call.2.1
        call.2.2).2 then g.windowsEventTimer + call.2.2
      else g.windowsEventTimer := by
  obtain ⟨htimer, -⟩ := g.prepareScroll_wheel call.1 call.2.1 call.2.2
  rw [scrollCall, flushes, applyScroll_eq]
  by_cases hscrolls : g.type = .scroll ∨ g.momentumPhase ≠ .undefined
  · by_cases hgoesOn : (g.prepareScroll call.1 call.2.1 call.2.2).2 = true
    · rw [if_pos hscrolls, if_pos hgoesOn]
      simp only [Bool.true_and, decide_eq_true_eq, if_true]
      rw [scrollBy_eq, advancePhases_wheel.1, (postScroll_wheel _ _ _ _ _ .x).1]
      obtain ⟨-, htaken⟩ := (g.prepareScroll call.1 call.2.1 call.2.2).1.takeWhole_wheel
        wheelScrollChars wheelScrollLines (call.1 * pixelsPerMillimeter F)
        (call.2.1 * pixelsPerMillimeter F)
        (call.1 * pixelsPerMillimeter F / g.horizontalPixelsPerLine)
        (call.2.1 * pixelsPerMillimeter F / g.verticalPixelsPerLine) call.2.2
      rw [htimer] at htaken
      split_ifs at htaken ⊢
      · exact htaken.1
      · exact htaken.1
    · rw [if_pos hscrolls, if_neg hgoesOn]
      simpa using htimer
  · rw [if_neg hscrolls]
    simp

/-- The timer of the wheel. -/
def eventThrottle (F : Type) [Arithmetic F] [Rounding F]
    (wheelScrollChars wheelScrollLines : Option ℕ) :
    Throttle (scrollCall (F := F) (.windows wheelScrollChars wheelScrollLines)) where
  timer := windowsEventTimer
  time call := call.2.2
  fires := flushes (.windows wheelScrollChars wheelScrollLines)
  timer_fires h := by rw [scrollCall_timer, if_pos h]
  timer_waits h := by
    rw [scrollCall_timer, if_neg (Bool.eq_false_iff.1 h)]
    exact ite_eq_or_eq _ _ _

end Frame

section Exact

variable {K : Type} [Field K] [LinearOrder K] [IsStrictOrderedRing K] [FloorRing K]
  [Arithmetic F] [Rounding F] {exact : ExactOperations F K} {platform : Platform}
  {g : LPGesture F}

/-- What a scroll does to the lines of Windows: it adds its distance to them, and takes what goes to
the wheel. -/
structure WheelStep (exact : ExactOperations F K) (g g' : LPGesture F) (scroll : Scroll F)
    (axis : Axis) : Prop where
  partialLine : exact.value (g'.scrollPartialLine.get axis) =
    exact.value (g.scrollPartialLine.get axis) + inPixels exact (scroll.distance.get axis) /
      exact.value (g.scrollState.pixelsPerLine axis) - (scroll.lines.get axis : K)
  pixelsPerLine : g'.scrollState.pixelsPerLine = g.scrollState.pixelsPerLine
  wheelData : g'.wheelData axis = g.wheelData axis + 2 * scroll.lines.get axis

omit [IsStrictOrderedRing K] [FloorRing K] [Rounding F] in
/-- It depends on the partials and the events only. -/
theorem WheelStep.congr {h h' g' : LPGesture F} {scroll : Scroll F} {axis : Axis}
    (hstep : WheelStep exact h h' scroll axis) (hstate : h.scrollState = g.scrollState)
    (hevents : h.events = g.events) (hstate' : g'.scrollState = h'.scrollState)
    (hevents' : g'.events = h'.events) : WheelStep exact g g' scroll axis where
  partialLine := by
    have hline : g'.scrollPartialLine = h'.scrollPartialLine :=
      congrArg ScrollState.scrollPartialLine hstate'
    have hbefore : h.scrollPartialLine = g.scrollPartialLine :=
      congrArg ScrollState.scrollPartialLine hstate
    rw [hline, hstep.partialLine, hbefore, hstate]
  pixelsPerLine := by rw [hstate', hstep.pixelsPerLine, hstate]
  wheelData := by
    have hdata := hstep.wheelData
    rwa [LPGesture.wheelData, LPGesture.wheelData, ← hevents', hevents] at hdata

omit [FloorRing K] [Rounding F] in
/-- A distance in lines. -/
theorem value_lines (distance pixelsPerLine : F) :
    exact.value (distance * pixelsPerMillimeter F / pixelsPerLine) =
      inPixels exact distance / exact.value pixelsPerLine := by
  rw [exact.value_div, value_mul_pixelsPerMillimeter]

/-- What is left of the lines where nothing goes to the wheel. -/
theorem value_add_waiting (rounding : ExactRounding exact) {p d : F}
    {amount : K} (hd : exact.value d = amount) :
    exact.value (p + d) = exact.value p + amount - ((Rounding.toInt (lit 0 : F) : ℤ) : K) := by
  have hzero : Rounding.toInt (lit 0 : F) = 0 := by
    rw [rounding.toInt_eq, exact.value_zero, ← Int.cast_zero, truncate_intCast]
  rw [exact.value_add, hd, hzero, Int.cast_zero, sub_zero]

/-- Taking lines from the partial ones, and posting them. -/
theorem wheelStep_takeWhole (rounding : ExactRounding exact)
    (wheelScrollChars wheelScrollLines : Option ℕ) (dx dy px py : F) {lx ly : F}
    (hlx : exact.value lx = inPixels exact dx / exact.value g.horizontalPixelsPerLine)
    (hly : exact.value ly = inPixels exact dy / exact.value g.verticalPixelsPerLine)
    (timeDiff : ℤ) (axis : Axis) :
    let platform := Platform.windows wheelScrollChars wheelScrollLines
    let taken := g.takeWhole platform px py lx ly timeDiff
    WheelStep exact g (taken.1.postScroll platform taken.2.1.x taken.2.1.y taken.2.2.x taken.2.2.y)
      ⟨⟨dx, dy⟩, taken.2.1, taken.2.2⟩ axis := by
  intro platform taken
  obtain ⟨hevents, hlines⟩ :=
    g.takeWhole_wheel wheelScrollChars wheelScrollLines px py lx ly timeDiff
  obtain ⟨hpixelsPerLine, -⟩ := takeWhole_others platform g px py lx ly timeDiff
  have hposted : (taken.1.postScroll platform taken.2.1.x taken.2.1.y taken.2.2.x
      taken.2.2.y).scrollState.scrollPartialLine = taken.1.scrollPartialLine := by
    rw [scrollState_postScroll]
    rfl
  have hposted' : (taken.1.postScroll platform taken.2.1.x taken.2.1.y taken.2.2.x
      taken.2.2.y).scrollState.pixelsPerLine = taken.1.scrollState.pixelsPerLine := by
    rw [scrollState_postScroll]
    rfl
  refine ⟨?_, hposted'.trans hpixelsPerLine, ?_⟩
  · show exact.value
      ((taken.1.postScroll platform _ _ _ _).scrollState.scrollPartialLine.get axis) = _
    rw [hposted]
    split_ifs at hlines
    · obtain ⟨-, hrest, htaken⟩ := hlines
      rw [show taken.1.scrollPartialLine = _ from hrest]
      show _ = _ - ((taken.2.2.get axis : ℤ) : K)
      rw [show taken.2.2 = _ from htaken]
      cases axis with
      | x => exact (value_floor_add rounding hlx).2
      | y => exact (value_floor_add rounding hly).2
    · obtain ⟨-, hrest, htaken⟩ := hlines
      rw [show taken.1.scrollPartialLine = _ from hrest]
      show _ = _ - ((taken.2.2.get axis : ℤ) : K)
      rw [show taken.2.2 = _ from htaken]
      cases axis with
      | x => exact value_add_waiting rounding hlx
      | y => exact value_add_waiting rounding hly
  · refine (postScroll_wheel wheelScrollChars wheelScrollLines _ _ taken.2.2 axis).2.trans ?_
    rw [wheelData, show taken.1.events = g.events from hevents]
    rfl

/-- **A call** scrolls, or changes nothing of this. -/
theorem wheelStep_scrollCall (rounding : ExactRounding exact)
    (wheelScrollChars wheelScrollLines : Option ℕ) (call : F × F × ℤ) (axis : Axis) :
    match g.scrollOf (.windows wheelScrollChars wheelScrollLines) call.1 call.2.1 call.2.2 with
    | some scroll => WheelStep exact g
        (g.scrollCall (.windows wheelScrollChars wheelScrollLines) call) scroll axis
    | none => (g.scrollCall (.windows wheelScrollChars wheelScrollLines) call).scrollState =
          g.scrollState ∧
        (g.scrollCall (.windows wheelScrollChars wheelScrollLines) call).events = g.events := by
  obtain ⟨-, hevents⟩ := g.prepareScroll_wheel call.1 call.2.1 call.2.2
  have hprepared := scrollState_prepareScroll (g := g) call.1 call.2.1 call.2.2
  rw [scrollCall, scrollOf, applyScroll_eq]
  by_cases hscrolls : g.type = .scroll ∨ g.momentumPhase ≠ .undefined
  · by_cases hgoesOn : (g.prepareScroll call.1 call.2.1 call.2.2).2 = true
    · simp only [if_pos hscrolls, if_pos hgoesOn, if_true]
      have hhorizontal : (g.prepareScroll call.1 call.2.1 call.2.2).1.horizontalPixelsPerLine =
          g.horizontalPixelsPerLine := congrArg ScrollState.horizontalPixelsPerLine hprepared
      have hvertical : (g.prepareScroll call.1 call.2.1 call.2.2).1.verticalPixelsPerLine =
          g.verticalPixelsPerLine := congrArg ScrollState.verticalPixelsPerLine hprepared
      have hstep := wheelStep_takeWhole (g := (g.prepareScroll call.1 call.2.1 call.2.2).1) rounding
        wheelScrollChars wheelScrollLines call.1 call.2.1 (call.1 * pixelsPerMillimeter F)
        (call.2.1 * pixelsPerMillimeter F)
        (value_lines call.1 _) (value_lines call.2.1 _) call.2.2 axis
      rw [hhorizontal, hvertical] at hstep
      rw [scrollBy_eq]
      exact hstep.congr hprepared hevents scrollState_advancePhases advancePhases_wheel.2
    · simp only [if_pos hscrolls, if_neg hgoesOn, Bool.false_eq_true, if_false]
      exact ⟨hprepared, hevents⟩
  · simp [if_neg hscrolls]

/-- No line is lost on an axis: those that have gone to the wheel and those that wait are what the
calls that returned true had. The wheel turns by twice the lines that go to it. -/
def WheelConserved (exact : ExactOperations F K) (platform : Platform) (g : LPGesture F)
    (calls : List (F × F × ℤ)) (axis : Axis) : Prop :=
  let last := calls.foldl (scrollCall platform) g
  let scrolls := g.scrollTrace platform (scrollOperations calls)
  (scrolls.map fun scroll ↦ (scroll.lines.get axis : K)).sum +
      exact.value (last.scrollPartialLine.get axis) =
    exact.value (g.scrollPartialLine.get axis) +
      (scrolls.map fun scroll ↦ inPixels exact (scroll.distance.get axis) /
        exact.value (g.scrollState.pixelsPerLine axis)).sum ∧
  last.wheelData axis =
    g.wheelData axis + 2 * (scrolls.map fun scroll ↦ scroll.lines.get axis).sum

/-- **No line is lost** in exact arithmetic. -/
theorem wheel_conserved (rounding : ExactRounding exact)
    (wheelScrollChars wheelScrollLines : Option ℕ) (calls : List (F × F × ℤ)) (axis : Axis) :
    ∀ {g : LPGesture F},
      WheelConserved exact (.windows wheelScrollChars wheelScrollLines) g calls axis := by
  induction calls with
  | nil =>
    intro g
    simp [WheelConserved, scrollOperations, scrollTrace]
  | cons call calls ih =>
    intro g
    unfold WheelConserved
    intro last scrolls
    let platform : Platform := .windows wheelScrollChars wheelScrollLines
    have hcall := wheelStep_scrollCall (g := g) rounding wheelScrollChars wheelScrollLines call axis
    obtain ⟨hsum, hdata⟩ := @ih (g.scrollCall platform call)
    have hscrolls : scrolls = (g.scrollOf platform call.1 call.2.1 call.2.2).toList ++
        (g.scrollCall platform call).scrollTrace platform (scrollOperations calls) := rfl
    have hlast : last = calls.foldl (scrollCall platform) (g.scrollCall platform call) := rfl
    rw [← hlast] at hsum hdata
    rw [hscrolls]
    cases hscroll : g.scrollOf platform call.1 call.2.1 call.2.2 with
    | some scroll =>
      rw [hscroll] at hcall
      have hfirst := hcall.partialLine
      rw [hcall.wheelData] at hdata
      rw [hcall.pixelsPerLine] at hsum
      simp only [Option.toList_some, List.singleton_append, List.map_cons, List.sum_cons]
      exact ⟨by linarith, by linarith⟩
    | none =>
      rw [hscroll] at hcall
      obtain ⟨hstate, hevents⟩ := hcall
      rw [hstate] at hsum
      rw [show (g.scrollCall platform call).scrollPartialLine = g.scrollPartialLine from
        congrArg ScrollState.scrollPartialLine hstate] at hsum
      rw [wheelData, wheelData, hevents] at hdata
      exact ⟨hsum, hdata⟩

end Exact

section Limit

variable [Arithmetic F] [Rounding F]

/-- **The limit of 60 updates a second** holds in a run that flushes only after a sixtieth of a
second: in every stretch of it lines are flushed at most once, and once more for each such period
that the stretch takes. And no line is lost, in exact arithmetic. -/
theorem wheel_limited (wheelScrollChars wheelScrollLines : Option ℕ) (g : LPGesture F)
    (calls : List (F × F × ℤ)) (htime : ∀ call ∈ calls, 0 ≤ call.2.2)
    (hkeeps : ∀ earlier call later, calls = earlier ++ call :: later →
      let platform := Platform.windows wheelScrollChars wheelScrollLines
      let before := earlier.foldl (scrollCall platform) g
      before.flushes platform call = true →
        (1000000 / 60 : ℚ) ≤ ((before.windowsEventTimer + call.2.2 : ℤ) : ℚ)) :
    let platform := Platform.windows wheelScrollChars wheelScrollLines
    (∀ earlier stretch later, calls = earlier ++ stretch ++ later →
      ((eventThrottle F wheelScrollChars wheelScrollLines).count
          (earlier.foldl (scrollCall platform) g) stretch : ℚ) ≤
        1 + ((stretch.map fun call ↦ call.2.2).sum : ℤ) * 60 / 1000000) ∧
    ∀ (K : Type) [Field K] [LinearOrder K] [IsStrictOrderedRing K] [FloorRing K]
      (exact : ExactOperations F K), ExactRounding exact →
        ∀ axis, WheelConserved exact platform g calls axis := by
  intro platform
  refine ⟨fun earlier stretch later hsplit ↦ ?_, fun K _ _ _ _ exact rounding axis ↦
    wheel_conserved rounding wheelScrollChars wheelScrollLines calls axis⟩
  have hstretch : (eventThrottle F wheelScrollChars wheelScrollLines).KeepsPeriod (1000000 / 60)
      (earlier.foldl (scrollCall platform) g) stretch := by
    have hall : (eventThrottle F wheelScrollChars wheelScrollLines).KeepsPeriod (1000000 / 60) g
        (earlier ++ stretch ++ later) := by
      rw [← hsplit]
      exact hkeeps
    exact hall.stretch
  have htime' : ∀ call ∈ stretch, 0 ≤ call.2.2 := fun call hcall ↦
    htime call (by rw [hsplit]; simp [hcall])
  have hcount := Throttle.count_mul_le (by norm_num) htime' hstretch
  have htimes : (stretch.map (eventThrottle F wheelScrollChars wheelScrollLines).time).sum =
      (stretch.map fun call ↦ call.2.2).sum := rfl
  rw [htimes] at hcount
  linarith

/-- Two scrolls at 50 a second. -/
theorem wheel_limited_slow :
    letI : Arithmetic ℚ := rationalArithmetic id
    letI : Rounding ℚ := rationalRounding
    let g : LPGesture ℚ :=
      ((construct (.replicate 11 .zero)).beginGesture (.windows none none) 1).1
    let calls : List (ℚ × ℚ × ℤ) := [(0, 1, 20000), (0, 1, 20000)]
    (∀ earlier stretch later, calls = earlier ++ stretch ++ later →
      ((eventThrottle ℚ none none).count
          (earlier.foldl (scrollCall (.windows none none)) g) stretch : ℚ) ≤
        1 + ((stretch.map fun call ↦ call.2.2).sum : ℤ) * 60 / 1000000) ∧
      (eventThrottle ℚ none none).count g calls = 2 ∧
      ∀ axis, WheelConserved (ExactOperations.rational id) (.windows none none) g calls axis := by
  let : Arithmetic ℚ := rationalArithmetic id
  let : Rounding ℚ := rationalRounding
  intro g calls
  have hkeeps : ∀ earlier call later, calls = earlier ++ call :: later →
      let before := earlier.foldl (scrollCall (.windows none none)) g
      before.flushes (.windows none none) call = true →
        (1000000 / 60 : ℚ) ≤ ((before.windowsEventTimer + call.2.2 : ℤ) : ℚ) := by
    refine PartialRun.forall_split_cons.2 ⟨fun _ ↦ by decide +kernel,
      PartialRun.forall_split_cons.2 ⟨fun _ ↦ by decide +kernel, fun earlier call later h ↦ ?_⟩⟩
    simp at h
  obtain ⟨hlimited, hconserved⟩ := wheel_limited none none g calls (by decide) hkeeps
  exact ⟨hlimited, by decide +kernel, hconserved ℚ _ (ExactRounding.rational id)⟩

/-- At 100 scrolls a second all three of them flush, where the limit allows 2.8. -/
theorem wheel_not_limited :
    letI : Arithmetic ℚ := rationalArithmetic id
    letI : Rounding ℚ := rationalRounding
    let g : LPGesture ℚ :=
      ((construct (.replicate 11 .zero)).beginGesture (.windows none none) 1).1
    let calls : List (ℚ × ℚ × ℤ) := [(0, 1, 10000), (0, 1, 10000), (0, 1, 10000)]
    (eventThrottle ℚ none none).count g calls = 3 ∧
      ¬∀ earlier stretch later, calls = earlier ++ stretch ++ later →
        ((eventThrottle ℚ none none).count
            (earlier.foldl (scrollCall (.windows none none)) g) stretch : ℚ) ≤
          1 + ((stretch.map fun call ↦ call.2.2).sum : ℤ) * 60 / 1000000 := by
  let : Arithmetic ℚ := rationalArithmetic id
  let : Rounding ℚ := rationalRounding
  intro g calls
  have hcount : (eventThrottle ℚ none none).count g calls = 3 := by decide +kernel
  refine ⟨hcount, fun h ↦ ?_⟩
  have hall := h [] calls [] (List.append_nil calls).symm
  rw [List.foldl_nil, hcount] at hall
  norm_num [calls] at hall

end Limit

end LPGesture

end Touchless
