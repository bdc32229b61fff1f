import Touchless.GestureInteraction.BasicModeCalls
import Touchless.GestureInteraction.BasicModeSends
import Touchless.GestureInteraction.BasicModeTransitions

/-!
# The palm swipe of basic mode

What a frame without a palm does to the palm swipe. Every state but one then requests a state
without a palm (`request_isPalmFree`), and so the frame ends in such a state and begins no desktop
swipe. The one is `palmGestureRecognition`: it requests the state that the dispatch tells, but when
a translation has been recognized for 100 ms it requests the palm swipe after that, and the last
request counts (`run_palm_iff`).
-/

namespace Touchless

/-- `beginGesture(GestureDesktopSwipeHorizontal)`. -/
def OSCall.beginsSwipe {F : Type} : OSCall F → Bool
  | beginGesture gestureType => gestureType = .desktopSwipeHorizontal
  | _ => false

namespace BasicMode

open State

variable {leap : Leap}

section

variable {env : Environment leap} {settings : Settings leap.Scalar} {v : FrameState leap}
  {m : BasicMode leap} {p : Option State} {u : State}

/-- Only entering the palm swipe begins a desktop swipe. -/
theorem maySend_beginsSwipe {s : State} {input : StateMachineInput Input}
    {call : OSCall leap.Scalar}
    (hs : s = palmSwipe → input ≠ .enter) (h : maySend s input call = true) :
    call.beginsSwipe = false := by
  cases call with
  | beginGesture gestureType =>
    cases s with
    | twoPlusPointablesScrolling | twoHandsRotating | twoHandsZooming =>
      simp only [maySend, OSCall.isCursor, ofGesture, Bool.false_or, Bool.and_eq_true,
        decide_eq_true_eq] at h
      simp [OSCall.beginsSwipe, h.2]
    | palmSwipe =>
      simp only [maySend, OSCall.isCursor, ofGesture, Bool.false_or, Bool.and_eq_true,
        decide_eq_true_eq] at h
      exact absurd h.1 (hs rfl)
    | _ => simp [maySend, OSCall.isCursor] at h
  | _ => rfl

/-- The log has grown, but not by the begin of a desktop swipe. -/
abbrev Unswiped (m n : BasicMode leap) : Prop := Sends (fun call ↦ !call.beginsSwipe) m n

theorem unswiped_handler {s : State} {input : StateMachineInput Input}
    (hs : s = palmSwipe → input ≠ .enter) (m : BasicMode leap) :
    Unswiped m (handlers env settings v s input m).owner :=
  (sends_handler s input m).mono fun _ hcall ↦ by
    rw [maySend_beginsSwipe hs hcall]
    rfl

/-- The palm gesture requests the swipe, be there a palm or not: a translation has been recognized,
and the gesture is 100 ms old. -/
def swipeIsDue (v : FrameState leap) (m : BasicMode leap) : Prop :=
  v.now - leap.timestamp m.gestureStart ≥ 100 * MILLISECONDS ∧ v.rtsIs .translating = true

instance (v : FrameState leap) (m : BasicMode leap) : Decidable (swipeIsDue v m) :=
  inferInstanceAs (Decidable (_ ∧ _))

/-- **What is requested without a palm**: a state without one, unless the swipe is due. -/
theorem request_isPalmFree (hpalm : shouldBeInPalmSwipeMode settings v = false) {s : State}
    {input : StateMachineInput Input}
    (hdue : s = palmGestureRecognition → input = .user .processFrame ∧ ¬ swipeIsDue v m)
    (h : netRequest (handlers env settings v s input m).requests = some u) : IsPalmFree u := by
  rcases request_cases h with rfl | hother | ⟨-, rfl⟩
  · exact isPalmFree_dispatch hpalm
  · cases s with
    -- where the swipe is not due, the dispatch makes the only request
    | palmGestureRecognition =>
      obtain ⟨rfl, hnot⟩ := hdue rfl
      have hrequests : (handlers env settings v palmGestureRecognition (.user .processFrame)
          m).requests = [some (nPointables settings v)] := by
        rw [swipeIsDue] at hnot
        simp [handlers, statePalmGestureRecognition, palmGestureRecognitionFrame, hpalm, hnot]
      rw [hrequests] at h
      obtain rfl := Option.some.inj h
      exact isPalmFree_dispatch hpalm
    | palmSwipe => simp [others] at hother
    | _ => exact ⟨by rintro rfl; simp [others] at hother, by rintro rfl; simp [others] at hother⟩
  · simp [IsPalmFree]

/-- In the transition loop of a frame without a palm, states of a palm are being left. -/
structure PalmInside (before : BasicMode leap) (s : State) (p : Option State) (m : BasicMode leap) :
    Prop where
  sent : Unswiped before m
  leaves : IsPalmFree s ∨ p ≠ none
  request : ∀ u, p = some u → IsPalmFree u

/-- Between two states. -/
structure PalmBetween (before : BasicMode leap) (t : State) (m : BasicMode leap) : Prop where
  sent : Unswiped before m
  enters : IsPalmFree t

theorem palmTurns (env : Environment leap) (hpalm : shouldBeInPalmSwipeMode settings v = false)
    (before : BasicMode leap) :
    StateMachine.Turns (handlers env settings v) (PalmInside before) (PalmBetween before) where
  neverTransitionsOnExit := neverTransitionsOnExit
  exit s t m h := ⟨h.sent.trans (unswiped_handler (fun _ ↦ by simp) m), h.request t rfl⟩
  enter t m h :=
    ⟨h.sent.trans (unswiped_handler (fun ht ↦ absurd ht h.enters.2) m), .inl h.enters,
      fun _ ↦ request_isPalmFree hpalm fun ht ↦ absurd ht h.enters.1⟩

variable {fuel : ℕ} {o o' : Object leap} {frame sinceFrame : leap.Frame}

/-- A frame has no swipe to begin: the palm gesture is not left for it. -/
def SwipeNotDue (o : Object leap) (frame sinceFrame : leap.Frame) : Prop :=
  o.machine.currentState = some palmGestureRecognition →
    ¬ swipeIsDue (shown o frame sinceFrame) o.machine.owner

instance (o : Object leap) (frame sinceFrame : leap.Frame) :
    Decidable (SwipeNotDue o frame sinceFrame) :=
  inferInstanceAs (Decidable (_ → ¬ _))

/-- What is asked of a frame without a palm: it ends in a state without a palm, and no desktop swipe
is begun. -/
structure EndsPalmFree (o o' : Object leap) : Prop where
  state : o'.machine.currentState ≠ some palmGestureRecognition ∧
    o'.machine.currentState ≠ some palmSwipe
  sent : ∃ sent, o'.machine.owner.osCalls = o.machine.owner.osCalls ++ sent ∧
    ∀ call ∈ sent, call.beginsSwipe = false

theorem unswiped_sendTouches (settings : Settings leap.Scalar) (o : Object leap) :
    Unswiped o.machine.owner (sendTouches settings o).machine.owner := by
  rw [sendTouches]
  split_ifs
  · exact .refl _
  · have hevent : ∀ b : Manager leap, b.Sends (fun call ↦ !call.beginsSwipe) b.emitTouchEvent :=
      fun b ↦ ⟨[.emitTouchEvent b.touchEvent], rfl, by simp [OSCall.beginsSwipe]⟩
    exact hevent _

/-- **A frame without a palm** whose swipe is not due. -/
theorem processFrame_palmFree
    (hpalm : shouldBeInPalmSwipeMode settings (shown o frame sinceFrame) = false)
    (hdue : SwipeNotDue o frame sinceFrame)
    (hrun : processFrame env settings fuel o frame sinceFrame = some o') : EndsPalmFree o o' := by
  have hframe := turns_processFrame fuel (Q := fun _ ↦ True)
    (palmTurns env hpalm o.machine.owner) (fun _ _ _ _ ↦ trivial) (fun _ _ _ ↦ trivial)
    (fun _ ↦ ⟨.refl _, by simp [IsPalmFree]⟩)
    (fun s m hs ↦ ⟨trivial, by
      -- the first call finds the state of before the frame, or one of the initialization
      have hnot : s = palmGestureRecognition → ¬ swipeIsDue (shown o frame sinceFrame) m := by
        rcases hs with ⟨hs, rfl⟩ | hinside
        · exact fun h ↦ hdue (h ▸ hs)
        · exact fun h ↦ absurd h ((hinside.leaves.resolve_right (by simp)).1)
      have hsent : Unswiped o.machine.owner m := by
        rcases hs with ⟨-, rfl⟩ | hinside
        · exact .refl _
        · exact hinside.sent
      refine ⟨hsent.trans (unswiped_handler (fun _ ↦ by simp) m), ?_, fun u ↦
        request_isPalmFree hpalm fun h ↦ ⟨rfl, hnot h⟩⟩
      -- the states of a palm see that it has gone
      cases s with
      | palmGestureRecognition =>
        right
        simp only [handlers, statePalmGestureRecognition, palmGestureRecognitionFrame, hpalm,
          Bool.false_eq_true, if_false]
        split_ifs <;> simp [netRequest]
      | palmSwipe => exact .inr (by simp [handlers, statePalmSwipe, hpalm])
      | _ => exact .inl (by simp [IsPalmFree])⟩)
  obtain ⟨m, s, rfl, hs, hinside⟩ := hframe.2 o' hrun
  have hfree : IsPalmFree s := hinside.leaves.resolve_right (by simp)
  refine ⟨?_, ?_⟩
  · rw [currentState_sendTouches, hs.current]
    exact ⟨by simpa using hfree.1, by simpa using hfree.2⟩
  · obtain ⟨sent, hsent, hnone⟩ := hinside.sent.trans
      (unswiped_sendTouches settings ⟨shown o frame sinceFrame, m⟩)
    exact ⟨sent, hsent, fun call hcall ↦ by simpa using hnone call hcall⟩

/-- **A frame whose swipe is due** begins it. -/
theorem processFrame_swipes (env : Environment leap) (settings : Settings leap.Scalar)
    (hfuel : 0 < fuel)
    (hcur : o.machine.currentState = some palmGestureRecognition)
    (hdue : swipeIsDue (shown o frame sinceFrame) o.machine.owner) :
    ∃ o', processFrame env settings fuel o frame sinceFrame = some o' ∧
      o'.machine.currentState = some palmSwipe := by
  have hrequest : netRequest (handlers env settings (shown o frame sinceFrame)
      palmGestureRecognition
      (.user .processFrame) o.machine.owner).requests = some palmSwipe := by
    rw [swipeIsDue] at hdue
    simp only [handlers, statePalmGestureRecognition, palmGestureRecognitionFrame]
    rw [if_pos hdue]
    split_ifs <;> rfl
  obtain ⟨m, hrun, hm⟩ := StateMachine.runCurrentState_direct neverTransitionsOnExit hcur hrequest
    (fun _ ↦ rfl) hfuel
  refine ⟨sendTouches settings ⟨shown o frame sinceFrame, m⟩, ?_, ?_⟩
  · -- the machine has run before, so the frame begins with its input
    have hinit : ModeObject.ensureInitialized (handlers env settings) fuel
        ⟨shown o frame sinceFrame, o.machine⟩ noPointablesNoInteraction =
          some ⟨shown o frame sinceFrame, o.machine⟩ := by
      simp [ModeObject.ensureInitialized, StateMachine.ensureInitialized, hcur]
    rw [processFrame_eq, ← shown, hinit]
    simp [ModeObject.runCurrentState, hrun]
  · rw [currentState_sendTouches]
    exact hm.current

/-! ### Whole runs -/

/-- What is asked of a call: a frame without a palm ends in a state without a palm, and no desktop
swipe is begun. -/
def KeepsPalmFree (env : Environment leap) (settings : Settings leap.Scalar) (fuel : ℕ)
    (o : Object leap) : ModeCall leap → Prop
  | .processFrame frame sinceFrame =>
    shouldBeInPalmSwipeMode settings (shown o frame sinceFrame) = false →
      ∀ o', processFrame env settings fuel o frame sinceFrame = some o' → EndsPalmFree o o'
  | .stopActiveEvents => True

/-- The call is not a frame without a palm whose swipe is due. -/
def NotLate (settings : Settings leap.Scalar) (o : Object leap) : ModeCall leap → Prop
  | .processFrame frame sinceFrame =>
    shouldBeInPalmSwipeMode settings (shown o frame sinceFrame) = false →
      SwipeNotDue o frame sinceFrame
  | .stopActiveEvents => True

instance (settings : Settings leap.Scalar) (o : Object leap) :
    ∀ call, Decidable (NotLate settings o call)
  | .processFrame _ _ => inferInstanceAs (Decidable (_ → _))
  | .stopActiveEvents => .isTrue trivial

theorem keepsPalmFree_iff (hfuel : 0 < fuel) (o : Object leap) (call : ModeCall leap) :
    KeepsPalmFree env settings fuel o call ↔ NotLate settings o call := by
  cases call with
  | stopActiveEvents => exact Iff.rfl
  | processFrame frame sinceFrame =>
    refine forall_congr' fun hpalm ↦ ⟨fun hkeeps hcur hdue ↦ ?_, fun hdue o' hrun ↦ ?_⟩
    · obtain ⟨o', hrun, hswipes⟩ := processFrame_swipes env settings hfuel hcur hdue
      exact (hkeeps o' hrun).state.2 hswipes
    · exact processFrame_palmFree hpalm hdue hrun

/-- **The palm swipe in a run**: the frames without a palm end without one and begin no desktop
swipe exactly if none of them finds the palm gesture with its swipe due; and that is so wherever the
palm swipe is disabled. -/
theorem run_palm_iff (env : Environment leap) (settings : Settings leap.Scalar) (hfuel : 0 < fuel)
    (memory : BasicMode leap) (calls : List (ModeCall leap)) :
    ((methods env settings fuel).Meets (KeepsPalmFree env settings fuel) (Object.construct memory)
        calls ↔
      (methods env settings fuel).Meets (NotLate settings) (Object.construct memory) calls) ∧
    (settings.disablePalmSwipe = true →
      (methods env settings fuel).Meets (NotLate settings) (Object.construct memory) calls) := by
  -- the condition is one on each call; where the swipe is disabled, `KeptPalmFree` implies it
  refine ⟨ModeMethods.meets_congr (keepsPalmFree_iff hfuel), fun hdisabled ↦ ?_⟩
  refine ModeMethods.meets_of_invariant (I := KeptPalmFree) (fun o call o' h hexec ↦ ?_)
    (fun o call h ↦ ?_) (keptPalmFree_construct memory)
  · cases call with
    | processFrame frame sinceFrame => exact h.processFrame hdisabled hexec
    | stopActiveEvents => exact h.stopActiveEvents hdisabled hexec
  · cases call with
    | processFrame frame sinceFrame =>
      exact fun _ hcur ↦ absurd rfl (h.inside _ hcur).2.1.1
    | stopActiveEvents => trivial

end

/-! ### A device that sees a palm move -/

/-- The device of the examples, with a hand on its side that moves. -/
def movingPalmLeap : Leap :=
  { fingerLeap with
    palmNormal := fun _ ↦ (⟨1, 0, 0⟩ : Vector3 ℚ)
    translationProbability := fun _ _ ↦ (1 : ℚ) }

/-- Some frames with the palm in them, -/
def palmFrames (number : ℕ) : List (ModeCall movingPalmLeap) :=
  (List.range number).map fun n ↦ .processFrame (fingerFrame (n + 1) 1) (fingerFrame n 1)

/-- the one after them, without it, -/
def palmGone (number : ℕ) : movingPalmLeap.Frame := fingerFrame (number + 1) 0

/-- and the one before that. -/
def palmLast (number : ℕ) : movingPalmLeap.Frame := fingerFrame number 1

/-- The settings of the introduction, where palms swipe. -/
def introSettings : Settings movingPalmLeap.Scalar := (Settings.construct _ true).setIntroMode

/-- A palm that goes after 66 ms is left at once. -/
theorem run_palm_iff_early :
    (methods (Environment.plain movingPalmLeap) introSettings 5).Meets
      (KeepsPalmFree (Environment.plain movingPalmLeap) introSettings 5)
      (Object.construct (blank movingPalmLeap))
      (palmFrames 2 ++ [.processFrame (palmGone 2) (palmLast 2)]) :=
  (run_palm_iff (Environment.plain movingPalmLeap) introSettings (by decide) (blank movingPalmLeap)
    (palmFrames 2 ++ [.processFrame (palmGone 2) (palmLast 2)])).1.2 (by decide +kernel)

/-- One that goes after 133 ms begins a swipe. -/
theorem run_palm_fails :
    ∃ o o', (methods (Environment.plain movingPalmLeap) introSettings 5).run
        (Object.construct (blank movingPalmLeap)) (palmFrames 3) = some o ∧
      shouldBeInPalmSwipeMode introSettings (shown o (palmGone 3) (palmLast 3)) = false ∧
      processFrame (Environment.plain movingPalmLeap) introSettings 5 o (palmGone 3) (palmLast 3) =
        some o' ∧
      o'.machine.currentState = some palmSwipe := by
  have hnoPalm : ((methods (Environment.plain movingPalmLeap) introSettings 5).run
      (Object.construct (blank movingPalmLeap)) (palmFrames 3)).map
        (fun o ↦ shouldBeInPalmSwipeMode introSettings (shown o (palmGone 3) (palmLast 3))) =
          some false := by decide +kernel
  have hswipes : ((methods (Environment.plain movingPalmLeap) introSettings 5).run
      (Object.construct (blank movingPalmLeap)) (palmFrames 3)).bind
        (fun o ↦ (processFrame (Environment.plain movingPalmLeap) introSettings 5 o (palmGone 3)
          (palmLast 3)).map (·.machine.currentState)) = some (some palmSwipe) := by decide +kernel
  obtain ⟨o, hrun, hpalm⟩ := Option.map_eq_some_iff.1 hnoPalm
  rw [hrun, Option.bind_some] at hswipes
  obtain ⟨o', hprocess, hstate⟩ := Option.map_eq_some_iff.1 hswipes
  exact ⟨o, o', hrun, hpalm, hprocess, hstate⟩

end BasicMode

end Touchless
