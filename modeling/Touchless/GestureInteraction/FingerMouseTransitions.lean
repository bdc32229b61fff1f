import Touchless.GestureInteraction.FingerMouseContract

/-!
# Where finger mouse goes

Which states the handlers of `FingerMouse` request. Entering a state lowers a rank (`lowers_rank`),
so every transition loop ends. Losing the focus leads to the no-interaction state exactly where the
last frame shows neither fingers nor a palm (`lostFocus_atRest_iff`); a frame without fingers and
palm leads there too, from every state (`emptyFrame_atRest`).
-/

namespace Touchless

namespace FingerMouse

open State

variable {leap : Leap}

section

variable {env : Environment leap} {settings : Settings leap.Scalar} {v : FrameState leap}
  {m : FingerMouse leap} {start : DriverStatus} {s t u : State}

/-! ### Termination -/

/-- Do the fingers change, for the states that test it when they are entered? -/
def leaves (settings : Settings leap.Scalar) (v : FrameState leap) : State → Bool
  | noFingersNoInteraction => fingersChange settings v (0 < ·)
  | oneFingerHovering | oneFingerDragging => fingersChange settings v (· ≠ 1)
  | oneFingerClicking | twoFingersGestureRecognition => fingersChange settings v (· = 0)
  | twoFingersHovering => fingersChange settings v (notTwoFingers settings)
  | threePlusFingersNoInteraction | threePlusFingersGestureRecognition =>
    fingersChange settings v (· < 3)
  | palmGestureRecognition => !shouldBeInPalmSwipeMode settings v
  | _ => false

/-- How many transitions may follow the entry of a state while the fingers stay. The recognition of
two-finger gestures goes back to hovering, whatever its count is. -/
def rankStaying (v : FrameState leap) : State → ℕ
  | oneFingerHovering => if v.collectiveZone = .touching then 1 else 0
  | oneFingerDragging | threePlusFingersGestureRecognition =>
    if v.collectiveZone = .touching then 0 else 1
  | twoFingersHovering => if v.collectiveZone = .touching then 2 else 0
  | twoFingersGestureRecognition => if noLongerTouching v then 4 else 1
  | threePlusFingersNoInteraction => if v.collectiveZone = .none then 0 else 1
  | _ => 0

/-- How many transitions may follow the entry of a state. -/
def rank (settings : Settings leap.Scalar) (v : FrameState leap) (s : State) : ℕ :=
  if leaves settings v s then 3 else rankStaying v s

theorem rank_le (settings : Settings leap.Scalar) (v : FrameState leap) (s : State) :
    rank settings v s ≤ 4 := by
  rw [rank]
  split_ifs
  · omega
  · cases s <;> simp only [rankStaying] <;> first | omega | (split_ifs <;> omega)

theorem rank_of_stays (h : leaves settings v s = false) : rank settings v s = rankStaying v s := by
  rw [rank, h]
  rfl

theorem fingersChange_of_palm (h : shouldBeInPalmSwipeMode settings v = false) (test : ℕ → Bool) :
    fingersChange settings v test = v.countIs test := by
  simp [fingersChange, h]

/-- Where a test of the fingers fails, so does each stronger one. -/
theorem fingersChange_mono {test test' : ℕ → Bool} (h : fingersChange settings v test = false)
    (hle : ∀ count, test' count = true → test count = true) :
    fingersChange settings v test' = false := by
  rw [fingersChange, Bool.or_eq_false_iff] at h ⊢
  refine ⟨?_, h.2⟩
  cases hcount : v.filteredPointableCount.filteredCategory with
  | none => exact FrameState.countIs_none hcount _
  | some count =>
    have htest : test count = false := (FrameState.countIs_some hcount test).symm.trans h.1
    rw [FrameState.countIs_some hcount]
    by_contra hcontra
    rw [Bool.not_eq_false] at hcontra
    exact absurd ((hle count hcontra).symm.trans htest) (by simp)

theorem shouldBeInPalmSwipeMode_of_disabled (h : settings.use3PlusFingerGestures = false) :
    shouldBeInPalmSwipeMode settings v = false := by
  rw [shouldBeInPalmSwipeMode]
  cases v.palmHand with
  | none => rfl
  | some hand => simp [h]

/-- **The dispatch** leads to a state that the present fingers do not leave. -/
theorem leaves_nFingers : leaves settings v (nFingers settings v) = false := by
  rw [nFingers]
  split_ifs with hpalm huses
  · simp [leaves, (Bool.and_eq_true_iff.1 hpalm).2]
  all_goals
    have hnone : shouldBeInPalmSwipeMode settings v = false := by
      cases huse : settings.use3PlusFingerGestures with
      | true => simpa [huse] using hpalm
      | false => exact shouldBeInPalmSwipeMode_of_disabled huse
    cases hcount : v.filteredPointableCount.filteredCategory with
    | none => simp [leaves, fingersChange_of_palm hnone, FrameState.countIs_none hcount]
    | some count =>
      rcases count with _ | _ | _ | count <;>
        simp [leaves, fingersChange_of_palm hnone, FrameState.countIs_some hcount, notTwoFingers,
          huses]

/-- The states that the dispatch leads to. -/
theorem rank_nFingers_le : rank settings v (nFingers settings v) ≤ 2 := by
  rw [rank_of_stays leaves_nFingers, nFingers]
  split_ifs
  · simp [rankStaying]
  all_goals
    split <;> simp only [rankStaying] <;> first | omega | (split_ifs <;> omega)

/-- What a state that is entered may request: the dispatch, if the fingers change, and else a state
of lower rank. -/
structure LowersFrom (settings : Settings leap.Scalar) (v : FrameState leap) (t : State)
    (r : HandlerResult State (FingerMouse leap)) : Prop where
  request : ∀ u, netRequest r.requests = some u →
    leaves settings v t = true ∧ u = nFingers settings v ∨
      leaves settings v t = false ∧ rank settings v u < rankStaying v t

theorem LowersFrom.done : LowersFrom settings v t (done m) := ⟨fun u h ↦ by cases h⟩

theorem LowersFrom.dispatch (h : leaves settings v t = true) :
    LowersFrom settings v t (transitionToNFingers settings v m) :=
  ⟨fun _ hu ↦ .inl ⟨h, (Option.some.inj hu).symm⟩⟩

theorem LowersFrom.goTo (h : ¬leaves settings v t = true)
    (hlt : rank settings v u < rankStaying v t) : LowersFrom settings v t (goTo u m) :=
  ⟨fun w hw ↦ .inr ⟨eq_false_of_ne_true h, by rwa [← (Option.some.inj hw : u = w)]⟩⟩

/-- A state that the fingers do not leave has the rank of a state that stays. -/
theorem rank_lt_of_stays {n : ℕ} (h : leaves settings v u = false) (hlt : rankStaying v u < n) :
    rank settings v u < n := by
  rwa [rank_of_stays h]

theorem lowersFrom_oneFingerHoveringFrame :
    LowersFrom settings v oneFingerHovering (oneFingerHoveringFrame env settings v m) := by
  rw [oneFingerHoveringFrame]
  split_ifs with hleaves htouching
  · exact .dispatch hleaves
  · have hstays : leaves settings v oneFingerClicking = false :=
      fingersChange_mono (eq_false_of_ne_true hleaves) (by simp +contextual)
    exact .goTo hleaves (rank_lt_of_stays hstays (by simp [rankStaying, htouching]))
  · exact .done

theorem lowersFrom_draggingFrame :
    LowersFrom settings v oneFingerDragging (draggingFrame env settings v m) := by
  rw [draggingFrame]
  split_ifs with hleaves htouching
  · exact .dispatch hleaves
  · have hstays : leaves settings v oneFingerHovering = false := eq_false_of_ne_true hleaves
    exact .goTo hleaves (rank_lt_of_stays hstays (by simp [rankStaying, htouching]))
  · exact .done

theorem lowersFrom_twoFingersHoveringFrame :
    LowersFrom settings v twoFingersHovering (twoFingersHoveringFrame env settings v m) := by
  rw [twoFingersHoveringFrame]
  split_ifs with hleaves htouching
  · exact .dispatch hleaves
  · have hstays : leaves settings v twoFingersGestureRecognition = false :=
      fingersChange_mono (eq_false_of_ne_true hleaves) (by simp +contextual [notTwoFingers])
    exact .goTo hleaves
      (rank_lt_of_stays hstays (by simp [rankStaying, noLongerTouching, htouching]))
  · exact .goTo hleaves (rank_lt_of_stays rfl (by simp [rankStaying, htouching]))
  · exact .done

theorem lowersFrom_twoFingersGestureRecognitionFrame :
    LowersFrom settings v twoFingersGestureRecognition
      (twoFingersGestureRecognitionFrame settings v m) := by
  simp only [twoFingersGestureRecognitionFrame]
  split_ifs with hleaves htouching
  · exact .dispatch hleaves
  · have hzone : v.collectiveZone ≠ .touching := by
      simpa using (Bool.and_eq_true_iff.1 htouching).2
    have hrank : rank settings v twoFingersHovering ≤ 3 := by
      simp only [rank, rankStaying, hzone, if_false]
      split_ifs <;> omega
    exact .goTo hleaves (by simp only [rankStaying, htouching, if_true]; omega)
  · have hrank : rankStaying v twoFingersGestureRecognition = 1 := by
      simp [rankStaying, htouching]
    cases hgesture : recognizedGesture v with
    | none => exact .done
    | some state =>
      refine .goTo hleaves ?_
      rw [hrank]
      rcases recognizedGesture_eq_some hgesture with
        rfl | rfl | rfl <;> exact rank_lt_of_stays rfl Nat.zero_lt_one

theorem lowersFrom_threePlusFingersFrame :
    LowersFrom settings v threePlusFingersNoInteraction
      (threePlusFingersFrame env settings v m) := by
  rw [threePlusFingersFrame]
  split_ifs with hleaves
  · exact .dispatch hleaves
  · have hstays : leaves settings v threePlusFingersGestureRecognition = false :=
      eq_false_of_ne_true hleaves
    cases hzone : v.collectiveZone with
    | none => exact .done
    | hovering => exact .goTo hleaves (rank_lt_of_stays rfl (by simp [rankStaying, hzone]))
    | touching => exact .goTo hleaves (rank_lt_of_stays hstays (by simp [rankStaying, hzone]))

/-- At the moment when a gesture starts there has been no time to swipe. -/
theorem recognizedSwipe_start (h : m.gestureStart = v.currentFrame) : recognizedSwipe v m = [] := by
  have hnow : ¬v.now - leap.timestamp m.gestureStart ≥ 10 * MILLISECONDS := by
    simp [h, FrameState.now, MILLISECONDS]
  rw [recognizedSwipe, if_neg fun hcond ↦ hnow hcond.1]

theorem lowersFrom_threePlusFingersGestureRecognitionFrame (h : m.gestureStart = v.currentFrame) :
    LowersFrom settings v threePlusFingersGestureRecognition
      (threePlusFingersGestureRecognitionFrame env settings v m) := by
  rw [threePlusFingersGestureRecognitionFrame]
  split_ifs with hleaves
  · exact .dispatch hleaves
  · have hstays : leaves settings v threePlusFingersNoInteraction = false :=
      eq_false_of_ne_true hleaves
    cases hzone : v.collectiveZone with
    | none => exact .goTo hleaves (rank_lt_of_stays hstays (by simp [rankStaying, hzone]))
    | hovering => exact .goTo hleaves (rank_lt_of_stays rfl (by simp [rankStaying, hzone]))
    | touching =>
      refine ⟨fun u hu ↦ ?_⟩
      rw [recognizedSwipe_start h] at hu
      cases hu

/-- A palm has a valid hand. -/
theorem palmHand_of_palm (h : shouldBeInPalmSwipeMode settings v = true) :
    ∃ hand, v.palmHand = some hand ∧ leap.handIsValid hand = true := by
  rw [shouldBeInPalmSwipeMode] at h
  cases hpalm : v.palmHand with
  | none =>
    rw [hpalm] at h
    cases h
  | some hand =>
    rw [hpalm] at h
    refine ⟨hand, rfl, ?_⟩
    by_contra hinvalid
    simp [hinvalid] at h

theorem lowersFrom_palmGestureRecognitionFrame (h : m.gestureStart = v.currentFrame) :
    LowersFrom settings v palmGestureRecognition (palmGestureRecognitionFrame settings v m) := by
  rw [palmGestureRecognitionFrame]
  split_ifs with hpalm
  · exact .dispatch (by simp [leaves, hpalm])
  · obtain ⟨hand, hhand, hvalid⟩ := palmHand_of_palm (eq_true_of_ne_false hpalm)
    -- the gesture has just started, so no swipe is requested yet
    have hnow : ¬v.now - leap.timestamp m.gestureStart ≥ 100 * MILLISECONDS := by
      simp [h, FrameState.now, MILLISECONDS]
    rw [hhand]
    simp only [hvalid, Bool.true_eq_false, if_false, hnow, false_and]
    exact ⟨fun u hu ↦ by cases hu⟩

/-- **What entering a state requests.** -/
theorem lowersFrom_enter (env : Environment leap) (settings : Settings leap.Scalar)
    (v : FrameState leap) (t : State) (m : FingerMouse leap) :
    LowersFrom settings v t (handlers env settings v t .enter m) := by
  cases t with
  | noFingersNoInteraction =>
    simp only [handlers, stateNoFingersNoInteraction, noFingersFrame]
    split_ifs with hleaves
    · exact .dispatch hleaves
    · exact .done
  | oneFingerHovering => exact lowersFrom_oneFingerHoveringFrame
  | oneFingerClicking =>
    refine ⟨fun u hu ↦ ?_⟩
    simp only [handlers, stateOneFingerClicking] at hu
    split_ifs at hu with hleaves
    · exact .inl ⟨hleaves, (Option.some.inj hu).symm⟩
    · cases hu
  | oneFingerDragging => exact lowersFrom_draggingFrame
  | twoFingersHovering => exact lowersFrom_twoFingersHoveringFrame
  | twoFingersGestureRecognition => exact lowersFrom_twoFingersGestureRecognitionFrame
  | threePlusFingersNoInteraction => exact lowersFrom_threePlusFingersFrame
  | threePlusFingersGestureRecognition =>
    exact lowersFrom_threePlusFingersGestureRecognitionFrame rfl
  | palmGestureRecognition => exact lowersFrom_palmGestureRecognitionFrame rfl
  -- the states of a gesture request nothing when they are entered
  | _ => exact ⟨fun u hu ↦ by cases hu⟩

/-- **Entering a state lowers the rank** of the state that is requested. -/
theorem lowers_rank (env : Environment leap) (settings : Settings leap.Scalar)
    (v : FrameState leap) : StateMachine.Lowers (handlers env settings v) (rank settings v) := by
  intro t m u h
  rcases (lowersFrom_enter env settings v t m).request u h with ⟨hleaves, rfl⟩ | ⟨hstays, hlt⟩
  · have hrank : rank settings v t = 3 := by rw [rank, hleaves, if_pos rfl]
    have hle : rank settings v (nFingers settings v) ≤ 2 := rank_nFingers_le
    omega
  · rwa [rank_of_stays hstays]

theorem terminates (env : Environment leap) (settings : Settings leap.Scalar) {fuel : ℕ}
    (hfuel : 4 < fuel) : ModeObject.Terminates (handlers env settings) fuel where
  neverTransitionsOnExit _ := neverTransitionsOnExit
  lowers v := ⟨rank settings v, lowers_rank env settings v, fun s ↦ by
    have hle := rank_le settings v s
    omega⟩

/-! ### Losing the focus -/

variable {fuel : ℕ} {o o' : Object leap}

/-- Does a frame have something to interact with? -/
def interacts (settings : Settings leap.Scalar) (v : FrameState leap) : Bool :=
  fingersChange settings v (0 < ·)

theorem gate (env : Environment leap) (settings : Settings leap.Scalar) :
    ModeObject.Gate (handlers env settings) noFingersNoInteraction .lostFocus
      (interacts settings) where
  neverTransitionsOnExit _ := neverTransitionsOnExit
  enter v m := by
    simp only [handlers, stateNoFingersNoInteraction, noFingersFrame, interacts]
    split_ifs with hchange <;> simp [transitionToNFingers, hchange]
  stays _ _ := rfl
  leaves v s m hs := by
    cases s with
    | noFingersNoInteraction => exact absurd rfl hs
    | _ => rfl

/-- In the no-interaction state the last frame has nothing to interact with. -/
abbrev Rests (settings : Settings leap.Scalar) (o : Object leap) : Prop :=
  ModeObject.Rests noFingersNoInteraction (interacts settings) o

theorem rests_construct (settings : Settings leap.Scalar) (memory : FingerMouse leap) :
    Rests settings (Object.construct memory) := by
  simp [ModeObject.Rests, Object.construct, StateMachine.construct]

/-- The frame and the counts of it are what the handlers have read. -/
theorem frame_processFrame {frame sinceFrame : leap.Frame}
    (hrun : processFrame env settings fuel o frame sinceFrame = some o') :
    o'.frame = o.frame.processFrame (overrides leap) frame sinceFrame := by
  simp only [processFrame, processFrameInternal, Option.bind_eq_bind,
    Option.bind_eq_some_iff] at hrun
  obtain ⟨o₁, hinit, hrun⟩ := hrun
  rw [ModeObject.frame_runCurrentState hrun, ModeObject.frame_ensureInitialized hinit]

theorem rests_processFrame {frame sinceFrame : leap.Frame}
    (hrun : processFrame env settings fuel o frame sinceFrame = some o') : Rests settings o' := by
  simp only [processFrame, processFrameInternal, Option.bind_eq_bind,
    Option.bind_eq_some_iff] at hrun
  obtain ⟨o₁, -, hrun⟩ := hrun
  refine (gate env settings).rests_runCurrentState (fun v m hguard ↦ ?_) hrun
  simp only [interacts] at hguard
  simp [handlers, stateNoFingersNoInteraction, noFingersFrame, hguard, transitionToNFingers]

/-- In the no-interaction state nothing is held. -/
theorem Kept.atRest (h : Kept .idle o)
    (hcur : o.machine.currentState = some noFingersNoInteraction) :
    o.AtRest (·.osCalls) noFingersNoInteraction :=
  ⟨hcur, (h.inside _ hcur).2.track⟩

/-- **Losing the focus** ends in the no-interaction state exactly where the last frame has nothing
to interact with. -/
theorem lostFocus_atRest_iff (hkept : Kept .idle o) (hrests : Rests settings o)
    (hrun : stopActiveEvents env settings fuel o = some o') :
    o'.AtRest (·.osCalls) noFingersNoInteraction ↔ interacts settings o.frame = false := by
  have hiff := (gate env settings).lostFocus_iff hrests hrun
  exact ⟨fun h ↦ hiff.1 h.state,
    fun hguard ↦ Kept.atRest (hkept.stopActiveEvents hrun).kept (hiff.2 hguard)⟩

/-! ### A frame without fingers -/

/-- The frame without fingers and palm. -/
structure NoInteraction (settings : Settings leap.Scalar) (v : FrameState leap) : Prop where
  count : v.filteredPointableCount.filteredCategory = some 0
  palm : shouldBeInPalmSwipeMode settings v = false

instance : Decidable (NoInteraction settings v) :=
  decidable_of_iff (v.filteredPointableCount.filteredCategory = some 0 ∧
    shouldBeInPalmSwipeMode settings v = false)
    ⟨fun ⟨hcount, hpalm⟩ ↦ ⟨hcount, hpalm⟩, fun ⟨hcount, hpalm⟩ ↦ ⟨hcount, hpalm⟩⟩

theorem NoInteraction.fingersChange (h : NoInteraction settings v) (test : ℕ → Bool) :
    FingerMouse.fingersChange settings v test = test 0 := by
  rw [fingersChange_of_palm h.palm, FrameState.countIs_some h.count]

theorem NoInteraction.nFingers (h : NoInteraction settings v) :
    FingerMouse.nFingers settings v = noFingersNoInteraction := by
  simp [FingerMouse.nFingers, h.palm, h.count]

/-- **Every state** tests the fingers in its own way, and leaves. -/
theorem NoInteraction.request (h : NoInteraction settings v) (hs : s ≠ noFingersNoInteraction)
    (m : FingerMouse leap) :
    netRequest (handlers env settings v s (.user .processFrame) m).requests =
      some noFingersNoInteraction := by
  have hdispatch : netRequest (transitionToNFingers settings v m).requests =
      some noFingersNoInteraction := by
    rw [transitionToNFingers, h.nFingers]
    rfl
  cases s with
  | noFingersNoInteraction => exact absurd rfl hs
  | oneFingerHovering =>
    simpa [handlers, stateOneFingerHovering, oneFingerHoveringFrame, h.fingersChange]
      using hdispatch
  | oneFingerClicking =>
    simpa [handlers, stateOneFingerClicking, clickingFrame, h.fingersChange] using hdispatch
  | oneFingerDragging =>
    simpa [handlers, stateOneFingerDragging, draggingFrame, h.fingersChange] using hdispatch
  | twoFingersHovering =>
    simpa [handlers, stateTwoFingersHovering, twoFingersHoveringFrame, h.fingersChange,
      notTwoFingers] using hdispatch
  | twoFingersGestureRecognition =>
    simpa [handlers, stateTwoFingersGestureRecognition, twoFingersGestureRecognitionFrame,
      h.fingersChange] using hdispatch
  | twoFingersRotating =>
    simpa [handlers, stateTwoFingersRotating, twoFingersGestureFrame, h.fingersChange]
      using hdispatch
  | twoFingersScrolling =>
    simpa [handlers, stateTwoFingersScrolling, twoFingersGestureFrame, h.fingersChange]
      using hdispatch
  | twoFingersZooming =>
    simpa [handlers, stateTwoFingersZooming, twoFingersGestureFrame, h.fingersChange]
      using hdispatch
  | threePlusFingersNoInteraction =>
    simpa [handlers, stateThreePlusFingersNoInteraction, threePlusFingersFrame, h.fingersChange]
      using hdispatch
  | threePlusFingersHovering =>
    simpa [handlers, stateThreePlusFingersHovering, threePlusFingersHoveringFrame, h.fingersChange]
      using hdispatch
  | threePlusFingersGestureRecognition =>
    simpa [handlers, stateThreePlusFingersGestureRecognition,
      threePlusFingersGestureRecognitionFrame, h.fingersChange] using hdispatch
  | threePlusFingersSwipeVertical =>
    simpa [handlers, stateThreePlusFingersSwipeVertical, swipeVerticalFrame, h.fingersChange]
      using hdispatch
  | threePlusFingersSwipeHorizontal =>
    simpa [handlers, stateThreePlusFingersSwipeHorizontal, swipeHorizontalFrame, h.fingersChange]
      using hdispatch
  | palmGestureRecognition =>
    simpa [handlers, statePalmGestureRecognition, palmGestureRecognitionFrame, h.palm]
      using hdispatch
  | palmSwipe => simpa [handlers, statePalmSwipe, h.palm] using hdispatch

/-- **A frame without fingers** is processed and leads to the no-interaction state. -/
theorem emptyFrame_atRest (hkept : Kept .idle o) {frame sinceFrame : leap.Frame}
    (h : NoInteraction settings (o.frame.processFrame (overrides leap) frame sinceFrame))
    (hfuel : 0 < fuel) :
    ∃ o', processFrame env settings fuel o frame sinceFrame = some o' ∧
      o'.AtRest (·.osCalls) noFingersNoInteraction := by
  set shown : Object leap :=
    { o with frame := o.frame.processFrame (overrides leap) frame sinceFrame } with hshown
  have hguard : interacts settings shown.frame = false := h.fingersChange _
  have hstays : ∀ m, netRequest (handlers env settings shown.frame noFingersNoInteraction
      (.user .processFrame) m).requests = none := fun m ↦ by
    simp only [interacts] at hguard
    simp [handlers, stateNoFingersNoInteraction, noFingersFrame, hguard]
  obtain ⟨o₁, o', hinit, hrun, hcur⟩ := (gate env settings).reaches_rest hfuel hguard hstays
    fun s m _ hs ↦ h.request hs m
  have hprocess : processFrame env settings fuel o frame sinceFrame = some o' := by
    simp only [processFrame, processFrameInternal, ← hshown, hinit, Option.bind_eq_bind,
      Option.bind_some, hrun]
  exact ⟨o', hprocess, Kept.atRest (hkept.processFrame hprocess).kept hcur⟩

/-! ### Frames and focus losses return -/

theorem processFrame_returns (env : Environment leap) (hfuel : 4 < fuel) (hkept : Kept start o)
    (frame sinceFrame : leap.Frame) :
    ∃ o', processFrame env settings fuel o frame sinceFrame = some o' ∧
      o'.Holds (Inside start) := by
  set shown : Object leap :=
    { o with frame := o.frame.processFrame (overrides leap) frame sinceFrame } with hshown
  have hkept' : Kept start shown := hkept
  obtain ⟨o₁, hinit⟩ := (terminates env settings hfuel).ensureInitialized shown
    noFingersNoInteraction
  have hentered := (contract env settings start).ensureInitialized hkept' hinit
  obtain ⟨o', hrun⟩ := (terminates env settings hfuel).runCurrentState hentered.started
    Input.processFrame
  have hprocess : processFrame env settings fuel o frame sinceFrame = some o' := by
    simp only [processFrame, processFrameInternal, ← hshown, hinit, Option.bind_eq_bind,
      Option.bind_some, hrun]
  exact ⟨o', hprocess, hkept.processFrame hprocess⟩

theorem stopActiveEvents_returns (env : Environment leap) (hfuel : 4 < fuel)
    (hholds : o.Holds (Inside start)) :
    ∃ o', stopActiveEvents env settings fuel o = some o' ∧ o'.Holds (Inside start) := by
  obtain ⟨o', hrun⟩ :=
    (terminates env settings hfuel).runCurrentState hholds.started Input.lostFocus
  exact ⟨o', hrun, Kept.stopActiveEvents hholds.kept hrun⟩

theorem destruct_returns (env : Environment leap) (settings : Settings leap.Scalar) (fuel : ℕ)
    (o : Object leap) : ∃ o', destruct env settings fuel o = some o' :=
  ModeObject.shutdown_returns (fun _ ↦ neverTransitionsOnExit) fuel o

end

end FingerMouse

end Touchless
