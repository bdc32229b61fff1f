import Touchless.GestureInteraction.GestureOnlyModeContract
import Touchless.Utility.StateMachineCalls

/-!
# What gesture-only mode tracks

`PositionalDeltaTracker::setPositionToStabilizedPositionOf` asserts that the hand or the pointable
it gets is valid; the ids of an invalid one are the pair (-1, -1) that means that nothing is
tracked. In gesture-only mode the favorite hand is remembered from frame to frame. On entering
`State_2Fingers_Scrolling`, and in its frames, the code tests it and turns to the favorite
pointable. The frame in `State_2Fingers_Hovering` tests the favorite pointable only, and it is the
one that tracks a hand that has gone (`run_tracked_iff`).
-/

namespace Touchless

/-- What a call of `setPositionToStabilizedPositionOf` gets. -/
inductive TrackedObject (leap : Leap) where
  | hand (hand : leap.Hand)
  | pointable (pointable : leap.Pointable)

namespace TrackedObject

variable {leap : Leap}

/-- The call. -/
def track (tracker : PositionalDeltaTracker leap.Scalar) :
    TrackedObject leap → PositionalDeltaTracker leap.Scalar
  | hand h => tracker.setPositionToHand h
  | pointable p => tracker.setPositionToPointable p

/-- Its assertion. -/
def IsValid : TrackedObject leap → Prop
  | hand h => leap.handIsValid h = true
  | pointable p => leap.pointableIsValid p = true

/-- The ids that it passes to `setPosition`. -/
def ids : TrackedObject leap → ℤ × ℤ
  | hand h => (leap.handId h, -1)
  | pointable p => (leap.handId (leap.handOf p), leap.pointableId p)

/-- A valid object is not taken for none. -/
theorem IsValid.ids_ne (hlookups : leap.Lookups) {object : TrackedObject leap}
    (h : object.IsValid) : object.ids ≠ (-1, -1) := by
  cases object with
  | hand hand =>
    have hid := hlookups.handIds hand h
    simp only [ids, ne_eq, Prod.mk.injEq]
    omega
  | pointable p =>
    have hid := hlookups.pointableIds p h
    simp only [ids, ne_eq, Prod.mk.injEq]
    omega

end TrackedObject

namespace GestureOnlyMode

open State

variable {leap : Leap}

section Tracked

variable (v : FrameState leap)

/-- What `setAbsoluteCursorPositionHand` tracks. -/
def trackedForHand (hand : leap.Hand) : List (TrackedObject leap) :=
  if leap.handIsValid hand then [.hand hand] else []

/-- What `setAbsoluteCursorPositionPointable` tracks. -/
def trackedForPointable (pointable : leap.Pointable) : List (TrackedObject leap) :=
  if leap.pointableIsValid pointable then [.pointable pointable] else []

/-- What `moveCursor` tracks. -/
def trackedForCursor (m : GestureOnlyMode leap) : List (TrackedObject leap) :=
  let favoriteHand := leap.hand v.currentFrame m.favoriteHandId
  let favoritePointable := (m.base (·.refreshFavoritePointableId v)).favoritePointable v
  let hand := leap.handOf favoritePointable
  -- the favorite hand first, then the one of the favorite pointable
  if leap.handIsValid favoriteHand then trackedForHand favoriteHand
  else if leap.handIsValid hand then trackedForHand hand
  else trackedForPointable favoritePointable

/-- What the frame in `twoFingersHovering` tracks. -/
def trackedWhileHovering (m : GestureOnlyMode leap) : List (TrackedObject leap) :=
  let m := m.base (·.refreshFavoritePointableId v)
  let favoritePointable := m.favoritePointable v
  if leap.pointableIsValid favoritePointable = false then []
  else
    let hand := leap.handOf favoritePointable
    let m := if m.favoriteHandId < 0 ∧ leap.handIsValid hand = true then
        { m with favoriteHandId := leap.handId hand }
      else m
    -- the hand that is looked up is not tested
    if m.favoriteHandId < 0 then [.pointable favoritePointable]
    else [.hand (leap.hand v.currentFrame m.favoriteHandId)]

/-- What the frame in `twoFingersScrolling` tracks. -/
def trackedWhileScrolling (m : GestureOnlyMode leap) : List (TrackedObject leap) :=
  let favoriteHand := leap.hand v.currentFrame m.favoriteHandId
  if leap.handIsValid favoriteHand then [.hand favoriteHand]
  else [.pointable ((m.base (·.refreshFavoritePointableId v)).favoritePointable v)]

/-- What a handler call tracks. -/
def tracked : HandlerCall State Input (GestureOnlyMode leap) → List (TrackedObject leap)
  | ⟨twoFingersHovering, .user .processFrame, m⟩ => trackedWhileHovering v m
  | ⟨twoFingersScrolling, .enter, m⟩ => trackedForCursor v m
  | ⟨twoFingersScrolling, .user .processFrame, m⟩ => trackedWhileScrolling v m
  | _ => []

end Tracked

section

variable {env : Environment leap} {v : FrameState leap} {m : GestureOnlyMode leap}

/-! ### The tracker -/

/-- The tracker after some calls. -/
def trackAll (tracker : PositionalDeltaTracker leap.Scalar) (objects : List (TrackedObject leap)) :
    PositionalDeltaTracker leap.Scalar :=
  objects.foldl TrackedObject.track tracker

theorem tracker_setAbsoluteCursorPositionHand {b : Manager leap} {hand : leap.Hand} :
    (b.setAbsoluteCursorPositionHand env v hand).positionalDeltaTracker =
      trackAll b.positionalDeltaTracker (trackedForHand hand) := by
  simp only [Manager.setAbsoluteCursorPositionHand, Manager.setAbsoluteCursorPosition,
    trackedForHand]
  split_ifs
  · split <;> rfl
  · rfl

theorem tracker_setAbsoluteCursorPositionPointable {b : Manager leap} {p : leap.Pointable} :
    (b.setAbsoluteCursorPositionPointable env v p).positionalDeltaTracker =
      trackAll b.positionalDeltaTracker (trackedForPointable p) := by
  simp only [Manager.setAbsoluteCursorPositionPointable, Manager.setAbsoluteCursorPosition,
    trackedForPointable]
  split_ifs
  · split <;> rfl
  · rfl

@[simp]
theorem tracker_refreshFavoritePointableId {b : Manager leap} :
    (b.refreshFavoritePointableId v).positionalDeltaTracker = b.positionalDeltaTracker := by
  rw [Manager.refreshFavoritePointableId]
  split_ifs <;> rfl

theorem tracker_moveCursor : (moveCursor env v m).positionalDeltaTracker =
    trackAll m.positionalDeltaTracker (trackedForCursor v m) := by
  simp only [moveCursor, trackedForCursor]
  split_ifs
  · simp [base, tracker_setAbsoluteCursorPositionHand]
  · simp [base, tracker_setAbsoluteCursorPositionHand]
  · simp [base, tracker_setAbsoluteCursorPositionPointable]

theorem tracker_twoFingersHoveringFrame :
    (twoFingersHoveringFrame v m).owner.positionalDeltaTracker =
    trackAll m.positionalDeltaTracker (trackedWhileHovering v m) := by
  simp only [twoFingersHoveringFrame, trackedWhileHovering]
  split_ifs <;>
    simp [base, trackAll, TrackedObject.track, Manager.trackHand, Manager.trackPointable]

theorem tracker_scrollingFrame : (scrollingFrame v m).owner.positionalDeltaTracker =
    trackAll m.positionalDeltaTracker (trackedWhileScrolling v m) := by
  simp only [scrollingFrame, trackedWhileScrolling, generateScrollBetweenFrames]
  split_ifs <;>
    simp [base, emit, trackAll, TrackedObject.track, Manager.trackHand, Manager.trackPointable,
      Manager.emit, Manager.favoritePointable]

theorem tracker_swipeFrame : (swipeFrame v m).owner.positionalDeltaTracker =
    m.positionalDeltaTracker := by
  rw [swipeFrame]
  split <;> rfl

theorem tracker_cooldownFrame : (cooldownFrame v m).owner.positionalDeltaTracker =
    m.positionalDeltaTracker := by
  rw [cooldownFrame]
  split_ifs <;> rfl

theorem tracker_applyPalmSwipe : (applyPalmSwipe v m).positionalDeltaTracker =
    m.positionalDeltaTracker := by
  rw [applyPalmSwipe]
  split <;> rfl

/-- The tracker that a handler call begins with: the recognition of gestures clears it first. -/
def trackerBefore (s : State) (m : GestureOnlyMode leap) : PositionalDeltaTracker leap.Scalar :=
  if s = gestureRecognition then PositionalDeltaTracker.clear else m.positionalDeltaTracker

/-- **A handler call** tracks what the list says, and nothing else. -/
theorem tracker_handler (env : Environment leap) (v : FrameState leap) (s : State)
    (input : StateMachineInput Input) (m : GestureOnlyMode leap) :
    (handlers env v s input m).owner.positionalDeltaTracker =
      trackAll (trackerBefore s m) (tracked v ⟨s, input, m⟩) := by
  cases s with
  -- the tracker is cleared whatever the input is
  | gestureRecognition =>
    simp only [handlers, stateGestureRecognition]
    split
    · rfl
    · split <;> rfl
  | cooldown =>
    cases input with
    | enter => exact tracker_cooldownFrame
    | exit => rfl
    | user i =>
      cases i with
      | processFrame => exact tracker_cooldownFrame
      | _ => rfl
  | twoFingersHovering =>
    cases input with
    | enter =>
      show ((m.resetFavoritePointableId v).refreshFavoritePointableId v).positionalDeltaTracker =
        m.positionalDeltaTracker
      rw [tracker_refreshFavoritePointableId, Manager.resetFavoritePointableId]
    | exit => rfl
    | user i =>
      cases i with
      | processFrame => exact tracker_twoFingersHoveringFrame
      | _ => rfl
  | twoFingersScrolling =>
    cases input with
    | enter => exact tracker_moveCursor
    | exit => rfl
    | user i =>
      cases i with
      | processFrame => exact tracker_scrollingFrame
      | _ => rfl
  | threePlusFingersSwipeVertical | threePlusFingersSwipeHorizontal =>
    cases input with
    | enter => exact tracker_swipeFrame
    | exit => rfl
    | user i =>
      cases i with
      | processFrame => exact tracker_swipeFrame
      | _ => rfl
  | palmSwipe =>
    cases input with
    | enter => rfl
    | exit => exact tracker_applyPalmSwipe
    | user i => cases i <;> rfl

/-! ### Where the tracked object is valid -/

/-- The favorite hand, if there is one, is in view with the favorite pointable. -/
def FavoriteInView (v : FrameState leap) (m : GestureOnlyMode leap) : Prop :=
  leap.pointableIsValid ((m.base (·.refreshFavoritePointableId v)).favoritePointable v) = true →
    0 ≤ m.favoriteHandId → leap.handIsValid (leap.hand v.currentFrame m.favoriteHandId) = true

instance (v : FrameState leap) (m : GestureOnlyMode leap) : Decidable (FavoriteInView v m) :=
  inferInstanceAs (Decidable (_ → _ → _))

/-- Asking for the favorite pointable twice is asking once. -/
theorem refresh_refresh (b : Manager leap) :
    (b.refreshFavoritePointableId v).refreshFavoritePointableId v =
      b.refreshFavoritePointableId v := by
  by_cases hgone : b.favoritePointableId < 0 ∨
      leap.pointableIsValid (leap.pointable v.currentFrame b.favoritePointableId) = false
  · have hreset : b.refreshFavoritePointableId v = b.resetFavoritePointableId v := if_pos hgone
    rw [hreset, Manager.refreshFavoritePointableId]
    split_ifs <;> rfl
  · have hstays : b.refreshFavoritePointableId v = b := if_neg hgone
    rw [hstays, hstays]

theorem favoriteInView_refresh :
    FavoriteInView v (m.base (·.refreshFavoritePointableId v)) ↔ FavoriteInView v m := by
  simp only [FavoriteInView, base, refresh_refresh]

theorem favoriteInView_refreshForTouch :
    FavoriteInView v (refreshForTouch v m) ↔ FavoriteInView v m := by
  rw [refreshForTouch]
  split_ifs
  · exact favoriteInView_refresh
  · exact Iff.rfl

/-- **The frame in `twoFingersHovering`** tracks what is valid exactly if the favorite hand is in
view. -/
theorem trackedWhileHovering_valid_iff (hlookups : leap.Lookups) :
    (∀ object ∈ trackedWhileHovering v m, object.IsValid) ↔ FavoriteInView v m := by
  simp only [trackedWhileHovering, FavoriteInView]
  by_cases hgone : leap.pointableIsValid
      ((m.base (·.refreshFavoritePointableId v)).favoritePointable v) = false
  · simp [hgone]
  · have hthere : leap.pointableIsValid
        ((m.base (·.refreshFavoritePointableId v)).favoritePointable v) = true := by
      simpa using hgone
    rw [if_neg hgone]
    by_cases hid : m.favoriteHandId < 0
    · refine iff_of_true ?_ fun _ hnot ↦ absurd hid (by omega)
      -- a hand that comes into view is the one of the favorite pointable
      split_ifs with hview hnone hnone
      · exact List.forall_mem_singleton.2 hthere
      · refine List.forall_mem_singleton.2 ?_
        exact hlookups.handsExist _ _ hthere (not_lt.1 hnone)
      · exact List.forall_mem_singleton.2 hthere
      · exact absurd hid hnone
    · have hview : ¬ ((m.base (·.refreshFavoritePointableId v)).favoriteHandId < 0 ∧
          leap.handIsValid
          (leap.handOf ((m.base (·.refreshFavoritePointableId v)).favoritePointable v)) = true) :=
        fun h ↦ hid h.1
      have hnone : ¬ (m.base (·.refreshFavoritePointableId v)).favoriteHandId < 0 := hid
      rw [if_neg hview, if_neg hnone, List.forall_mem_singleton]
      exact ⟨fun h _ _ ↦ h, fun h ↦ h hthere (by omega)⟩

/-- The frame in `twoFingersScrolling`, where there is a foremost pointable to turn to. -/
theorem trackedWhileScrolling_valid
    (hforemost :
      leap.pointableIsValid (leap.pointable v.currentFrame v.foremostPointableId) = true) :
    ∀ object ∈ trackedWhileScrolling v m, object.IsValid := by
  simp only [trackedWhileScrolling]
  split_ifs with hhand
  · exact List.forall_mem_singleton.2 hhand
  · refine List.forall_mem_singleton.2 ?_
    show leap.pointableIsValid
      (leap.pointable v.currentFrame (m.refreshFavoritePointableId v).favoritePointableId) = true
    rw [Manager.refreshFavoritePointableId]
    split_ifs with hgone
    · exact hforemost
    · simpa using (not_or.1 hgone).2

theorem trackedForHand_valid (hand : leap.Hand) :
    ∀ object ∈ trackedForHand hand, object.IsValid := by
  rw [trackedForHand]
  split_ifs with h
  · exact List.forall_mem_singleton.2 h
  · exact List.forall_mem_nil _

theorem trackedForPointable_valid (pointable : leap.Pointable) :
    ∀ object ∈ trackedForPointable pointable, object.IsValid := by
  rw [trackedForPointable]
  split_ifs with h
  · exact List.forall_mem_singleton.2 h
  · exact List.forall_mem_nil _

/-- Beside the frames, only entering `twoFingersScrolling` tracks anything, and it tests it. -/
theorem tracked_valid_of_ne {s : State} {input : StateMachineInput Input}
    (h : input ≠ .user .processFrame) : ∀ object ∈ tracked v ⟨s, input, m⟩, object.IsValid := by
  have hcursor : ∀ object ∈ trackedForCursor v m, object.IsValid := by
    simp only [trackedForCursor]
    split_ifs
    · exact trackedForHand_valid _
    · exact trackedForHand_valid _
    · exact trackedForPointable_valid _
  cases s with
  | twoFingersHovering =>
    cases input with
    | user i => cases i <;> first | exact absurd rfl h | exact List.forall_mem_nil _
    | _ => exact List.forall_mem_nil _
  | twoFingersScrolling =>
    cases input with
    | enter => exact hcursor
    | exit => exact List.forall_mem_nil _
    | user i => cases i <;> first | exact absurd rfl h | exact List.forall_mem_nil _
  | _ => exact List.forall_mem_nil _

/-- A frame in a state. -/
theorem tracked_processFrame_valid (hlookups : leap.Lookups) {s : State}
    (hhovering : s = twoFingersHovering → FavoriteInView v m)
    (hscrolling : s = twoFingersScrolling →
      leap.pointableIsValid (leap.pointable v.currentFrame v.foremostPointableId) = true) :
    ∀ object ∈ tracked v ⟨s, .user .processFrame, m⟩, object.IsValid := by
  cases s with
  | twoFingersHovering => exact (trackedWhileHovering_valid_iff hlookups).2 (hhovering rfl)
  | twoFingersScrolling => exact trackedWhileScrolling_valid (hscrolling rfl)
  | _ => exact List.forall_mem_nil _

/-- Where a relevant pointable touches, there is a foremost one. -/
theorem foremost_valid (hlookups : leap.Lookups) {frame sinceFrame : leap.Frame}
    (htouching : (v.processFrame (overrides leap) frame sinceFrame).noTouching = false) :
    leap.pointableIsValid (leap.pointable frame
      (v.processFrame (overrides leap) frame sinceFrame).foremostPointableId) = true := by
  have hsome : identifyRelevantPointables frame ≠ [] := by
    intro hnone
    simp [FrameState.processFrame, overrides, hnone] at htouching
  obtain ⟨p, hp, hid⟩ := FrameState.identifyForemostPointable_mem hsome
  have hforemost : (v.processFrame (overrides leap) frame sinceFrame).foremostPointableId =
      leap.pointableId p := hid
  rw [hforemost]
  exact hlookups.pointablesExist frame p (List.mem_filter.1 hp).1

end

/-! ### The calls of a frame -/

section Calls

variable (env : Environment leap) (fuel : ℕ) (o : Object leap)

/-- The handler calls of an input, if there is one. -/
def inputCalls : Option Input → List (HandlerCall State Input (GestureOnlyMode leap))
  | none => []
  | some i => StateMachine.inputCalls (handlers env o.frame) fuel o.machine i

/-- The object with the members that `processFrame` sets, and the frame counted. -/
def counted (frame sinceFrame : leap.Frame) : Object leap :=
  let v := o.frame.processFrame (overrides leap) frame sinceFrame
  ModeObject.mapOwner ⟨v, o.machine⟩ (addCategory v)

/-- The handler calls of the input that tells whether something touches, and of the frame itself. -/
def touchCalls : List (HandlerCall State Input (GestureOnlyMode leap)) :=
  inputCalls env fuel o (touchInput o.frame o.machine.owner) ++
    (o.runInput (handlers env) fuel (touchInput o.frame o.machine.owner)).elim [] fun o ↦
      inputCalls env fuel o (some .processFrame)

/-- The handler calls of `processFrame`. -/
def frameCalls (frame sinceFrame : leap.Frame) :
    List (HandlerCall State Input (GestureOnlyMode leap)) :=
  let o := counted o frame sinceFrame
  StateMachine.enterCalls (handlers env o.frame) fuel o.machine gestureRecognition ++
    (o.ensureInitialized (handlers env) fuel gestureRecognition).elim [] fun o ↦
      inputCalls env fuel o (countInput o.machine.owner) ++
        (o.runInput (handlers env) fuel (countInput o.machine.owner)).elim [] fun o ↦
          touchCalls env fuel (o.mapOwner (refreshForTouch o.frame))

/-- The handler calls of `stopActiveEvents`. -/
def stopCalls : List (HandlerCall State Input (GestureOnlyMode leap)) :=
  inputCalls env fuel o (some .lostFocus)

/-- The handler calls of the destructor. -/
def destructCalls : List (HandlerCall State Input (GestureOnlyMode leap)) :=
  StateMachine.exitCalls (handlers env o.frame) fuel o.machine

/-- What is asked of a handler call: all it tracks is valid, and none of it is taken for nothing. -/
def TracksValid (v : FrameState leap) (call : HandlerCall State Input (GestureOnlyMode leap)) :
    Prop :=
  ∀ object ∈ tracked v call, object.IsValid ∧ object.ids ≠ (-1, -1)

end Calls

section

variable {env : Environment leap} {fuel : ℕ} {v : FrameState leap} {m : GestureOnlyMode leap}
  {o o' : Object leap} {frame sinceFrame : leap.Frame}

theorem tracksValid_iff (hlookups : leap.Lookups)
    {call : HandlerCall State Input (GestureOnlyMode leap)} :
    TracksValid v call ↔ ∀ object ∈ tracked v call, object.IsValid :=
  forall₂_congr fun _ _ ↦ ⟨And.left, fun h ↦ ⟨h, h.ids_ne hlookups⟩⟩

/-- Nothing is asked of the turns of the transition loop: there everything is tested. -/
theorem trivialTurns (env : Environment leap) (v : FrameState leap) :
    StateMachine.Turns (handlers env v) (fun _ _ _ ↦ True) (fun _ _ ↦ True) :=
  ⟨neverTransitionsOnExit, fun _ _ _ _ ↦ trivial, fun _ _ _ ↦ trivial⟩

/-- The calls of an input are in order if the first is. -/
theorem inputCalls_tracksValid (hlookups : leap.Lookups) {input : Option Input}
    (hfirst : ∀ s i, o.machine.currentState = some s → input = some i →
      TracksValid o.frame ⟨s, .user i, o.machine.owner⟩) :
    ∀ call ∈ inputCalls env fuel o input, TracksValid o.frame call := by
  cases input with
  | none => exact List.forall_mem_nil _
  | some i =>
    exact (trivialTurns env o.frame).forall_inputCalls
      (fun _ _ _ _ ↦ (tracksValid_iff hlookups).2 (tracked_valid_of_ne (by simp)))
      (fun _ _ _ ↦ (tracksValid_iff hlookups).2 (tracked_valid_of_ne (by simp)))
      (fun s hs ↦ ⟨hfirst s i hs rfl, trivial⟩)

/-- So are those of an input that is not a frame. -/
theorem inputCalls_tracksValid_of_ne (hlookups : leap.Lookups) {input : Option Input}
    (hne : input ≠ some .processFrame) :
    ∀ call ∈ inputCalls env fuel o input, TracksValid o.frame call :=
  inputCalls_tracksValid hlookups fun _ _ _ hi ↦
    (tracksValid_iff hlookups).2 (tracked_valid_of_ne (by rintro ⟨⟩; exact hne hi))

theorem enterCalls_tracksValid (hlookups : leap.Lookups) :
    ∀ call ∈ StateMachine.enterCalls (handlers env o.frame) fuel o.machine gestureRecognition,
      TracksValid o.frame call :=
  (trivialTurns env o.frame).forall_enterCalls
    (fun _ _ _ _ ↦ (tracksValid_iff hlookups).2 (tracked_valid_of_ne (by simp)))
    (fun _ _ _ ↦ (tracksValid_iff hlookups).2 (tracked_valid_of_ne (by simp))) fun _ ↦ trivial

theorem stopCalls_tracksValid (hlookups : leap.Lookups) :
    ∀ call ∈ stopCalls env fuel o, TracksValid o.frame call :=
  inputCalls_tracksValid_of_ne hlookups (by simp)

theorem destructCalls_tracksValid (hlookups : leap.Lookups) :
    ∀ call ∈ destructCalls env fuel o, TracksValid o.frame call :=
  StateMachine.forall_exitCalls neverTransitionsOnExit fun _ _ ↦
    (tracksValid_iff hlookups).2 (tracked_valid_of_ne (by simp))

/-! ### The inputs of a frame -/

theorem countInput_ne (m : GestureOnlyMode leap) : countInput m ≠ some .processFrame := by
  rw [countInput]
  split_ifs <;> simp

/-- A count that is not two pointables leads out of `twoFingersHovering`. -/
theorem countInput_leaves {i : Input} (h : countInput m = some i) (hi : i ≠ .countTwo)
    (env : Environment leap) (v : FrameState leap) (n : GestureOnlyMode leap) :
    netRequest (handlers env v twoFingersHovering (.user i) n).requests ≠ none := by
  rw [countInput] at h
  split_ifs at h <;> obtain rfl := Option.some.inj h <;>
    simp_all [handlers, stateTwoFingersHovering]

/-- On a count of two, or none, it does nothing. -/
theorem hovering_countInput (env : Environment leap)
    (hcount : countInput m = none ∨ countInput m = some .countTwo) {i : Input}
    (hi : countInput m = some i) (n : GestureOnlyMode leap) :
    handlers env v twoFingersHovering (.user i) n = done n := by
  rcases hcount with hcount | hcount
  · cases hcount.symm.trans hi
  · obtain rfl := Option.some.inj (hcount.symm.trans hi)
    rfl

theorem touchInput_cases (v : FrameState leap) (m : GestureOnlyMode leap) :
    touchInput v m = none ∨ touchInput v m = some .touching ∨
      touchInput v m = some .notTouching := by
  simp only [touchInput]
  split_ifs <;> simp

theorem frame_runInput {input : Option Input} (h : o.runInput (handlers env) fuel input = some o') :
    o'.frame = o.frame := by
  cases input with
  | none => rw [Option.some.inj h]
  | some i => exact ModeObject.frame_runCurrentState h

/-- The favorite hand is in view where `twoFingersHovering` will ask for it. -/
def Fresh (o : Object leap) : Prop :=
  o.machine.currentState = some twoFingersHovering → FavoriteInView o.frame o.machine.owner

/-- Entering `twoFingersHovering` chooses a hand that is in view. -/
theorem freshTurns (hlookups : leap.Lookups) (env : Environment leap) (v : FrameState leap) :
    StateMachine.Turns (handlers env v)
      (fun s p m ↦ s = twoFingersHovering → p = none → FavoriteInView v m) (fun _ _ ↦ True) where
  neverTransitionsOnExit := neverTransitionsOnExit
  exit _ _ _ _ := trivial
  enter t m _ ht _ := by
    subst ht
    intro hthere hid
    -- `SM_ENTER` forgets the favorite hand and takes the one of the favorite pointable
    have hchosen : (handlers env v twoFingersHovering .enter m).owner.favoriteHandId =
        if leap.handIsValid (leap.handOf (((m.resetFavoritePointableId v).refreshFavoritePointableId
            v).favoritePointable v)) = true then
          leap.handId (leap.handOf (((m.resetFavoritePointableId v).refreshFavoritePointableId
            v).favoritePointable v))
        else -1 := rfl
    have hpointable : ((handlers env v twoFingersHovering .enter m).owner.base
        (·.refreshFavoritePointableId v)).favoritePointable v =
          ((m.resetFavoritePointableId v).refreshFavoritePointableId v).favoritePointable v :=
      congrArg (Manager.favoritePointable v) (refresh_refresh _)
    rw [hpointable] at hthere
    rw [hchosen] at hid ⊢
    split_ifs at hid ⊢
    · exact hlookups.handsExist _ _ hthere hid
    · cases hid

/-- **After an input** the favorite hand is in view if it was, or if the input has led out of
`twoFingersHovering`. -/
theorem fresh_runInput (hlookups : leap.Lookups) {input : Option Input}
    (hne : input ≠ some .processFrame)
    (hview : o.machine.currentState = some twoFingersHovering →
      FavoriteInView o.frame o.machine.owner ∨ ∃ i, input = some i ∧
        netRequest (handlers env o.frame twoFingersHovering (.user i)
          o.machine.owner).requests ≠ none)
    (hrun : o.runInput (handlers env) fuel input = some o') : Fresh o' := by
  cases input with
  | none =>
    obtain rfl : o = o' := Option.some.inj hrun
    exact fun hcur ↦ (hview hcur).resolve_right (by simp)
  | some i =>
    obtain ⟨m, hm, rfl⟩ := ModeObject.runCurrentState_some hrun
    obtain ⟨s, hs, hinside⟩ := (freshTurns hlookups env o.frame).runCurrentState
      (fun s hs hhovering hstays ↦ by
        subst hhovering
        -- in this state only the frame changes the favorite hand
        have howner : (handlers env o.frame twoFingersHovering (.user i) o.machine.owner).owner =
            o.machine.owner := by
          cases i <;> first | rfl | exact absurd rfl hne
        rw [howner]
        refine (hview hs).resolve_right ?_
        rintro ⟨j, hj, hleaves⟩
        obtain rfl := Option.some.inj hj
        exact hleaves hstays) hm
    exact fun hcur ↦ hinside (hs.eq_of_current hcur) rfl

/-- An input on which `twoFingersHovering` does nothing. -/
theorem runInput_stays (fuel : ℕ) {input : Option Input}
    (hcur : o.machine.currentState = some twoFingersHovering)
    (hdone : ∀ {i}, input = some i →
      ∀ m, handlers env o.frame twoFingersHovering (.user i) m = done m) :
    ∃ o', o.runInput (handlers env) fuel input = some o' ∧ o'.frame = o.frame ∧
      o'.machine.currentState = some twoFingersHovering ∧ o'.machine.owner = o.machine.owner := by
  cases input with
  | none => exact ⟨o, rfl, rfl, hcur, rfl⟩
  | some i =>
    have hrequest : netRequest (handlers env o.frame twoFingersHovering (.user i)
        o.machine.owner).requests = none := by
      rw [hdone rfl]
      rfl
    obtain ⟨m, hm, hstate, howner⟩ : ∃ m,
        o.machine.runCurrentState true (handlers env o.frame) fuel i =
        some m ∧ _ := StateMachine.runCurrentState_stays hcur hrequest
    rw [hdone rfl] at howner
    refine ⟨⟨o.frame, m⟩, ?_, rfl, hstate.current, howner⟩
    simp [ModeObject.runInput, ModeObject.runCurrentState, hm]

theorem requests_twoFingersHoveringFrame : (twoFingersHoveringFrame v m).requests = [] := by
  simp only [twoFingersHoveringFrame]
  split_ifs <;> rfl

theorem requests_scrollingFrame : (scrollingFrame v m).requests = [] := by
  simp only [scrollingFrame]
  split_ifs <;> rfl

theorem recognizedSwipe_ne (frame : leap.Frame) :
    netRequest (recognizedSwipe v frame) ≠ some twoFingersScrolling := by
  simp only [recognizedSwipe]
  split_ifs <;> simp

theorem cooldownFrame_ne :
    netRequest (cooldownFrame v m).requests ≠ some twoFingersScrolling := by
  rw [cooldownFrame]
  split_ifs <;> simp

theorem swipeFrame_ne : netRequest (swipeFrame v m).requests ≠ some twoFingersScrolling :=
  fun h ↦ by cases swipeFrame_request h

/-- **`twoFingersScrolling` is requested** only because something touches. -/
theorem request_scrolling {s : State} {input : StateMachineInput Input}
    (h : netRequest (handlers env v s input m).requests = some twoFingersScrolling) :
    input = .user .touching := by
  by_contra hne
  refine absurd h ?_
  cases s with
  | gestureRecognition =>
    simp only [handlers, stateGestureRecognition]
    split
    · simp
    · split
      · simp
      · simp
      · exact recognizedSwipe_ne _
      · simp
  | cooldown =>
    cases input with
    | enter => exact cooldownFrame_ne
    | exit => simp [handlers, stateCooldown]
    | user i =>
      cases i with
      | processFrame => exact cooldownFrame_ne
      | _ => simp [handlers, stateCooldown]
  | twoFingersHovering =>
    cases input with
    | user i =>
      cases i with
      | touching => exact absurd rfl hne
      | processFrame => simp [handlers, stateTwoFingersHovering, requests_twoFingersHoveringFrame]
      | countUncertain | countThreePlus | countOther | countPalm =>
        simp only [handlers, stateTwoFingersHovering]
        split_ifs <;> simp
      | _ => simp [handlers, stateTwoFingersHovering]
    | _ => simp [handlers, stateTwoFingersHovering]
  | twoFingersScrolling =>
    cases input with
    | user i =>
      cases i with
      | processFrame => simp [handlers, stateTwoFingersScrolling, requests_scrollingFrame]
      | _ => simp [handlers, stateTwoFingersScrolling]
    | _ => simp [handlers, stateTwoFingersScrolling]
  | threePlusFingersSwipeVertical | threePlusFingersSwipeHorizontal =>
    cases input with
    | enter => exact swipeFrame_ne
    | exit => simp [handlers, stateThreePlusFingersSwipeVertical,
        stateThreePlusFingersSwipeHorizontal, stateSwipe]
    | user i =>
      cases i with
      | processFrame => exact swipeFrame_ne
      | _ => simp [handlers, stateThreePlusFingersSwipeVertical,
          stateThreePlusFingersSwipeHorizontal, stateSwipe]
  | palmSwipe =>
    cases input with
    | user i => cases i <;> simp [handlers, statePalmSwipe]
    | _ => simp [handlers, statePalmSwipe]

/-- **Without a touch** a frame is not in `twoFingersScrolling`. -/
theorem runInput_not_scrolling (htouching : o.frame.noTouching = true)
    (hrun : o.runInput (handlers env) fuel (touchInput o.frame m) = some o') :
    o'.machine.currentState ≠ some twoFingersScrolling := by
  have hinput : touchInput o.frame m = some .notTouching := if_pos htouching
  rw [hinput] at hrun
  obtain ⟨m', hm, rfl⟩ := ModeObject.runCurrentState_some hrun
  -- in the loop the state is not scrolling, or it is about to be left
  have hturns : StateMachine.Turns (handlers env o.frame)
      (fun s p _ ↦ (s = twoFingersScrolling → p ≠ none) ∧ p ≠ some twoFingersScrolling)
      (fun t _ ↦ t ≠ twoFingersScrolling) :=
    { neverTransitionsOnExit := neverTransitionsOnExit
      exit := fun s t m h ht ↦ h.2 (congrArg some ht)
      enter := fun t m ht ↦ ⟨fun h ↦ absurd h ht, fun h ↦ by cases request_scrolling h⟩ }
  obtain ⟨s, hs, hinside⟩ := hturns.runCurrentState (fun s _ ↦
    ⟨by rintro rfl; simp [handlers, stateTwoFingersScrolling],
      fun h ↦ by cases request_scrolling h⟩) hm
  exact fun hcur ↦ hinside.1 (hs.eq_of_current hcur) rfl

/-! ### A frame -/

/-- A frame finds `twoFingersHovering` without its hand, and is to leave it there: the favorite
pointable is in view, the count does not change the state, and nothing of the two touches. -/
def LosesHand (o : Object leap) (frame sinceFrame : leap.Frame) : Prop :=
  let o := counted o frame sinceFrame
  o.machine.currentState = some twoFingersHovering ∧ ¬ FavoriteInView o.frame o.machine.owner ∧
    (countInput o.machine.owner = none ∨ countInput o.machine.owner = some .countTwo) ∧
    touchInput o.frame (refreshForTouch o.frame o.machine.owner) ≠ some .touching

instance (o : Object leap) (frame sinceFrame : leap.Frame) :
    Decidable (LosesHand o frame sinceFrame) :=
  inferInstanceAs (Decidable (_ ∧ ¬ _ ∧ (_ ∨ _) ∧ _ ≠ _))

/-- The inputs from the test for a touch on: the hand is in view, or it touches. -/
theorem touchCalls_tracksValid (hlookups : leap.Lookups)
    (hforemost : o.frame.noTouching = false →
      leap.pointableIsValid
        (leap.pointable o.frame.currentFrame o.frame.foremostPointableId) = true)
    (hview : o.machine.currentState = some twoFingersHovering →
      FavoriteInView o.frame o.machine.owner ∨
        touchInput o.frame o.machine.owner = some .touching) :
    ∀ call ∈ touchCalls env fuel o, TracksValid o.frame call := by
  have htouch : touchInput o.frame o.machine.owner ≠ some .processFrame := by
    rcases touchInput_cases o.frame o.machine.owner with h | h | h <;> rw [h] <;> simp
  refine List.forall_mem_append.2 ⟨inputCalls_tracksValid_of_ne hlookups htouch, ?_⟩
  cases hrun : o.runInput (handlers env) fuel (touchInput o.frame o.machine.owner) with
  | none => exact List.forall_mem_nil _
  | some o₃ =>
    have hframe : o₃.frame = o.frame := frame_runInput hrun
    have hfresh : Fresh o₃ := by
      refine fresh_runInput hlookups htouch (fun hcur ↦ ?_) hrun
      refine (hview hcur).imp_right fun h ↦ ⟨.touching, h, ?_⟩
      simp [handlers, stateTwoFingersHovering]
    have hcalls : ∀ call ∈ inputCalls env fuel o₃ (some .processFrame),
        TracksValid o₃.frame call := by
      refine inputCalls_tracksValid hlookups fun s i hs hi ↦ ?_
      obtain rfl := Option.some.inj hi
      refine (tracksValid_iff hlookups).2 (tracked_processFrame_valid hlookups
        (fun h ↦ hfresh (h ▸ hs)) fun h ↦ ?_)
      rw [hframe]
      refine hforemost ?_
      -- without a touch the state would have been left
      by_contra hnot
      exact runInput_not_scrolling (by simpa using hnot) hrun (h ▸ hs)
    rw [← hframe]
    exact hcalls

/-- The inputs from the count on. -/
theorem countCalls_tracksValid (hlookups : leap.Lookups)
    (hforemost : o.frame.noTouching = false →
      leap.pointableIsValid
        (leap.pointable o.frame.currentFrame o.frame.foremostPointableId) = true)
    (hkeeps : o.machine.currentState = some twoFingersHovering →
      ¬ FavoriteInView o.frame o.machine.owner →
      (countInput o.machine.owner = none ∨ countInput o.machine.owner = some .countTwo) →
      touchInput o.frame (refreshForTouch o.frame o.machine.owner) = some .touching)
    (hrun : o.runInput (handlers env) fuel (countInput o.machine.owner) = some o') :
    ∀ call ∈ touchCalls env fuel (o'.mapOwner (refreshForTouch o'.frame)),
      TracksValid o.frame call := by
  have hframe : o'.frame = o.frame := frame_runInput hrun
  have hview : o'.machine.currentState = some twoFingersHovering →
      FavoriteInView o'.frame o'.machine.owner ∨
        touchInput o'.frame (refreshForTouch o'.frame o'.machine.owner) = some .touching := by
    -- the count leaves the state as it is, or leads out of `twoFingersHovering`
    by_cases hstays : o.machine.currentState = some twoFingersHovering ∧
        (countInput o.machine.owner = none ∨ countInput o.machine.owner = some .countTwo)
    · obtain ⟨hcur, hcount⟩ := hstays
      obtain ⟨o₁, hrun₁, -, -, howner⟩ := runInput_stays fuel hcur (hovering_countInput env hcount)
      obtain rfl : o₁ = o' := Option.some.inj (hrun₁.symm.trans hrun)
      rw [hframe, howner]
      exact fun _ ↦ or_iff_not_imp_left.2 fun hgone ↦ hkeeps hcur hgone hcount
    · have hfresh : Fresh o' := by
        refine fresh_runInput hlookups (countInput_ne _) (fun hcur ↦ .inr ?_) hrun
        obtain ⟨hnone, htwo⟩ := not_or.1 fun hcount ↦ hstays ⟨hcur, hcount⟩
        obtain ⟨i, hi⟩ := Option.ne_none_iff_exists'.1 hnone
        exact ⟨i, hi, countInput_leaves hi (fun h ↦ htwo (h ▸ hi)) _ _ _⟩
      exact fun hcur ↦ .inl (hfresh hcur)
  rw [← hframe] at hforemost ⊢
  exact touchCalls_tracksValid hlookups hforemost fun hcur ↦
    (hview hcur).imp_left favoriteInView_refreshForTouch.2

/-- An initialization leads to `twoFingersHovering` with the hand in view, or there was none. -/
theorem ensureInitialized_fresh (hlookups : leap.Lookups)
    (hinit : o.ensureInitialized (handlers env) fuel gestureRecognition = some o') :
    o' = o ∨ Fresh o' := by
  obtain ⟨m, hm, rfl⟩ := ModeObject.ensureInitialized_some hinit
  rw [StateMachine.ensureInitialized] at hm
  split_ifs at hm with hnone
  · right
    obtain ⟨s, hs, hinside⟩ := (freshTurns hlookups env o.frame).initializeWith trivial hm
    exact fun hcur ↦ hinside (hs.eq_of_current hcur) rfl
  · left
    rw [← Option.some.inj hm]

/-- **A frame that does not lose the hand** tracks what is valid. -/
theorem frameCalls_tracksValid (hlookups : leap.Lookups) (hkeeps : ¬ LosesHand o frame sinceFrame) :
    ∀ call ∈ frameCalls env fuel o frame sinceFrame,
      TracksValid (counted o frame sinceFrame).frame call := by
  refine List.forall_mem_append.2 ⟨enterCalls_tracksValid hlookups, ?_⟩
  cases hinit : (counted o frame sinceFrame).ensureInitialized (handlers env) fuel
      gestureRecognition with
  | none => exact List.forall_mem_nil _
  | some o₁ =>
    have hframe : o₁.frame = (counted o frame sinceFrame).frame :=
      ModeObject.frame_ensureInitialized hinit
    rw [← hframe]
    refine List.forall_mem_append.2 ⟨inputCalls_tracksValid_of_ne hlookups (countInput_ne _), ?_⟩
    cases hrun : o₁.runInput (handlers env) fuel (countInput o₁.machine.owner) with
    | none => exact List.forall_mem_nil _
    | some o₂ =>
      refine countCalls_tracksValid hlookups (fun htouching ↦ ?_) (fun hcur hgone hcount ↦ ?_) hrun
      · rw [hframe] at htouching ⊢
        exact foremost_valid hlookups htouching
      · -- a machine that was initialized before the frame, or one that has just chosen its hand
        rcases ensureInitialized_fresh hlookups hinit with rfl | hfresh
        · by_contra htouch
          exact hkeeps ⟨hcur, hgone, hcount, htouch⟩
        · exact absurd (hfresh hcur) hgone

/-- Where `twoFingersHovering` stays without its hand, its frame tracks one that is not valid. -/
theorem exists_invalid_of_touchCalls (env : Environment leap) (fuel : ℕ) (hlookups : leap.Lookups)
    (hcur : o.machine.currentState = some twoFingersHovering)
    (hgone : ¬ FavoriteInView o.frame o.machine.owner)
    (htouch : touchInput o.frame o.machine.owner ≠ some .touching) :
    ∃ call ∈ touchCalls env fuel o, ∃ object ∈ tracked o.frame call, ¬ object.IsValid := by
  have hdone : ∀ {i}, touchInput o.frame o.machine.owner = some i →
      ∀ m, handlers env o.frame twoFingersHovering (.user i) m = done m := fun hi _ ↦ by
    rcases touchInput_cases o.frame o.machine.owner with h | h | h
    · cases h.symm.trans hi
    · exact absurd h htouch
    · obtain rfl := Option.some.inj (h.symm.trans hi)
      rfl
  obtain ⟨o₃, hrun, hframe, hcur₃, howner⟩ := runInput_stays fuel hcur hdone
  -- the frame is the first call of its input
  have hmem : ⟨twoFingersHovering, .user .processFrame, o.machine.owner⟩ ∈
      touchCalls env fuel o := by
    refine List.mem_append_right _ ?_
    rw [hrun, Option.elim_some, inputCalls, StateMachine.inputCalls,
      StateMachine.privateCalls_eq hcur₃, howner]
    exact List.mem_cons_self
  have hinvalid : ∃ object ∈ trackedWhileHovering o.frame o.machine.owner, ¬ object.IsValid := by
    simpa using mt (trackedWhileHovering_valid_iff hlookups).1 hgone
  exact ⟨_, hmem, hinvalid⟩

/-- **A frame that loses the hand** tracks one that is not valid. -/
theorem exists_invalid_of_losesHand (hlookups : leap.Lookups)
    (hloses : LosesHand o frame sinceFrame) :
    ∃ call ∈ frameCalls env fuel o frame sinceFrame,
      ∃ object ∈ tracked (counted o frame sinceFrame).frame call, ¬ object.IsValid := by
  obtain ⟨hcur, hgone, hcount, htouch⟩ := hloses
  have hinit : (counted o frame sinceFrame).ensureInitialized (handlers env) fuel
      gestureRecognition = some (counted o frame sinceFrame) := by
    simp [ModeObject.ensureInitialized, StateMachine.ensureInitialized, hcur]
  obtain ⟨o₂, hrun, hframe, hcur₂, howner⟩ :=
    runInput_stays fuel hcur (hovering_countInput env hcount)
  rw [← hframe, ← howner] at htouch hgone
  obtain ⟨call, hcall, hinvalid⟩ := exists_invalid_of_touchCalls env fuel hlookups
    (o := o₂.mapOwner (refreshForTouch o₂.frame)) hcur₂
    (fun h ↦ hgone (favoriteInView_refreshForTouch.1 h)) htouch
  refine ⟨call, List.mem_append_right _ ?_, hframe ▸ hinvalid⟩
  rw [hinit, Option.elim_some]
  refine List.mem_append_right _ ?_
  rw [hrun]
  exact hcall

/-! ### Whole runs -/

/-- No handler call of a frame or of a focus loss tracks an invalid object. -/
def TracksAllValid (env : Environment leap) (fuel : ℕ) (o : Object leap) : ModeCall leap → Prop
  | .processFrame frame sinceFrame => ∀ call ∈ frameCalls env fuel o frame sinceFrame,
      TracksValid (counted o frame sinceFrame).frame call
  | .stopActiveEvents => ∀ call ∈ stopCalls env fuel o, TracksValid o.frame call

/-- The call is not a frame that loses the hand. -/
def KeepsHand (o : Object leap) : ModeCall leap → Prop
  | .processFrame frame sinceFrame => ¬ LosesHand o frame sinceFrame
  | .stopActiveEvents => True

instance (o : Object leap) : ∀ call, Decidable (KeepsHand o call)
  | .processFrame _ _ => inferInstanceAs (Decidable (¬ _))
  | .stopActiveEvents => .isTrue trivial

theorem tracksAllValid_iff (hlookups : leap.Lookups) (o : Object leap) (call : ModeCall leap) :
    TracksAllValid env fuel o call ↔ KeepsHand o call := by
  cases call with
  | stopActiveEvents => exact iff_of_true (stopCalls_tracksValid hlookups) trivial
  | processFrame frame sinceFrame =>
    refine ⟨fun hvalid hloses ↦ ?_, frameCalls_tracksValid hlookups⟩
    obtain ⟨call, hcall, object, hobject, hinvalid⟩ := exists_invalid_of_losesHand hlookups hloses
    exact hinvalid (hvalid call hcall object hobject).1

/-- **What a run tracks** is valid at every frame and focus loss exactly if no frame loses the hand;
and what the destructor tracks is valid after every run. -/
theorem run_tracked_iff (hlookups : leap.Lookups) (env : Environment leap) (fuel : ℕ)
    (memory : GestureOnlyMode leap) (calls : List (ModeCall leap)) :
    ((methods env fuel).Meets (TracksAllValid env fuel) (Object.construct memory) calls ↔
      (methods env fuel).Meets KeepsHand (Object.construct memory) calls) ∧
    ∀ o, (methods env fuel).run (Object.construct memory) calls = some o →
      ∀ call ∈ destructCalls env fuel o, TracksValid o.frame call :=
  ⟨ModeMethods.meets_congr (tracksAllValid_iff hlookups),
    fun _ _ ↦ destructCalls_tracksValid hlookups⟩

end

/-- Two hovering fingers of a hand. -/
def hoveringFingers (hand : ℤ) : List Finger :=
  [⟨1, hand, -2, ⟨0, 0, -1⟩, .hovering⟩, ⟨2, hand, -1, ⟨0, 0, -1⟩, .hovering⟩]

/-- Some frames with two fingers of the first hand. -/
def hoveringFrames (number : ℕ) : List (ModeCall handLeap) :=
  (List.range number).map fun n ↦
    .processFrame (handFrame (n + 1) (hoveringFingers 1)) (handFrame n (hoveringFingers 1))

/-- As long as they are there, the hand is tracked. -/
theorem run_tracked_iff_hovering :
    (methods (Environment.plain handLeap) 5).Meets (TracksAllValid (Environment.plain handLeap) 5)
      (Object.construct (blank handLeap)) (hoveringFrames 5) :=
  (run_tracked_iff handLeap_lookups (Environment.plain handLeap) 5 (blank handLeap)
    (hoveringFrames 5)).1.2 (by decide +kernel)

/-- When both fingers belong to another hand in the next frame, one that is not valid is tracked. -/
theorem run_tracks_invalid :
    ∃ o, (methods (Environment.plain handLeap) 5).run (Object.construct (blank handLeap))
        (hoveringFrames 3) = some o ∧
      ∃ call ∈ frameCalls (Environment.plain handLeap) 5 o (handFrame 4 (hoveringFingers 2))
          (handFrame 3 (hoveringFingers 1)),
        ∃ object ∈ tracked (counted o (handFrame 4 (hoveringFingers 2))
          (handFrame 3 (hoveringFingers 1))).frame call, ¬ object.IsValid := by
  have hloses : ((methods (Environment.plain handLeap) 5).run (Object.construct (blank handLeap))
      (hoveringFrames 3)).map (fun o ↦ decide (LosesHand o (handFrame 4 (hoveringFingers 2))
        (handFrame 3 (hoveringFingers 1)))) = some true := by decide +kernel
  obtain ⟨o, hrun, hlost⟩ := Option.map_eq_some_iff.1 hloses
  exact ⟨o, hrun, exists_invalid_of_losesHand handLeap_lookups (of_decide_eq_true hlost)⟩

end GestureOnlyMode

end Touchless
