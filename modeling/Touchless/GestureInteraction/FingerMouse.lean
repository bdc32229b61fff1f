import Touchless.GestureInteraction.ModeObject

/-!
# Finger mouse

`FingerMouse` of `GestureInteraction/FingerMouse.cpp`: one finger moves the cursor, clicks and
drags, two fingers scroll, rotate and zoom, three or more swipe the desktop, and so does a sideways
palm. There are states for each number of fingers and for each kind of interaction.

Left out are the accelerated movements, which constants of the class turn off, and what is only
drawn.
-/

namespace Touchless

/-- The members that the state handlers of `FingerMouse` write. -/
structure FingerMouse (leap : Leap) extends Manager leap where
  drawOverlays : Bool
  clickDuration : ℤ
  clickEligibleForDrag : Bool
  clickNumber : ℤ
  deferClickUpForDrag : Bool
  lastClickTime : ℤ
  lastClickLocation : Vector3 leap.Scalar
  gestureStart : leap.Frame
  clickDownScreenPosition : Vector3 leap.Scalar

namespace FingerMouse

/-- `CURSOR_MOVE_TYPE`. -/
inductive CursorMoveType where
  | oneFingerOnly
  | anyHover
  | always
  deriving DecidableEq, Repr

/-- The configuration parameters of the class. -/
structure Settings (F : Type) where
  use3PlusFingerGestures : Bool
  useRotateAndZoom : Bool
  disableAllOverlays : Bool
  cursorMoveType : CursorMoveType
  zoomScaleFactor : F
  translationScaleFactor : F

/-- The initial values. -/
def Settings.construct (F : Type) [Arithmetic F] : Settings F where
  use3PlusFingerGestures := true
  useRotateAndZoom := true
  disableAllOverlays := false
  cursorMoveType := .anyHover
  zoomScaleFactor := lit (3 / 2)
  translationScaleFactor := lit (3 / 2)

/-- `HoverDurationToActivateDrag`. -/
def hoverDurationToActivateDrag : ℤ := 500 * MILLISECONDS

/-- The state methods. -/
inductive State where
  /-- `State_FingerMouse_0Fingers_NoInteraction` -/
  | noFingersNoInteraction
  /-- `State_FingerMouse_1Finger_Hovering` -/
  | oneFingerHovering
  /-- `State_FingerMouse_1Finger_Clicking` -/
  | oneFingerClicking
  /-- `State_FingerMouse_1Finger_Dragging` -/
  | oneFingerDragging
  /-- `State_FingerMouse_2Fingers_Hovering` -/
  | twoFingersHovering
  /-- `State_FingerMouse_2Fingers_GestureRecognition` -/
  | twoFingersGestureRecognition
  /-- `State_FingerMouse_2Fingers_Rotating` -/
  | twoFingersRotating
  /-- `State_FingerMouse_2Fingers_Scrolling` -/
  | twoFingersScrolling
  /-- `State_FingerMouse_2Fingers_Zooming` -/
  | twoFingersZooming
  /-- `State_FingerMouse_3PlusFingers_NoInteraction` -/
  | threePlusFingersNoInteraction
  /-- `State_FingerMouse_3PlusFingers_Hovering` -/
  | threePlusFingersHovering
  /-- `State_FingerMouse_3PlusFingers_GestureRecognition` -/
  | threePlusFingersGestureRecognition
  /-- `State_FingerMouse_3PlusFingers_SwipeVertical` -/
  | threePlusFingersSwipeVertical
  /-- `State_FingerMouse_3PlusFingers_SwipeHorizontal` -/
  | threePlusFingersSwipeHorizontal
  /-- `State_FingerMouse_Palm_GestureRecognition` -/
  | palmGestureRecognition
  /-- `State_FingerMouse_Palm_Swipe` -/
  | palmSwipe
  deriving DecidableEq, Repr

/-- The inputs of the state machine. -/
inductive Input where
  /-- `OMFM__PROCESS_FRAME` -/
  | processFrame
  /-- `OMFM__LOST_FOCUS` -/
  | lostFocus
  deriving DecidableEq, Repr

open State

variable {leap : Leap}

/-- Memory that is zero. -/
def blank (leap : Leap) : FingerMouse leap where
  toManager := Manager.construct leap
  drawOverlays := false
  clickDuration := 0
  clickEligibleForDrag := false
  clickNumber := 0
  deferClickUpForDrag := false
  lastClickTime := 0
  lastClickLocation := Vector3.zero
  gestureStart := leap.invalidFrame
  clickDownScreenPosition := Vector3.zero

/-- The constructor. Members it does not initialize keep what is in memory. -/
def construct (memory : FingerMouse leap) : FingerMouse leap :=
  { memory with
    toManager := Manager.construct leap
    drawOverlays := true
    clickDuration := 0
    clickNumber := 0
    lastClickTime := 0
    lastClickLocation := Vector3.zero
    gestureStart := leap.invalidFrame
    clickDownScreenPosition := Vector3.zero }

/-- Run a method of the base class. -/
def base (m : FingerMouse leap) (f : Manager leap → Manager leap) : FingerMouse leap :=
  { m with toManager := f m.toManager }

/-- Send a call to the OS driver. -/
def emit (m : FingerMouse leap) (call : OSCall leap.Scalar) : FingerMouse leap :=
  m.base (·.emit call)

section Handlers

variable (env : Environment leap) (settings : Settings leap.Scalar) (v : FrameState leap)

/-! ### Tests on the frame -/

/-- `shouldBeInPalmSwipeMode`. -/
def shouldBeInPalmSwipeMode : Bool :=
  match v.palmHand with
  | none => false
  | some hand =>
    if leap.handIsValid hand then
      settings.use3PlusFingerGestures &&
        Arithmetic.le (lit (3 / 4)) (Arithmetic.abs (leap.palmNormal hand).x)
    else false

/-- The state that `FingerMouse_TransitionTo_NFingers_NoInteraction` requests. -/
def nFingers : State :=
  if settings.use3PlusFingerGestures && shouldBeInPalmSwipeMode settings v then
    palmGestureRecognition
  else
    match v.filteredPointableCount.filteredCategory.getD 0 with
    | 0 => noFingersNoInteraction
    | 1 => oneFingerHovering
    | 2 => twoFingersHovering
    | _ => if settings.use3PlusFingerGestures then threePlusFingersNoInteraction
      else twoFingersHovering

/-- `FingerMouse_TransitionTo_NFingers_NoInteraction`. -/
def transitionToNFingers (m : FingerMouse leap) : HandlerResult State (FingerMouse leap) :=
  goTo (nFingers settings v) m

/-- The test for a change of the finger count that most states make, with their test of the
count. -/
def fingersChange (test : ℕ → Bool) : Bool :=
  v.countIs test || shouldBeInPalmSwipeMode settings v

/-- The test of the count in `twoFingersHovering`. -/
def notTwoFingers (count : ℕ) : Bool :=
  count ≠ 2 && (settings.use3PlusFingerGestures || count < 3)

/-- The test `m_noTouching` with `collectiveZone() != ZONE_TOUCHING` in it. -/
def noLongerTouching : Bool := v.noTouching && v.collectiveZone ≠ .touching

/-! ### Overlays -/

/-- The test at the beginning of the functions that draw. -/
def draws (m : FingerMouse leap) : Bool := m.drawOverlays && !settings.disableAllOverlays

/-- `DrawPointingOverlay`, but for the drawing. -/
def drawPointingOverlay (m : FingerMouse leap) : FingerMouse leap :=
  if draws settings m then
    m.base fun b ↦
      let b := b.refreshFavoritePointableId v
      b.drawOverlayForPointable (b.favoritePointable v)
  else m

/-- `DrawClickingOrDraggingOverlay`, which moves the tracker in the same way. -/
def drawClickingOrDraggingOverlay (m : FingerMouse leap) : FingerMouse leap :=
  drawPointingOverlay settings v m

/-- What the overlays of gestures do beside drawing: they ask for the favorite pointable. -/
def drawGestureOverlay (m : FingerMouse leap) : FingerMouse leap :=
  if draws settings m then m.base (·.refreshFavoritePointableId v) else m

/-- `DrawScrollOverlay`. -/
def drawScrollOverlay (m : FingerMouse leap) : FingerMouse leap := drawGestureOverlay settings v m

/-- `DrawRotateOverlay`. -/
def drawRotateOverlay (m : FingerMouse leap) : FingerMouse leap := drawGestureOverlay settings v m

/-- `DrawZoomOverlay`. -/
def drawZoomOverlay (m : FingerMouse leap) : FingerMouse leap := drawGestureOverlay settings v m

/-- `DrawDesktopSwipeOverlay`. -/
def drawDesktopSwipeOverlay (m : FingerMouse leap) : FingerMouse leap :=
  drawGestureOverlay settings v m

/-- `DrawVerticalPalmOverlay`. -/
def drawVerticalPalmOverlay (m : FingerMouse leap) : FingerMouse leap :=
  drawGestureOverlay settings v m

/-! ### Helpers -/

/-- `setDeltaTrackedAbsoluteCursorPositionPointable` for the favorite pointable. -/
def moveCursorToPointable (m : FingerMouse leap) : FingerMouse leap :=
  m.base fun b ↦
    let b := b.refreshFavoritePointableId v
    b.setAbsoluteCursorPositionPointable env v (b.favoritePointable v)

/-- The cursor positioning of the states for two and more fingers: by the hand of the favorite
pointable if it is valid, or else by the pointable. -/
def moveCursor (m : FingerMouse leap) : FingerMouse leap :=
  m.base fun b ↦
    let b := b.refreshFavoritePointableId v
    let hand := leap.handOf (b.favoritePointable v)
    if leap.handIsValid hand then b.setAbsoluteCursorPositionHand env v hand
    else b.setAbsoluteCursorPositionPointable env v (b.favoritePointable v)

/-- `if (CursorMoveType == ALWAYS)`. -/
def moveCursorAlways (m : FingerMouse leap) : FingerMouse leap :=
  if settings.cursorMoveType = .always then moveCursor env v m else m

/-- `generateScrollBetweenFrames`. -/
def generateScrollBetweenFrames (currentFrame sinceFrame : leap.Frame) (m : FingerMouse leap) :
    FingerMouse leap :=
  let translation := FrameState.dampedTranslation currentFrame sinceFrame false
  m.emit (.applyScroll (settings.translationScaleFactor * translation.x)
    (-settings.translationScaleFactor * translation.y)
    (leap.timestamp currentFrame - leap.timestamp sinceFrame))

/-- `generateDesktopSwipeBetweenFrames`. -/
def generateDesktopSwipeBetweenFrames (currentFrame sinceFrame : leap.Frame)
    (m : FingerMouse leap) : FingerMouse leap :=
  let translation := FrameState.dampedTranslation currentFrame sinceFrame false
  m.emit (.applyDesktopSwipe translation.x (-translation.y))

/-- Does a translation go to the side, or up and down, by more than twice the other component? -/
def wins (most least : leap.Scalar) : Bool :=
  Arithmetic.lt (lit 2 * Arithmetic.abs least + lit 1) (Arithmetic.abs most)

/-! ### The states -/

/-- The frame in `noFingersNoInteraction`. -/
def noFingersFrame (m : FingerMouse leap) : HandlerResult State (FingerMouse leap) :=
  if fingersChange settings v (0 < ·) then transitionToNFingers settings v m else done m

/-- `State_FingerMouse_0Fingers_NoInteraction`. -/
def stateNoFingersNoInteraction :
    StateMachineInput Input → FingerMouse leap → HandlerResult State (FingerMouse leap)
  | .user .lostFocus, m => done m
  | .enter, m => noFingersFrame settings v ({ m with drawOverlays := true }.base (·.clearTracker))
  | .user .processFrame, m => noFingersFrame settings v m
  | .exit, m => unhandled m

/-- The frame in `oneFingerHovering`. -/
def oneFingerHoveringFrame (m : FingerMouse leap) : HandlerResult State (FingerMouse leap) :=
  if fingersChange settings v (· ≠ 1) then transitionToNFingers settings v m
  else if v.collectiveZone = .touching then goTo oneFingerClicking m
  else done (moveCursorToPointable env v (drawPointingOverlay settings v m))

/-- `State_FingerMouse_1Finger_Hovering`. -/
def stateOneFingerHovering :
    StateMachineInput Input → FingerMouse leap → HandlerResult State (FingerMouse leap)
  | .user .lostFocus, m => goTo noFingersNoInteraction m
  | .enter, m =>
    oneFingerHoveringFrame env settings v
      ({ m with drawOverlays := true }.base (·.resetFavoritePointableId v))
  | .user .processFrame, m => oneFingerHoveringFrame env settings v m
  | .exit, m => unhandled m

/-- The button is pressed on entering `oneFingerClicking`: move the cursor, reset the click number
if the last click is too far away in time or space, and press. -/
def pressButton (m : FingerMouse leap) : FingerMouse leap :=
  let b := m.toManager.refreshFavoritePointableId v
  let position := b.calculatedScreenPosition env v (b.favoritePointable v) m.clickDownScreenPosition
  let m := moveCursorToPointable env v m
  let clickNumber :=
    if v.now - m.lastClickTime > 3 * SECONDS ∨
        Arithmetic.lt (lit 50) (position.distanceTo m.lastClickLocation) = true ∨
        m.clickNumber = 3 then 0
    else m.clickNumber
  { m.emit (.clickDown 0 (clickNumber + 1)) with
    clickDownScreenPosition := position
    clickNumber := clickNumber + 1
    deferClickUpForDrag := false
    clickEligibleForDrag := true
    lastClickTime := v.now
    lastClickLocation := position }

/-- The end of the frame in `oneFingerClicking`: after half a second in one place the click becomes
a drag, which releases the button in its stead. -/
def holdClick (m : FingerMouse leap) : HandlerResult State (FingerMouse leap) :=
  let clickDuration := v.now - m.lastClickTime
  let screen := env.normalizedToScreen
    (v.normalizePoint m.positionalDeltaTracker.getTrackedPosition true)
  let eligible := m.clickEligibleForDrag &&
    !Arithmetic.le (lit 50) (m.lastClickLocation.distanceTo screen.output)
  let m := { m with clickDuration := clickDuration, clickEligibleForDrag := eligible }
  if eligible = true ∧ clickDuration > hoverDurationToActivateDrag then
    goTo oneFingerDragging { m with deferClickUpForDrag := true, clickNumber := 0 }
  else done m

/-- The frame in `oneFingerClicking`. -/
def clickingFrame (m : FingerMouse leap) : HandlerResult State (FingerMouse leap) :=
  if fingersChange settings v (· ≠ 1) then transitionToNFingers settings v m
  else if v.collectiveZone ≠ .touching then goTo oneFingerHovering m
  else holdClick env v (drawClickingOrDraggingOverlay settings v m)

/-- `State_FingerMouse_1Finger_Clicking`. It presses the button also when a transition has been
requested. -/
def stateOneFingerClicking :
    StateMachineInput Input → FingerMouse leap → HandlerResult State (FingerMouse leap)
  | .user .lostFocus, m => goTo noFingersNoInteraction m
  | .enter, m =>
    { owner := pressButton env v { m with drawOverlays := true }
      requests := if fingersChange settings v (· = 0) then [some (nFingers settings v)] else []
      handled := true }
  | .exit, m =>
    done { (if m.deferClickUpForDrag then m else m.emit (.clickUp 0 m.clickNumber)) with
      clickDuration := 0 }
  | .user .processFrame, m => clickingFrame env settings v m

/-- The frame in `oneFingerDragging`. -/
def draggingFrame (m : FingerMouse leap) : HandlerResult State (FingerMouse leap) :=
  if fingersChange settings v (· ≠ 1) then transitionToNFingers settings v m
  else if v.collectiveZone ≠ .touching then goTo oneFingerHovering m
  else done (moveCursorToPointable env v (drawClickingOrDraggingOverlay settings v m))

/-- `State_FingerMouse_1Finger_Dragging`. -/
def stateOneFingerDragging :
    StateMachineInput Input → FingerMouse leap → HandlerResult State (FingerMouse leap)
  | .user .lostFocus, m => goTo noFingersNoInteraction m
  | .enter, m => draggingFrame env settings v { m with drawOverlays := true }
  | .user .processFrame, m => draggingFrame env settings v m
  | .exit, m => done (m.emit (.clickUp 0 m.clickNumber))

/-- The frame in `twoFingersHovering`. -/
def twoFingersHoveringFrame (m : FingerMouse leap) : HandlerResult State (FingerMouse leap) :=
  if fingersChange settings v (notTwoFingers settings) then transitionToNFingers settings v m
  else if v.collectiveZone = .touching then
    goTo (if settings.useRotateAndZoom then twoFingersGestureRecognition else twoFingersScrolling) m
  else done (moveCursor env v (drawScrollOverlay settings v m))

/-- `State_FingerMouse_2Fingers_Hovering`. -/
def stateTwoFingersHovering :
    StateMachineInput Input → FingerMouse leap → HandlerResult State (FingerMouse leap)
  | .user .lostFocus, m => goTo noFingersNoInteraction m
  | .enter, m =>
    twoFingersHoveringFrame env settings v
      ({ m with drawOverlays := true }.base (·.resetFavoritePointableId v))
  | .user .processFrame, m => twoFingersHoveringFrame env settings v m
  | .exit, m => unhandled m

/-- The gesture that the motion since a frame at least 100 ms ago shows, if there is one. -/
def recognizedGesture : Option State :=
  match v.timedFrameHistory.getFrameHavingAgeAtLeast (100 * MILLISECONDS) with
  | none => none
  | some (_, frame) =>
    let translation := leap.translation v.currentFrame frame
    let timeDelta := (lit (v.now - leap.timestamp frame : ℤ) : leap.Scalar) / lit (SECONDS : ℤ)
    let magnitude := Arithmetic.sqrt (translation.x * translation.x + translation.y * translation.y)
    if Arithmetic.lt (lit (3 / 4)) (leap.rotationProbability v.currentFrame frame) then
      some twoFingersRotating
    else if Arithmetic.lt (lit (3 / 4)) (leap.scaleProbability v.currentFrame frame) then
      some twoFingersZooming
    else if Arithmetic.lt (lit (3 / 4)) (leap.translationProbability v.currentFrame frame) &&
        Arithmetic.lt (lit 50) (magnitude / timeDelta) then
      some twoFingersScrolling
    else none

/-- The frame in `twoFingersGestureRecognition`. -/
def twoFingersGestureRecognitionFrame (m : FingerMouse leap) :
    HandlerResult State (FingerMouse leap) :=
  if fingersChange settings v (· = 0) then transitionToNFingers settings v m
  else if noLongerTouching v then goTo twoFingersHovering m
  else
    let m := drawScrollOverlay settings v m
    match recognizedGesture v with
    | some state => goTo state m
    | none => done m

/-- `State_FingerMouse_2Fingers_GestureRecognition`. -/
def stateTwoFingersGestureRecognition :
    StateMachineInput Input → FingerMouse leap → HandlerResult State (FingerMouse leap)
  | .user .lostFocus, m => goTo noFingersNoInteraction m
  | .enter, m =>
    twoFingersGestureRecognitionFrame settings v
      (moveCursor env v { m with drawOverlays := true, gestureStart := v.currentFrame })
  | .user .processFrame, m => twoFingersGestureRecognitionFrame settings v m
  | .exit, m => unhandled m

/-- The frame in `twoFingersRotating`, `twoFingersScrolling` and `twoFingersZooming`, with what they
do when the gesture goes on. -/
def twoFingersGestureFrame (goOn : FingerMouse leap → FingerMouse leap) (m : FingerMouse leap) :
    HandlerResult State (FingerMouse leap) :=
  if fingersChange settings v (· = 0) then transitionToNFingers settings v m
  else if noLongerTouching v then goTo twoFingersHovering m
  else done (goOn m)

/-- `applyRotation` by the rotation since a frame, negated. -/
def rotation (sinceFrame : leap.Frame) : OSCall leap.Scalar :=
  .applyRotation (-leap.radToDeg * leap.rotationAngle v.currentFrame sinceFrame)

/-- `applyZoom` by the scale factor since a frame. -/
def zoom (sinceFrame : leap.Frame) : OSCall leap.Scalar :=
  .applyZoom (lit 1 + settings.zoomScaleFactor *
    (leap.scaleFactor v.currentFrame sinceFrame - lit 1))

/-- `State_FingerMouse_2Fingers_Rotating`. -/
def stateTwoFingersRotating :
    StateMachineInput Input → FingerMouse leap → HandlerResult State (FingerMouse leap)
  | .user .lostFocus, m => goTo noFingersNoInteraction m
  | .enter, m =>
    done (({ m with drawOverlays := true }.emit (.beginGesture .rotate)).emit
      (rotation v m.gestureStart))
  | .exit, m => done (m.emit .endGesture)
  | .user .processFrame, m =>
    twoFingersGestureFrame settings v (fun m ↦
      (moveCursorAlways env settings v (drawRotateOverlay settings v m)).emit
        (rotation v v.sinceFrame)) m

/-- `State_FingerMouse_2Fingers_Scrolling`. -/
def stateTwoFingersScrolling :
    StateMachineInput Input → FingerMouse leap → HandlerResult State (FingerMouse leap)
  | .user .lostFocus, m => goTo noFingersNoInteraction m
  | .enter, m =>
    done (generateScrollBetweenFrames settings v.currentFrame m.gestureStart
      ({ m with drawOverlays := true }.emit (.beginGesture .scroll)))
  | .exit, m => done (m.emit .endGesture)
  | .user .processFrame, m =>
    twoFingersGestureFrame settings v (fun m ↦
      moveCursorAlways env settings v (drawScrollOverlay settings v
        (generateScrollBetweenFrames settings v.currentFrame v.sinceFrame m))) m

/-- `State_FingerMouse_2Fingers_Zooming`. -/
def stateTwoFingersZooming :
    StateMachineInput Input → FingerMouse leap → HandlerResult State (FingerMouse leap)
  | .user .lostFocus, m => goTo noFingersNoInteraction m
  | .enter, m =>
    done (({ m with drawOverlays := true }.emit (.beginGesture .zoom)).emit
      (zoom settings v m.gestureStart))
  | .exit, m => done (m.emit .endGesture)
  | .user .processFrame, m =>
    twoFingersGestureFrame settings v (fun m ↦
      (moveCursorAlways env settings v (drawZoomOverlay settings v m)).emit
        (zoom settings v v.sinceFrame)) m

/-- The frame in `threePlusFingersNoInteraction`. -/
def threePlusFingersFrame (m : FingerMouse leap) : HandlerResult State (FingerMouse leap) :=
  if fingersChange settings v (· < 3) then transitionToNFingers settings v m
  else
    match v.collectiveZone with
    | .hovering => goTo threePlusFingersHovering m
    | .touching => goTo threePlusFingersGestureRecognition m
    | .none => done (moveCursorAlways env settings v m)

/-- `State_FingerMouse_3PlusFingers_NoInteraction`. -/
def stateThreePlusFingersNoInteraction :
    StateMachineInput Input → FingerMouse leap → HandlerResult State (FingerMouse leap)
  | .user .lostFocus, m => goTo noFingersNoInteraction m
  | .enter, m =>
    threePlusFingersFrame env settings v
      ({ m with drawOverlays := true }.base (·.resetFavoritePointableId v))
  | .user .processFrame, m => threePlusFingersFrame env settings v m
  | .exit, m => unhandled m

/-- The frame in `threePlusFingersHovering`. -/
def threePlusFingersHoveringFrame (m : FingerMouse leap) :
    HandlerResult State (FingerMouse leap) :=
  if fingersChange settings v (· < 3) then transitionToNFingers settings v m
  else
    match v.collectiveZone with
    | .none => goTo threePlusFingersNoInteraction m
    | .touching => goTo threePlusFingersGestureRecognition m
    | .hovering =>
      let m := drawDesktopSwipeOverlay settings v m
      done (if settings.cursorMoveType = .always ∨ settings.cursorMoveType = .anyHover then
        moveCursor env v m else m)

/-- `State_FingerMouse_3PlusFingers_Hovering`, which has no case for `SM_ENTER`. -/
def stateThreePlusFingersHovering :
    StateMachineInput Input → FingerMouse leap → HandlerResult State (FingerMouse leap)
  | .user .lostFocus, m => goTo noFingersNoInteraction m
  | .user .processFrame, m => threePlusFingersHoveringFrame env settings v m
  | .enter, m | .exit, m => unhandled m

/-- What `threePlusFingersGestureRecognition` requests once a translation has won. -/
def recognizedSwipe (m : FingerMouse leap) : List (Option State) :=
  if v.now - leap.timestamp m.gestureStart ≥ 10 * MILLISECONDS ∧ v.rtsIs .translating = true then
    let translation := leap.translation v.currentFrame m.gestureStart
    if wins translation.x translation.y then [some threePlusFingersSwipeHorizontal]
    else if wins translation.y translation.x then [some threePlusFingersSwipeVertical]
    else []
  else []

/-- The frame in `threePlusFingersGestureRecognition`. -/
def threePlusFingersGestureRecognitionFrame (m : FingerMouse leap) :
    HandlerResult State (FingerMouse leap) :=
  if fingersChange settings v (· < 3) then transitionToNFingers settings v m
  else
    match v.collectiveZone with
    | .none => goTo threePlusFingersNoInteraction m
    | .hovering => goTo threePlusFingersHovering m
    | .touching =>
      { owner := moveCursorAlways env settings v (drawDesktopSwipeOverlay settings v m)
        requests := recognizedSwipe v m
        handled := true }

/-- `State_FingerMouse_3PlusFingers_GestureRecognition`. -/
def stateThreePlusFingersGestureRecognition :
    StateMachineInput Input → FingerMouse leap → HandlerResult State (FingerMouse leap)
  | .user .lostFocus, m => goTo noFingersNoInteraction m
  | .enter, m =>
    threePlusFingersGestureRecognitionFrame env settings v { m with gestureStart := v.currentFrame }
  | .user .processFrame, m => threePlusFingersGestureRecognitionFrame env settings v m
  | .exit, m => unhandled m

/-- The frame in `threePlusFingersSwipeVertical`. Where it requests the horizontal swipe, it goes on
to apply the movement. -/
def swipeVerticalFrame (m : FingerMouse leap) : HandlerResult State (FingerMouse leap) :=
  let translation := leap.translation v.currentFrame v.sinceFrame
  if fingersChange settings v (· = 0) then transitionToNFingers settings v m
  else if noLongerTouching v then goTo threePlusFingersNoInteraction m
  else
    { owner := drawDesktopSwipeOverlay settings v
        (generateDesktopSwipeBetweenFrames v.currentFrame v.sinceFrame m)
      requests := if v.noTouching && wins translation.x translation.y then
          [some threePlusFingersSwipeHorizontal] else []
      handled := true }

/-- `State_FingerMouse_3PlusFingers_SwipeVertical`. -/
def stateThreePlusFingersSwipeVertical :
    StateMachineInput Input → FingerMouse leap → HandlerResult State (FingerMouse leap)
  | .user .lostFocus, m => goTo noFingersNoInteraction m
  | .enter, m => done ({ m with drawOverlays := true }.emit (.beginGesture .desktopSwipeVertical))
  | .exit, m => done (m.emit .endGesture)
  | .user .processFrame, m => swipeVerticalFrame settings v m

/-- The frame in `threePlusFingersSwipeHorizontal`. -/
def swipeHorizontalFrame (m : FingerMouse leap) : HandlerResult State (FingerMouse leap) :=
  if fingersChange settings v (· = 0) then transitionToNFingers settings v m
  else if noLongerTouching v then goTo threePlusFingersNoInteraction m
  else done (drawDesktopSwipeOverlay settings v
    (generateDesktopSwipeBetweenFrames v.currentFrame v.sinceFrame m))

/-- `State_FingerMouse_3PlusFingers_SwipeHorizontal`. -/
def stateThreePlusFingersSwipeHorizontal :
    StateMachineInput Input → FingerMouse leap → HandlerResult State (FingerMouse leap)
  | .user .lostFocus, m => goTo noFingersNoInteraction m
  | .enter, m => done (m.emit (.beginGesture .desktopSwipeHorizontal))
  | .exit, m => done (m.emit .endGesture)
  | .user .processFrame, m => swipeHorizontalFrame settings v m

/-- The frame in `palmGestureRecognition`. -/
def palmGestureRecognitionFrame (m : FingerMouse leap) : HandlerResult State (FingerMouse leap) :=
  if shouldBeInPalmSwipeMode settings v = false then transitionToNFingers settings v m
  else
    match v.palmHand with
    | none => transitionToNFingers settings v m
    | some hand =>
      if leap.handIsValid hand = false then transitionToNFingers settings v m
      else
        { owner := drawVerticalPalmOverlay settings v m
          requests :=
            if v.now - leap.timestamp m.gestureStart ≥ 100 * MILLISECONDS ∧
                v.rtsIs .translating = true ∧
                Arithmetic.le (leap.palmPosition hand).z (lit 150) = true then [some palmSwipe]
            else []
          handled := true }

/-- `State_FingerMouse_Palm_GestureRecognition`. -/
def statePalmGestureRecognition :
    StateMachineInput Input → FingerMouse leap → HandlerResult State (FingerMouse leap)
  | .user .lostFocus, m => goTo noFingersNoInteraction m
  | .enter, m => palmGestureRecognitionFrame settings v { m with gestureStart := v.currentFrame }
  | .user .processFrame, m => palmGestureRecognitionFrame settings v m
  | .exit, m => done m

/-- `State_FingerMouse_Palm_Swipe`. -/
def statePalmSwipe :
    StateMachineInput Input → FingerMouse leap → HandlerResult State (FingerMouse leap)
  | .user .lostFocus, m => goTo noFingersNoInteraction m
  | .enter, m => done (m.emit (.beginGesture .desktopSwipeHorizontal))
  | .exit, m => done (m.emit .endGesture)
  | .user .processFrame, m =>
    if shouldBeInPalmSwipeMode settings v = false then transitionToNFingers settings v m
    else done (generateDesktopSwipeBetweenFrames v.currentFrame v.sinceFrame
      (drawVerticalPalmOverlay settings v m))

/-- The state methods. -/
def handlers : Handlers State Input (FingerMouse leap)
  | noFingersNoInteraction => stateNoFingersNoInteraction settings v
  | oneFingerHovering => stateOneFingerHovering env settings v
  | oneFingerClicking => stateOneFingerClicking env settings v
  | oneFingerDragging => stateOneFingerDragging env settings v
  | twoFingersHovering => stateTwoFingersHovering env settings v
  | twoFingersGestureRecognition => stateTwoFingersGestureRecognition env settings v
  | twoFingersRotating => stateTwoFingersRotating env settings v
  | twoFingersScrolling => stateTwoFingersScrolling env settings v
  | twoFingersZooming => stateTwoFingersZooming env settings v
  | threePlusFingersNoInteraction => stateThreePlusFingersNoInteraction env settings v
  | threePlusFingersHovering => stateThreePlusFingersHovering env settings v
  | threePlusFingersGestureRecognition => stateThreePlusFingersGestureRecognition env settings v
  | threePlusFingersSwipeVertical => stateThreePlusFingersSwipeVertical settings v
  | threePlusFingersSwipeHorizontal => stateThreePlusFingersSwipeHorizontal settings v
  | palmGestureRecognition => statePalmGestureRecognition settings v
  | palmSwipe => statePalmSwipe settings v

end Handlers

/-! ### The object -/

/-- `identifyCollectivePointableZone`: the greatest zone of the pointables. -/
def identifyCollectivePointableZone (pointables : List leap.Pointable) : Zone :=
  pointables.foldl (fun max p ↦
    if max.toNat < (leap.touchZone p).toNat then leap.touchZone p else max) .none

/-- The functions of the base class that the mode overrides: the zone. -/
def overrides (leap : Leap) : FrameState.Overrides leap where
  identifyRelevantPointables := FrameState.identifyRelevantPointables
  identifyCollectivePointableZone _ := identifyCollectivePointableZone
  setForemostPointable := FrameState.setForemostPointable

/-- An object of the class. -/
abbrev Object (leap : Leap) := ModeObject leap State Input (FingerMouse leap)

/-- The constructor of the object. -/
def Object.construct (memory : FingerMouse leap) : Object leap :=
  ⟨FrameState.construct leap, StateMachine.construct (FingerMouse.construct memory)⟩

variable (env : Environment leap) (settings : Settings leap.Scalar) (fuel : ℕ)

/-- `processFrameInternal`. -/
def processFrameInternal (o : Object leap) : Option (Object leap) := do
  let o ← o.ensureInitialized (handlers env settings) fuel noFingersNoInteraction
  o.runCurrentState (handlers env settings) fuel .processFrame

/-- `processFrame`. -/
def processFrame (o : Object leap) (frame sinceFrame : leap.Frame) : Option (Object leap) :=
  processFrameInternal env settings fuel
    { o with frame := o.frame.processFrame (overrides leap) frame sinceFrame }

/-- `stopActiveEvents`. -/
def stopActiveEvents (o : Object leap) : Option (Object leap) :=
  o.runCurrentState (handlers env settings) fuel .lostFocus

/-- The destructor. -/
def destruct (o : Object leap) : Option (Object leap) :=
  o.shutdown (handlers env settings) fuel

/-- What the listener calls. -/
def methods : ModeMethods leap (Object leap) where
  processFrame := processFrame env settings fuel
  stopActiveEvents := stopActiveEvents env settings fuel
  destruct := destruct env settings fuel

end FingerMouse

end Touchless
