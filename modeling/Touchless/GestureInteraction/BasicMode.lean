import Touchless.GestureInteraction.ModeObject

/-!
# Basic mode

`BasicMode` of `GestureInteraction/BasicMode.cpp`: one pointable moves the cursor and clicks, two or
more pointables scroll, two hands rotate and zoom, and a sideways palm swipes the desktop. Each of
the states is a function of the input and of the object, written as in the source.

Left out are members that only the drawing of overlays reads.
-/

namespace Touchless

/-- The members that the state handlers of `BasicMode` write. -/
structure BasicMode (leap : Leap) extends Manager leap where
  clickDuration : ℤ
  clickNumber : ℤ
  clickDown : Bool
  lastClickTime : ℤ
  lastClickLocation : Vector3 leap.Scalar
  gestureStart : leap.Frame
  clickDownScreenPosition : Vector3 leap.Scalar
  charmsMode : ℤ
  favoriteHandId : ℤ
  clickPointable : leap.Pointable
  updateCursor : Bool

namespace BasicMode

/-- The configuration parameters of the class. -/
structure Settings (F : Type) where
  /-- `UseMouseOutput`, a constant of the build -/
  useMouseOutput : Bool
  disableClicking : Bool
  disablePalmSwipe : Bool
  disableHorizontalScrolling : Bool
  translationScaleFactor : F
  zoomScaleFactor : F

/-- The initial values. -/
def Settings.construct (F : Type) [Arithmetic F] (useMouseOutput : Bool) : Settings F where
  useMouseOutput := useMouseOutput
  disableClicking := false
  disablePalmSwipe := true
  disableHorizontalScrolling := true
  translationScaleFactor := lit (3 / 2)
  zoomScaleFactor := lit (3 / 2)

/-- `SetIntroMode`. -/
def Settings.setIntroMode {F : Type} (settings : Settings F) : Settings F :=
  { settings with disableClicking := true, disablePalmSwipe := false }

/-- `SetBasicMode`. -/
def Settings.setBasicMode {F : Type} (settings : Settings F) : Settings F :=
  { settings with disableClicking := false, disablePalmSwipe := true }

/-- The state methods. -/
inductive State where
  /-- `State_BasicMode_0Pointables_NoInteraction` -/
  | noPointablesNoInteraction
  /-- `State_BasicMode_1Pointable_Hovering` -/
  | onePointableHovering
  /-- `State_BasicMode_1Pointable_ClickCooldown` -/
  | onePointableClickCooldown
  /-- `State_BasicMode_2PlusPointables_Hovering` -/
  | twoPlusPointablesHovering
  /-- `State_BasicMode_2PlusPointables_Scrolling` -/
  | twoPlusPointablesScrolling
  /-- `State_BasicMode_2Hands_Hovering` -/
  | twoHandsHovering
  /-- `State_BasicMode_2Hands_GestureRecognition` -/
  | twoHandsGestureRecognition
  /-- `State_BasicMode_2Hands_Rotating` -/
  | twoHandsRotating
  /-- `State_BasicMode_2Hands_Zooming` -/
  | twoHandsZooming
  /-- `State_BasicMode_2Hands_Touch` -/
  | twoHandsTouch
  /-- `State_BasicMode_Palm_GestureRecognition` -/
  | palmGestureRecognition
  /-- `State_BasicMode_Palm_Swipe` -/
  | palmSwipe
  deriving DecidableEq, Repr

/-- The inputs of the state machine. -/
inductive Input where
  /-- `OMB__PROCESS_FRAME` -/
  | processFrame
  /-- `OMB__LOST_FOCUS` -/
  | lostFocus
  deriving DecidableEq, Repr

open State

variable {leap : Leap}

/-- Memory that is zero. -/
def blank (leap : Leap) : BasicMode leap where
  toManager := Manager.construct leap
  clickDuration := 0
  clickNumber := 0
  clickDown := false
  lastClickTime := 0
  lastClickLocation := Vector3.zero
  gestureStart := leap.invalidFrame
  clickDownScreenPosition := Vector3.zero
  charmsMode := 0
  favoriteHandId := 0
  clickPointable := leap.invalidPointable
  updateCursor := false

/-- The constructor. Members it does not initialize keep what is in memory. -/
def construct (memory : BasicMode leap) : BasicMode leap :=
  { memory with
    toManager := Manager.construct leap
    clickDuration := 0
    clickNumber := 0
    clickDown := false
    lastClickTime := 0
    lastClickLocation := Vector3.zero
    gestureStart := leap.invalidFrame
    clickDownScreenPosition := Vector3.zero
    charmsMode := -1
    clickPointable := leap.invalidPointable
    updateCursor := true }

/-- Run a method of the base class. -/
def base (m : BasicMode leap) (f : Manager leap → Manager leap) : BasicMode leap :=
  { m with toManager := f m.toManager }

/-- Send a call to the OS driver. -/
def emit (m : BasicMode leap) (call : OSCall leap.Scalar) : BasicMode leap :=
  m.base (·.emit call)

section Handlers

variable (env : Environment leap) (settings : Settings leap.Scalar) (v : FrameState leap)

/-! ### Tests on the frame -/

/-- `shouldBeInMultiHandMode`, with the two pointable ids it returns through its arguments. -/
def multiHand : Option (ℤ × ℤ) :=
  if (leap.hands v.currentFrame).length > 1 then
    match (leap.hands v.currentFrame).filter fun hand ↦
      !(leap.handPointables hand).isEmpty && Arithmetic.lt (leap.handDirection hand).z (lit 0) with
    | first :: second :: _ =>
      some (FrameState.identifyForemostPointable (leap.handPointables first),
        FrameState.identifyForemostPointable (leap.handPointables second))
    | _ => none
  else none

/-- `shouldBeInMultiHandMode()`. -/
def shouldBeInMultiHandMode : Bool := (multiHand v).isSome

/-- `shouldBeInPalmSwipeMode`. -/
def shouldBeInPalmSwipeMode : Bool :=
  !settings.disablePalmSwipe &&
    match leap.hands v.currentFrame with
    | [] => false
    | hand :: _ => Arithmetic.le (lit (3 / 4)) (Arithmetic.abs (leap.palmNormal hand).x) &&
        Arithmetic.le (leap.palmPosition hand).z (lit 150)

/-- The state that `BasicMode_TransitionTo_NPointables_NoInteraction` requests. -/
def nPointables : State :=
  if shouldBeInMultiHandMode v then twoHandsHovering
  else if shouldBeInPalmSwipeMode settings v then palmGestureRecognition
  else
    match v.filteredPointableCount.filteredCategory.getD 0 with
    | 0 => noPointablesNoInteraction
    | 1 => if settings.disableClicking then twoPlusPointablesHovering else onePointableHovering
    | _ => twoPlusPointablesHovering

/-- `BasicMode_TransitionTo_NPointables_NoInteraction`. -/
def transitionToNPointables (m : BasicMode leap) : HandlerResult State (BasicMode leap) :=
  goTo (nPointables settings v) m

/-- The test for a change of the state group that most states make, with their test of the count. -/
def groupChanges (test : ℕ → Bool) : Bool :=
  v.countIs test || shouldBeInMultiHandMode v || shouldBeInPalmSwipeMode settings v

/-! ### Helpers -/

/-- `setAbsoluteCursorPositionHand`. -/
def setAbsoluteCursorPositionHand (m : BasicMode leap) : BasicMode leap :=
  m.base fun b ↦
    if m.updateCursor then
      b.setAbsoluteCursorPositionHand env v (leap.hand v.currentFrame m.favoriteHandId)
    else b

/-- `setAbsoluteCursorPositionPointable`. -/
def setAbsoluteCursorPositionPointable (m : BasicMode leap) : BasicMode leap :=
  m.base fun b ↦
    if m.updateCursor then
      let b := b.refreshFavoritePointableId v
      b.setAbsoluteCursorPositionPointable env v (b.favoritePointable v)
    else b

/-- What the call `setAbsoluteCursorPositionPointable(&m_clickDownScreenPosition)` stores. -/
def clickPosition (m : BasicMode leap) : Vector3 leap.Scalar :=
  if m.updateCursor then
    let b := m.toManager.refreshFavoritePointableId v
    b.calculatedScreenPosition env v (b.favoritePointable v) m.clickDownScreenPosition
  else m.clickDownScreenPosition

/-- `generateScrollBetweenFrames`. -/
def generateScrollBetweenFrames (currentFrame sinceFrame : leap.Frame) (m : BasicMode leap) :
    BasicMode leap :=
  let translation := FrameState.dampedTranslation currentFrame sinceFrame false
  let dx := if settings.disableHorizontalScrolling then lit 0
    else settings.translationScaleFactor * translation.x
  let dy := -settings.translationScaleFactor * translation.y
  m.emit (.applyScroll dx dy (leap.timestamp currentFrame - leap.timestamp sinceFrame))

/-- `generateDesktopSwipeBetweenFrames`. -/
def generateDesktopSwipeBetweenFrames (currentFrame sinceFrame : leap.Frame) (m : BasicMode leap) :
    BasicMode leap :=
  let translation := FrameState.dampedTranslation currentFrame sinceFrame false
  m.emit (.applyDesktopSwipe translation.x (-translation.y))

/-- The click in mouse mode: move the cursor, reset the click number if the last click is too far
away in time or space, and press the button. -/
def pressButton (m : BasicMode leap) : BasicMode leap :=
  let position := clickPosition env v m
  let m := setAbsoluteCursorPositionPointable env v m
  let clickNumber :=
    if v.now - m.lastClickTime > 3 * SECONDS ∨
        Arithmetic.lt (lit 50) (position.distanceTo m.lastClickLocation) = true ∨
        m.clickNumber = 3 then 0
    else m.clickNumber
  { m.emit (.clickDown 0 (clickNumber + 1)) with
    clickNumber := clickNumber + 1
    clickDown := true
    clickDownScreenPosition := position
    lastClickLocation := position
    lastClickTime := v.now }

/-- The click in touch mode. -/
def touchDown (m : BasicMode leap) : BasicMode leap :=
  let m := m.base (·.refreshFavoritePointableId v)
  let clickPointable := leap.pointable v.sinceFrame m.favoritePointableId
  { m.base (·.addTouchPointForPointable env v m.favoritePointableId clickPointable true true) with
    clickPointable := clickPointable
    lastClickTime := v.now }

/-- The end of a click on leaving the cooldown state. -/
def releaseClick (m : BasicMode leap) : BasicMode leap :=
  if m.clickDown then
    let m := { m with clickDown := if settings.useMouseOutput then false else m.clickDown }
    if settings.useMouseOutput then m.emit (.clickUp 0 m.clickNumber)
    else
      m.base fun b ↦
        let b := b.refreshFavoritePointableId v
        b.addTouchPointForPointable env v b.favoritePointableId m.clickPointable false true
  else m

/-- The charms of Windows 8. -/
def charms (m : BasicMode leap) : BasicMode leap :=
  if env.touchVersion = 8 ∧ env.useCharmHelper = true then
    let m := m.base fun b ↦ b.drawOverlayForPointable (b.favoritePointable v)
    let aspect := env.normalizedToAspect
      (v.normalizePoint m.positionalDeltaTracker.getTrackedPosition false)
    let charmsMode := env.applyCharms aspect.output v.relevantPointables.length m.charmsMode
    { m.emit (.applyCharms aspect.output v.relevantPointables.length charmsMode) with
      charmsMode := charmsMode }
  else m

/-! ### The states -/

/-- The frame in `noPointablesNoInteraction`. -/
def noPointablesFrame (m : BasicMode leap) : HandlerResult State (BasicMode leap) :=
  if groupChanges settings v (0 < ·) then transitionToNPointables settings v m
  else done { m.base (·.clearTracker) with charmsMode := -1 }

/-- `State_BasicMode_0Pointables_NoInteraction`. -/
def stateNoPointablesNoInteraction :
    StateMachineInput Input → BasicMode leap → HandlerResult State (BasicMode leap)
  | .enter, m => noPointablesFrame settings v { m with updateCursor := true }
  | .user .processFrame, m => noPointablesFrame settings v m
  | .user .lostFocus, m => done m
  | .exit, m => unhandled m

/-- The frame in `onePointableHovering`. -/
def onePointableHoveringFrame (m : BasicMode leap) : HandlerResult State (BasicMode leap) :=
  let m := m.base (·.refreshFavoritePointableId v)
  if groupChanges settings v (· ≠ 1) then transitionToNPointables settings v m
  else if v.collectiveZone = .touching then
    goTo onePointableClickCooldown
      (if settings.useMouseOutput then pressButton env v m else touchDown env v m)
  else
    let m := if settings.useMouseOutput then setAbsoluteCursorPositionPointable env v m
      else m.base fun b ↦
        b.addTouchPointForPointable env v b.favoritePointableId (b.favoritePointable v) false true
    let m := charms env v m
    done (m.base fun b ↦ b.drawOverlayForPointable (b.favoritePointable v))

/-- `State_BasicMode_1Pointable_Hovering`. -/
def stateOnePointableHovering :
    StateMachineInput Input → BasicMode leap → HandlerResult State (BasicMode leap)
  | .user .lostFocus, m => goTo noPointablesNoInteraction m
  | .enter, m =>
    onePointableHoveringFrame env settings v
      ({ m with updateCursor := true }.base (·.resetFavoritePointableId v))
  | .user .processFrame, m => onePointableHoveringFrame env settings v m
  | .exit, m => unhandled m

/-- The end of a click after 150 ms, where `m_clickDown` is reset in touch mode too. -/
def releaseClickInPlace (m : BasicMode leap) : BasicMode leap :=
  if m.clickDown then { releaseClick env settings v m with clickDown := false } else m

/-- What a frame does to the click while the zone is touching. -/
def holdClick (m : BasicMode leap) : BasicMode leap :=
  if m.clickDuration > 150 * MILLISECONDS then
    if settings.useMouseOutput then
      setAbsoluteCursorPositionPointable env v (releaseClickInPlace env settings v m)
    else releaseClickInPlace env settings v m
  else if settings.useMouseOutput then m
  else m.base fun b ↦
    b.addTouchPointForPointable env v b.favoritePointableId m.clickPointable true true

/-- The frame in `onePointableClickCooldown`, which `SM_ENTER` processes too. -/
def clickCooldownFrame (m : BasicMode leap) : HandlerResult State (BasicMode leap) :=
  if groupChanges settings v (· ≠ 1) then transitionToNPointables settings v m
  else if v.collectiveZone ≠ .touching then goTo onePointableHovering m
  else
    let m := { m with clickDuration := v.now - m.lastClickTime }.base
      (·.refreshFavoritePointableId v)
    done ((holdClick env settings v m).base fun b ↦
      b.drawOverlayForPointable (b.favoritePointable v))

/-- `State_BasicMode_1Pointable_ClickCooldown`. -/
def stateOnePointableClickCooldown :
    StateMachineInput Input → BasicMode leap → HandlerResult State (BasicMode leap)
  | .user .lostFocus, m => goTo noPointablesNoInteraction m
  | .exit, m => done { releaseClick env settings v m with clickDuration := 0 }
  | .enter, m | .user .processFrame, m => clickCooldownFrame env settings v m

/-- The test of the count in `twoPlusPointablesHovering`. -/
def tooFewForScrolling (count : ℕ) : Bool :=
  if settings.disableClicking then count = 0 else count < 2

/-- The frame in `twoPlusPointablesHovering`. -/
def twoPlusPointablesHoveringFrame (m : BasicMode leap) : HandlerResult State (BasicMode leap) :=
  if groupChanges settings v (tooFewForScrolling settings) then transitionToNPointables settings v m
  else
    let m := m.base (·.refreshFavoritePointableId v)
    let favoritePointable := m.favoritePointable v
    if m.favoriteHandId < 0 ∧ leap.pointableIsValid favoritePointable = false then done m
    else
      let m := if m.favoriteHandId < 0 then
          { m with favoriteHandId := leap.handId (leap.handOf favoritePointable) }
        else m
      -- without a hand in view there is just the normal overlay
      if m.favoriteHandId < 0 then
        let m := if settings.useMouseOutput then m
          else m.base (·.addTouchPointForPointable env v m.favoritePointableId favoritePointable
            false true)
        done (m.base (·.drawOverlayForPointable favoritePointable))
      else
        let favoriteHand := leap.hand v.currentFrame m.favoriteHandId
        if leap.handIsValid favoriteHand = false then transitionToNPointables settings v m
        else if FrameState.hasFingersTouching favoriteHand then goTo twoPlusPointablesScrolling m
        else
          let m := if settings.useMouseOutput then m
            else m.base (·.addTouchPointForHand env v favoriteHand false)
          done (m.base (·.trackHand favoriteHand))

/-- `State_BasicMode_2PlusPointables_Hovering`. -/
def stateTwoPlusPointablesHovering :
    StateMachineInput Input → BasicMode leap → HandlerResult State (BasicMode leap)
  | .user .lostFocus, m => goTo noPointablesNoInteraction m
  | .enter, m =>
    let m := { m with favoriteHandId := -1 }.base fun b ↦
      (b.resetFavoritePointableId v).refreshFavoritePointableId v
    if m.favoritePointableId = -1 then done m
    else twoPlusPointablesHoveringFrame env settings v m
  | .user .processFrame, m => twoPlusPointablesHoveringFrame env settings v m
  | .exit, m => unhandled m

/-- The frame in `twoPlusPointablesScrolling`. -/
def scrollingFrame (m : BasicMode leap) : HandlerResult State (BasicMode leap) :=
  let favoriteHand := leap.hand v.currentFrame m.favoriteHandId
  if groupChanges settings v (· = 0) then transitionToNPointables settings v m
  else if leap.handIsValid favoriteHand = false then transitionToNPointables settings v m
  else if FrameState.hasFingersTouching favoriteHand = false then
    transitionToNPointables settings v m
  else
    let m := if settings.useMouseOutput then
        generateScrollBetweenFrames settings v.currentFrame v.sinceFrame m
      else m.base (·.addTouchPointForHand env v favoriteHand true)
    done (m.base (·.trackHand favoriteHand))

/-- `State_BasicMode_2PlusPointables_Scrolling`. -/
def stateTwoPlusPointablesScrolling :
    StateMachineInput Input → BasicMode leap → HandlerResult State (BasicMode leap)
  | .user .lostFocus, m => goTo noPointablesNoInteraction m
  | .enter, m =>
    done (if settings.useMouseOutput then
        (setAbsoluteCursorPositionHand env v m).emit (.beginGesture .scroll)
      else m.base (·.addTouchPointForHand env v (leap.hand v.currentFrame m.favoriteHandId) true))
  | .exit, m =>
    done (if settings.useMouseOutput then m.emit .endGesture
      else m.base (·.addTouchPointForHand env v (leap.hand v.currentFrame m.favoriteHandId) false))
  | .user .processFrame, m => scrollingFrame env settings v m

/-- The frame in `twoHandsHovering`. -/
def twoHandsHoveringFrame (m : BasicMode leap) : HandlerResult State (BasicMode leap) :=
  match multiHand v with
  | none => transitionToNPointables settings v m
  | some (pointable1, pointable2) =>
    if v.collectiveZone = .touching then
      goTo (if settings.useMouseOutput then twoHandsGestureRecognition else twoHandsTouch) m
    else if settings.useMouseOutput then
      done (m.base (·.setAbsoluteCursorPositionPointable env v
        (leap.pointable v.currentFrame pointable1)))
    else
      done (m.base fun b ↦
        (b.addTouchPointForPointable env v pointable1 (leap.pointable v.currentFrame pointable1)
          false false).addTouchPointForPointable env v pointable2
            (leap.pointable v.currentFrame pointable2) false false)

/-- `State_BasicMode_2Hands_Hovering`. -/
def stateTwoHandsHovering :
    StateMachineInput Input → BasicMode leap → HandlerResult State (BasicMode leap)
  | .user .lostFocus, m => goTo noPointablesNoInteraction m
  | .enter, m =>
    twoHandsHoveringFrame env settings v
      ({ m with updateCursor := true }.base (·.resetFavoritePointableId v))
  | .user .processFrame, m => twoHandsHoveringFrame env settings v m
  | .exit, m => unhandled m

/-- The test `m_noTouching && collectiveZone() != ZONE_TOUCHING` of the gesture states. -/
def noLongerTouching : Bool := v.noTouching && v.collectiveZone ≠ .touching

/-- The frame in `twoHandsGestureRecognition`. -/
def twoHandsGestureRecognitionFrame (m : BasicMode leap) :
    HandlerResult State (BasicMode leap) :=
  if shouldBeInMultiHandMode v = false then transitionToNPointables settings v m
  else if noLongerTouching v then goTo twoHandsHovering m
  else if v.now - leap.timestamp m.gestureStart ≥ 20 * MILLISECONDS ∧ v.rtsIs .rotating = true then
    goTo twoHandsRotating m
  else if v.now - leap.timestamp m.gestureStart ≥ 20 * MILLISECONDS ∧ v.rtsIs .scaling = true then
    goTo twoHandsZooming m
  else done m

/-- `State_BasicMode_2Hands_GestureRecognition`. -/
def stateTwoHandsGestureRecognition :
    StateMachineInput Input → BasicMode leap → HandlerResult State (BasicMode leap)
  | .user .lostFocus, m => goTo noPointablesNoInteraction m
  | .enter, m =>
    twoHandsGestureRecognitionFrame settings v
      { m with updateCursor := true, gestureStart := v.currentFrame }
  | .user .processFrame, m => twoHandsGestureRecognitionFrame settings v m
  | .exit, m => unhandled m

/-- The frame in `twoHandsRotating` and `twoHandsZooming`, which apply their movement. -/
def twoHandsGestureFrame (movement : OSCall leap.Scalar) (m : BasicMode leap) :
    HandlerResult State (BasicMode leap) :=
  if shouldBeInMultiHandMode v = false then transitionToNPointables settings v m
  else if noLongerTouching v then goTo twoHandsHovering m
  else done (m.emit movement)

/-- `applyRotation` by the rotation since a frame, negated. -/
def rotation (sinceFrame : leap.Frame) : OSCall leap.Scalar :=
  .applyRotation (-leap.radToDeg * leap.rotationAngle v.currentFrame sinceFrame)

/-- `applyZoom` by the scale factor since a frame. -/
def zoom (sinceFrame : leap.Frame) : OSCall leap.Scalar :=
  .applyZoom (lit 1 + settings.zoomScaleFactor *
    (leap.scaleFactor v.currentFrame sinceFrame - lit 1))

/-- `State_BasicMode_2Hands_Rotating`. -/
def stateTwoHandsRotating :
    StateMachineInput Input → BasicMode leap → HandlerResult State (BasicMode leap)
  | .user .lostFocus, m => goTo noPointablesNoInteraction m
  | .enter, m =>
    done (({ m with updateCursor := true }.emit (.beginGesture .rotate)).emit
      (rotation v m.gestureStart))
  | .exit, m => done (m.emit .endGesture)
  | .user .processFrame, m => twoHandsGestureFrame settings v (rotation v v.sinceFrame) m

/-- `State_BasicMode_2Hands_Zooming`. -/
def stateTwoHandsZooming :
    StateMachineInput Input → BasicMode leap → HandlerResult State (BasicMode leap)
  | .user .lostFocus, m => goTo noPointablesNoInteraction m
  | .enter, m =>
    done (({ m with updateCursor := true }.emit (.beginGesture .zoom)).emit
      (zoom settings v m.gestureStart))
  | .exit, m => done (m.emit .endGesture)
  | .user .processFrame, m => twoHandsGestureFrame settings v (zoom settings v v.sinceFrame) m

/-- The frame in `twoHandsTouch`. It goes on to add touch points after it has requested a
transition. -/
def twoHandsTouchFrame (m : BasicMode leap) : HandlerResult State (BasicMode leap) :=
  match multiHand v with
  | none => transitionToNPointables settings v m
  | some (pointable1, pointable2) =>
    { owner := m.base fun b ↦
        (b.addTouchPointForPointable env v pointable1 (leap.pointable v.currentFrame pointable1)
          true false).addTouchPointForPointable env v pointable2
            (leap.pointable v.currentFrame pointable2) true false
      requests := if v.collectiveZone ≠ .touching then [some twoHandsHovering] else []
      handled := true }

/-- `State_BasicMode_2Hands_Touch`. -/
def stateTwoHandsTouch :
    StateMachineInput Input → BasicMode leap → HandlerResult State (BasicMode leap)
  | .user .lostFocus, m => goTo noPointablesNoInteraction m
  | .enter, m => twoHandsTouchFrame env settings v { m with updateCursor := true }
  | .user .processFrame, m => twoHandsTouchFrame env settings v m
  | .exit, m => unhandled m

/-- The frame in `palmGestureRecognition`. Two requests can follow one another; the last one counts.
-/
def palmGestureRecognitionFrame (m : BasicMode leap) : HandlerResult State (BasicMode leap) where
  owner := m
  requests :=
    (if shouldBeInPalmSwipeMode settings v then [] else [some (nPointables settings v)]) ++
      if v.now - leap.timestamp m.gestureStart ≥ 100 * MILLISECONDS ∧ v.rtsIs .translating = true
      then [some palmSwipe] else []
  handled := true

/-- `State_BasicMode_Palm_GestureRecognition`. -/
def statePalmGestureRecognition :
    StateMachineInput Input → BasicMode leap → HandlerResult State (BasicMode leap)
  | .user .lostFocus, m => goTo noPointablesNoInteraction m
  | .enter, m => palmGestureRecognitionFrame settings v { m with gestureStart := v.currentFrame }
  | .user .processFrame, m => palmGestureRecognitionFrame settings v m
  | .exit, m => done m

/-- `State_BasicMode_Palm_Swipe`. The swipe is applied also when a transition has been requested. -/
def statePalmSwipe :
    StateMachineInput Input → BasicMode leap → HandlerResult State (BasicMode leap)
  | .user .lostFocus, m => goTo noPointablesNoInteraction m
  | .enter, m => done (m.emit (.beginGesture .desktopSwipeHorizontal))
  | .exit, m => done (m.emit .endGesture)
  | .user .processFrame, m =>
    { owner := generateDesktopSwipeBetweenFrames v.currentFrame v.sinceFrame m
      requests := if shouldBeInPalmSwipeMode settings v then [] else [some (nPointables settings v)]
      handled := true }

/-- The state methods. -/
def handlers : Handlers State Input (BasicMode leap)
  | noPointablesNoInteraction => stateNoPointablesNoInteraction settings v
  | onePointableHovering => stateOnePointableHovering env settings v
  | onePointableClickCooldown => stateOnePointableClickCooldown env settings v
  | twoPlusPointablesHovering => stateTwoPlusPointablesHovering env settings v
  | twoPlusPointablesScrolling => stateTwoPlusPointablesScrolling env settings v
  | twoHandsHovering => stateTwoHandsHovering env settings v
  | twoHandsGestureRecognition => stateTwoHandsGestureRecognition settings v
  | twoHandsRotating => stateTwoHandsRotating settings v
  | twoHandsZooming => stateTwoHandsZooming settings v
  | twoHandsTouch => stateTwoHandsTouch env settings v
  | palmGestureRecognition => statePalmGestureRecognition settings v
  | palmSwipe => statePalmSwipe settings v

end Handlers

/-! ### The object -/

/-- The functions of the base class that the mode overrides: none. -/
def overrides (leap : Leap) : FrameState.Overrides leap where
  identifyRelevantPointables := FrameState.identifyRelevantPointables
  identifyCollectivePointableZone := FrameState.identifyCollectivePointableZone
  setForemostPointable := FrameState.setForemostPointable

/-- An object of the class. -/
abbrev Object (leap : Leap) := ModeObject leap State Input (BasicMode leap)

/-- The constructor of the object. -/
def Object.construct (memory : BasicMode leap) : Object leap :=
  ⟨FrameState.construct leap, StateMachine.construct (BasicMode.construct memory)⟩

variable (env : Environment leap) (settings : Settings leap.Scalar) (fuel : ℕ)

/-- `processFrameInternal`. -/
def processFrameInternal (o : Object leap) : Option (Object leap) := do
  let m ← o.machine.ensureInitialized (handlers env settings o.frame) fuel noPointablesNoInteraction
  let m ← m.runCurrentState true (handlers env settings o.frame) fuel .processFrame
  return { o with
    machine := if settings.useMouseOutput then m
      else { m with owner := m.owner.base (·.emitTouchEvent) } }

/-- `processFrame`. -/
def processFrame (o : Object leap) (frame sinceFrame : leap.Frame) : Option (Object leap) :=
  processFrameInternal env settings fuel
    { o with frame := o.frame.processFrame (overrides leap) frame sinceFrame }

/-- `stopActiveEvents`. -/
def stopActiveEvents (o : Object leap) : Option (Object leap) := do
  let m ← o.machine.runCurrentState true (handlers env settings o.frame) fuel .lostFocus
  return { o with machine := m }

/-- The destructor. -/
def destruct (o : Object leap) : Option (Object leap) := do
  let m ← o.machine.shutdown true (handlers env settings o.frame) fuel
  return { o with machine := m }

/-- What the listener calls. -/
def methods : ModeMethods leap (Object leap) where
  processFrame := processFrame env settings fuel
  stopActiveEvents := stopActiveEvents env settings fuel
  destruct := destruct env settings fuel

end BasicMode

end Touchless
