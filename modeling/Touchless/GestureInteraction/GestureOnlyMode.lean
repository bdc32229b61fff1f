import Touchless.GestureInteraction.ModeObject

/-!
# Gesture-only mode

`GestureOnlyMode` of `GestureInteraction/GestureOnlyMode.cpp`: no cursor, only gestures. Every frame
falls into one of four buckets by its number of pointables, and the state machine gets an input when
one bucket holds most of the last frames, then one that tells whether something touches, and then
the frame itself.

Left out are members that only the drawing of overlays reads.
-/

namespace Touchless

namespace GestureOnlyMode

/-- `PointableCountBucketCategory`. -/
inductive Category where
  | two
  | threePlus
  | other
  | palm
  deriving DecidableEq, Repr

end GestureOnlyMode

/-- The members that the frames and the state handlers of `GestureOnlyMode` write. -/
structure GestureOnlyMode (leap : Leap) extends Manager leap where
  justScrolled : Bool
  gestureStart : leap.Frame
  cooldownStartTime : ℤ
  timedCountHistory : TimedHistory GestureOnlyMode.Category
  favoriteHandId : ℤ

namespace GestureOnlyMode

/-- The state methods. -/
inductive State where
  /-- `State_GestureRecognition` -/
  | gestureRecognition
  /-- `State_Cooldown` -/
  | cooldown
  /-- `State_2Fingers_Hovering` -/
  | twoFingersHovering
  /-- `State_2Fingers_Scrolling` -/
  | twoFingersScrolling
  /-- `State_3PlusFingers_SwipeVertical` -/
  | threePlusFingersSwipeVertical
  /-- `State_3PlusFingers_SwipeHorizontal` -/
  | threePlusFingersSwipeHorizontal
  /-- `State_Palm_Swipe` -/
  | palmSwipe
  deriving DecidableEq, Repr

/-- The inputs of the state machine. -/
inductive Input where
  /-- `OMGO__PROCESS_FRAME` -/
  | processFrame
  /-- `OMGO__LOST_FOCUS` -/
  | lostFocus
  /-- `OMGO__COUNT_UNCERTAIN` -/
  | countUncertain
  /-- `OMGO__COUNT_TWO` -/
  | countTwo
  /-- `OMGO__COUNT_THREEPLUS` -/
  | countThreePlus
  /-- `OMGO__COUNT_OTHER` -/
  | countOther
  /-- `OMGO__COUNT_PALM` -/
  | countPalm
  /-- `OMGO__TOUCHING` -/
  | touching
  /-- `OMGO__NOT_TOUCHING` -/
  | notTouching
  deriving DecidableEq, Repr

/-- `GestureRecognitionDuration`. -/
def gestureRecognitionDuration : ℤ := 100 * MILLISECONDS

open State

variable {leap : Leap}

/-- `TranslationScaleFactor`. -/
def translationScaleFactor : leap.Scalar := lit (3 / 2)

/-- `BUCKET_THRESHOLD`. -/
def bucketThreshold : leap.Scalar := lit (3 / 4)

/-- `BUCKET_THRESHOLD_LOW`. -/
def bucketThresholdLow : leap.Scalar := lit (1 / 2)

/-- Memory that is zero. -/
def blank (leap : Leap) : GestureOnlyMode leap where
  toManager := Manager.construct leap
  justScrolled := false
  gestureStart := leap.invalidFrame
  cooldownStartTime := 0
  timedCountHistory := TimedHistory.construct 0
  favoriteHandId := 0

/-- The constructor. Members it does not initialize keep what is in memory. -/
def construct (memory : GestureOnlyMode leap) : GestureOnlyMode leap :=
  { memory with
    toManager := Manager.construct leap
    justScrolled := false
    gestureStart := leap.invalidFrame
    timedCountHistory := TimedHistory.construct (500 * MILLISECONDS)
    favoriteHandId := -1 }

/-- Run a method of the base class. -/
def base (m : GestureOnlyMode leap) (f : Manager leap → Manager leap) : GestureOnlyMode leap :=
  { m with toManager := f m.toManager }

/-- Send a call to the OS driver. -/
def emit (m : GestureOnlyMode leap) (call : OSCall leap.Scalar) : GestureOnlyMode leap :=
  m.base (·.emit call)

section Handlers

variable (env : Environment leap) (v : FrameState leap)

/-! ### Helpers -/

/-- `generateScrollBetweenFrames`. -/
def generateScrollBetweenFrames (currentFrame sinceFrame : leap.Frame) (m : GestureOnlyMode leap) :
    GestureOnlyMode leap :=
  let translation := FrameState.dampedTranslation currentFrame sinceFrame true
  m.emit (.applyScroll (translationScaleFactor * translation.x)
    (-translationScaleFactor * translation.y)
    (leap.timestamp currentFrame - leap.timestamp sinceFrame))

/-- `generateDesktopSwipeBetweenFrames`. -/
def generateDesktopSwipeBetweenFrames (currentFrame sinceFrame : leap.Frame)
    (m : GestureOnlyMode leap) : GestureOnlyMode leap :=
  let translation := FrameState.dampedTranslation currentFrame sinceFrame false
  m.emit (.applyDesktopSwipe translation.x (-translation.y))

/-- `shouldBeInPalmSwipeMode`. -/
def shouldBeInPalmSwipeMode : Bool :=
  match v.palmHand with
  | none => false
  | some hand =>
    leap.handIsValid hand && Arithmetic.le (lit (3 / 4)) (Arithmetic.abs (leap.palmNormal hand).x)

/-! ### The states -/

/-- What three and more pointables request, given the frame at the beginning of the window: they
must have gone 50 mm, more across than towards the screen, and twice as far one way as the other. -/
def recognizedSwipe (frame : leap.Frame) : List (Option State) :=
  let translation := leap.translation v.currentFrame frame
  let distance := Arithmetic.sqrt (translation.x * translation.x + translation.y * translation.y)
  if Arithmetic.le (lit 50) distance &&
      Arithmetic.lt (lit 2 * Arithmetic.abs translation.z) distance then
    if Arithmetic.lt (lit 2 * Arithmetic.abs translation.y + lit 1)
        (Arithmetic.abs translation.x) then
      [some threePlusFingersSwipeHorizontal]
    else if Arithmetic.lt (lit 2 * Arithmetic.abs translation.x + lit 1)
        (Arithmetic.abs translation.y) then
      [some threePlusFingersSwipeVertical]
    else []
  else []

/-- `State_GestureRecognition`. Whatever the input is, the members are reset first, and nothing
happens while there is not enough history. -/
def stateGestureRecognition (input : StateMachineInput Input) (m : GestureOnlyMode leap) :
    HandlerResult State (GestureOnlyMode leap) :=
  let m := { m.base (·.clearTracker) with justScrolled := false }
  match v.timedFrameHistory.getFrameHavingAgeAtLeast gestureRecognitionDuration with
  | none => done m
  | some (_, frame) =>
    match input with
    | .user .countPalm => goTo palmSwipe m
    | .user .countTwo => goTo twoFingersHovering { m with gestureStart := frame }
    | .user .countThreePlus => { owner := m, requests := recognizedSwipe v frame, handled := true }
    | _ => done m

/-- The frame in `cooldown`. -/
def cooldownFrame (m : GestureOnlyMode leap) : HandlerResult State (GestureOnlyMode leap) :=
  if v.now - m.cooldownStartTime ≥ 500 * MILLISECONDS then goTo gestureRecognition m else done m

/-- `State_Cooldown`. -/
def stateCooldown :
    StateMachineInput Input → GestureOnlyMode leap → HandlerResult State (GestureOnlyMode leap)
  | .user .lostFocus, m => goTo gestureRecognition m
  | .enter, m => cooldownFrame v { m with cooldownStartTime := v.now }
  | .user .processFrame, m => cooldownFrame v m
  | _, m => done m

/-- The frame in `twoFingersHovering`, which only follows the favorite hand. -/
def twoFingersHoveringFrame (m : GestureOnlyMode leap) :
    HandlerResult State (GestureOnlyMode leap) :=
  let m := m.base (·.refreshFavoritePointableId v)
  let favoritePointable := m.favoritePointable v
  if leap.pointableIsValid favoritePointable = false then done m
  else
    let hand := leap.handOf favoritePointable
    let m := if m.favoriteHandId < 0 ∧ leap.handIsValid hand = true then
        { m with favoriteHandId := leap.handId hand }
      else m
    -- the favorite hand is kept until the state is left, be it in view or not
    if m.favoriteHandId < 0 then done (m.base (·.trackPointable favoritePointable))
    else done (m.base (·.trackHand (leap.hand v.currentFrame m.favoriteHandId)))

/-- `State_2Fingers_Hovering`. -/
def stateTwoFingersHovering :
    StateMachineInput Input → GestureOnlyMode leap → HandlerResult State (GestureOnlyMode leap)
  | .user .lostFocus, m => goTo gestureRecognition m
  | .enter, m =>
    let m := m.base fun b ↦ (b.resetFavoritePointableId v).refreshFavoritePointableId v
    let hand := leap.handOf (m.favoritePointable v)
    done { m with favoriteHandId := if leap.handIsValid hand then leap.handId hand else -1 }
  | .user .touching, m => goTo twoFingersScrolling m
  -- after a scroll there is a cooldown before anything else is recognized
  | .user .countOther, m | .user .countPalm, m | .user .countThreePlus, m
  | .user .countUncertain, m => goTo (if m.justScrolled then cooldown else gestureRecognition) m
  | .user .processFrame, m => twoFingersHoveringFrame v m
  | _, m => done m

/-- The cursor on entering `twoFingersScrolling`: at the favorite hand, or else at the hand of the
favorite pointable, or else at the pointable. -/
def moveCursor (m : GestureOnlyMode leap) : GestureOnlyMode leap :=
  let favoriteHand := leap.hand v.currentFrame m.favoriteHandId
  let m := m.base (·.refreshFavoritePointableId v)
  let favoritePointable := m.favoritePointable v
  let hand := leap.handOf favoritePointable
  if leap.handIsValid favoriteHand then m.base (·.setAbsoluteCursorPositionHand env v favoriteHand)
  else if leap.handIsValid hand then
    { m with favoriteHandId := leap.handId hand }.base (·.setAbsoluteCursorPositionHand env v hand)
  else m.base (·.setAbsoluteCursorPositionPointable env v favoritePointable)

/-- The frame in `twoFingersScrolling`. -/
def scrollingFrame (m : GestureOnlyMode leap) : HandlerResult State (GestureOnlyMode leap) :=
  let favoriteHand := leap.hand v.currentFrame m.favoriteHandId
  let m := generateScrollBetweenFrames v.currentFrame v.sinceFrame
    (m.base (·.refreshFavoritePointableId v))
  if leap.handIsValid favoriteHand then done (m.base (·.trackHand favoriteHand))
  else done (m.base fun b ↦ b.trackPointable (b.favoritePointable v))

/-- `State_2Fingers_Scrolling`. -/
def stateTwoFingersScrolling :
    StateMachineInput Input → GestureOnlyMode leap → HandlerResult State (GestureOnlyMode leap)
  | .user .lostFocus, m => goTo gestureRecognition m
  | .enter, m =>
    done ((moveCursor env v { m with justScrolled := true }).emit (.beginGesture .scroll))
  | .exit, m => done (m.emit .endGesture)
  | .user .notTouching, m => goTo twoFingersHovering m
  | .user .countUncertain, m | .user .countThreePlus, m | .user .countOther, m
  | .user .countPalm, m => goTo gestureRecognition m
  | .user .processFrame, m => scrollingFrame v m
  | _, m => done m

/-- The frame in the swipes of three and more fingers: the swipe is applied at once, and is over. -/
def swipeFrame (m : GestureOnlyMode leap) : HandlerResult State (GestureOnlyMode leap) :=
  match v.timedFrameHistory.getFrameHavingAgeAtLeast (100 * MILLISECONDS) with
  | some (_, frame) => goTo cooldown (generateDesktopSwipeBetweenFrames v.currentFrame frame m)
  | none => done m

/-- The swipes of three and more fingers. -/
def stateSwipe (gestureType : GestureType) :
    StateMachineInput Input → GestureOnlyMode leap → HandlerResult State (GestureOnlyMode leap)
  | .user .lostFocus, m => goTo gestureRecognition m
  | .enter, m => swipeFrame v (m.emit (.beginGesture gestureType))
  | .user .processFrame, m => swipeFrame v m
  | .exit, m => done (m.emit .endGesture)
  | _, m => done m

/-- `State_3PlusFingers_SwipeVertical`. -/
def stateThreePlusFingersSwipeVertical :
    StateMachineInput Input → GestureOnlyMode leap → HandlerResult State (GestureOnlyMode leap) :=
  stateSwipe v .desktopSwipeVertical

/-- `State_3PlusFingers_SwipeHorizontal`. -/
def stateThreePlusFingersSwipeHorizontal :
    StateMachineInput Input → GestureOnlyMode leap → HandlerResult State (GestureOnlyMode leap) :=
  stateSwipe v .desktopSwipeHorizontal

/-- The swipe that a palm has made when it leaves: the movement in the 100 ms before the 50 ms that
it takes to notice. -/
def applyPalmSwipe (m : GestureOnlyMode leap) : GestureOnlyMode leap :=
  match v.timedFrameHistory.getFrameHavingAgeAtLeast (150 * MILLISECONDS),
    v.timedFrameHistory.getFrameHavingAgeAtLeast (50 * MILLISECONDS) with
  | some (_, since), some (_, current) => generateDesktopSwipeBetweenFrames current since m
  | _, _ => m

/-- `State_Palm_Swipe`. -/
def statePalmSwipe :
    StateMachineInput Input → GestureOnlyMode leap → HandlerResult State (GestureOnlyMode leap)
  | .user .lostFocus, m => goTo gestureRecognition m
  | .enter, m => done (m.emit (.beginGesture .desktopSwipeHorizontal))
  | .exit, m => done ((applyPalmSwipe v m).emit .endGesture)
  | .user .countUncertain, m | .user .countTwo, m | .user .countThreePlus, m
  | .user .countOther, m => goTo cooldown m
  | _, m => done m

/-- The state methods. -/
def handlers : Handlers State Input (GestureOnlyMode leap)
  | gestureRecognition => stateGestureRecognition v
  | cooldown => stateCooldown v
  | twoFingersHovering => stateTwoFingersHovering v
  | twoFingersScrolling => stateTwoFingersScrolling env v
  | threePlusFingersSwipeVertical => stateThreePlusFingersSwipeVertical v
  | threePlusFingersSwipeHorizontal => stateThreePlusFingersSwipeHorizontal v
  | palmSwipe => statePalmSwipe v

end Handlers

/-! ### The buckets -/

/-- The category of a frame. -/
def categoryOf (v : FrameState leap) : Category :=
  if shouldBeInPalmSwipeMode v then .palm
  else if 0 < v.relevantPointables.length ∧ v.relevantPointables.length ≤ 2 then .two
  else if v.relevantPointables.length > 2 then .threePlus
  else .other

/-- `m_pointableCountBucket`: the share of a category in the last 100 ms. -/
def bucket (m : GestureOnlyMode leap) (category : Category) : leap.Scalar :=
  match m.timedCountHistory.getFrameHavingAgeAtLeast gestureRecognitionDuration with
  | some _ =>
    let window := m.timedCountHistory.framesYoungerThan gestureRecognitionDuration
    lit (window.countP fun entry ↦ entry.2 = category : ℕ) / lit (window.length : ℕ)
  | none => if category = .other then lit 1 else lit 0

/-- The input that the buckets give, if they give one. -/
def countInput (m : GestureOnlyMode leap) : Option Input :=
  if Arithmetic.le bucketThreshold (m.bucket .two) then some .countTwo
  else if Arithmetic.le bucketThreshold (m.bucket .threePlus) then some .countThreePlus
  else if Arithmetic.le bucketThreshold (m.bucket .other) then some .countOther
  else if Arithmetic.le bucketThreshold (m.bucket .palm) then some .countPalm
  else if [Category.two, .threePlus, .other, .palm].all fun category ↦
      Arithmetic.lt (m.bucket category) bucketThresholdLow then some .countUncertain
  else none

/-! ### The object -/

/-- `identifyRelevantPointables`, which also drops the pointables that point up or down. -/
def identifyRelevantPointables (frame : leap.Frame) : List leap.Pointable :=
  (leap.pointables frame).filter fun p ↦ !(FrameState.isIrrelevant frame p ||
    Arithmetic.lt (lit (3 / 5)) (Arithmetic.abs (leap.pointableDirection p).y))

/-- The functions of the base class that the mode overrides. -/
def overrides (leap : Leap) : FrameState.Overrides leap where
  identifyRelevantPointables := identifyRelevantPointables
  identifyCollectivePointableZone := FrameState.identifyCollectivePointableZone
  setForemostPointable _ := FrameState.identifyForemostPointable

/-- An object of the class. -/
abbrev Object (leap : Leap) := ModeObject leap State Input (GestureOnlyMode leap)

/-- The constructor of the object. -/
def Object.construct (memory : GestureOnlyMode leap) : Object leap :=
  ⟨FrameState.construct leap, StateMachine.construct (GestureOnlyMode.construct memory)⟩

/-- `m_timedCountHistory.addFrame(m_currentFrame.timestamp(), category)`. -/
def addCategory (v : FrameState leap) (m : GestureOnlyMode leap) : GestureOnlyMode leap :=
  { m with timedCountHistory := m.timedCountHistory.addFrame v.now (categoryOf v) }

/-- Does the test for `OMGO__TOUCHING` get to its second half, which asks for the favorite
pointable?
-/
def asksFavoritePointable (v : FrameState leap) (m : GestureOnlyMode leap) : Bool :=
  let hand := leap.hand v.currentFrame m.favoriteHandId
  !v.noTouching && !FrameState.hasFingersTouching hand && !leap.handIsValid hand

/-- What the test does to the favorite pointable. -/
def refreshForTouch (v : FrameState leap) (m : GestureOnlyMode leap) : GestureOnlyMode leap :=
  if asksFavoritePointable v m then m.base (·.refreshFavoritePointableId v) else m

/-- The input that tells whether something touches, if there is one, after the test. -/
def touchInput (v : FrameState leap) (m : GestureOnlyMode leap) : Option Input :=
  let hand := leap.hand v.currentFrame m.favoriteHandId
  if v.noTouching then some .notTouching
  else if FrameState.hasFingersTouching hand ||
      (!leap.handIsValid hand && leap.touchZone (m.favoritePointable v) = .touching) then
    some .touching
  else none

variable (env : Environment leap) (fuel : ℕ)

/-- `processFrameInternal`. -/
def processFrameInternal (o : Object leap) : Option (Object leap) := do
  let o ← (o.mapOwner (addCategory o.frame)).ensureInitialized (handlers env) fuel
    gestureRecognition
  let o ← o.runInput (handlers env) fuel (countInput o.machine.owner)
  let o := o.mapOwner (refreshForTouch o.frame)
  let o ← o.runInput (handlers env) fuel (touchInput o.frame o.machine.owner)
  o.runCurrentState (handlers env) fuel .processFrame

/-- `processFrame`. -/
def processFrame (o : Object leap) (frame sinceFrame : leap.Frame) : Option (Object leap) :=
  processFrameInternal env fuel
    { o with frame := o.frame.processFrame (overrides leap) frame sinceFrame }

/-- `stopActiveEvents`. -/
def stopActiveEvents (o : Object leap) : Option (Object leap) :=
  o.runCurrentState (handlers env) fuel .lostFocus

/-- The destructor. -/
def destruct (o : Object leap) : Option (Object leap) :=
  o.shutdown (handlers env) fuel

/-- What the listener calls. -/
def methods : ModeMethods leap (Object leap) where
  processFrame := processFrame env fuel
  stopActiveEvents := stopActiveEvents env fuel
  destruct := destruct env fuel

end GestureOnlyMode

end Touchless
