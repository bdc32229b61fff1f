import Touchless.OSInteraction.Clicks
import Touchless.Utility.CategoricalFilter
import Touchless.Utility.PositionalDeltaTracker
import Touchless.Utility.TimedHistory

/-!
# The base class of the interaction modes

`GestureInteractionManager` of `GestureInteraction/GestureInteractionManager.cpp`. Its members come
in two parts. `processFrame` sets those of `FrameState` before it runs the mode's state machine, and
no state handler writes them: handlers get them as an argument they cannot change. The handlers
write the members of `Manager`, which include a log of the calls sent to the OS driver.

The drawing of overlays is left out, except where it moves the positional delta tracker or refreshes
the favorite pointable. How positions map to the screen depends on the monitors: the functions of
the overlay driver are parameters, as is what the OS driver tells about the platform.
-/

namespace Touchless

/-- What the overlay driver computes from a position. -/
structure ScreenPosition (F : Type) where
  /-- the result of the call: is the position close enough to the screen? -/
  isOkay : Bool
  output : Vector3 F
  clampVec : Vector3 F

/-- What the modes read of the overlay driver and of the OS driver. -/
structure Environment (leap : Leap) where
  /-- `normalizedToScreen(position, output, clampVec)` -/
  normalizedToScreen : Vector3 leap.Scalar → ScreenPosition leap.Scalar
  /-- `normalizedToAspect(position, output, clampVec, 1.0f, false)` -/
  normalizedToAspect : Vector3 leap.Scalar → ScreenPosition leap.Scalar
  acceptableClampDistance : leap.Scalar
  touchAvailable : Bool
  touchVersion : ℤ
  useCharmHelper : Bool
  /-- the mode that `applyCharms(aspectNormalized, numPointablesActive, charmsMode)` leaves -/
  applyCharms : Vector3 leap.Scalar → ℤ → ℤ → ℤ

/-- A screen that takes every position as it is, without touch. -/
def Environment.plain (leap : Leap) : Environment leap where
  normalizedToScreen position := ⟨true, position, Vector3.zero⟩
  normalizedToAspect position := ⟨true, position, Vector3.zero⟩
  acceptableClampDistance := lit 0
  touchAvailable := false
  touchVersion := 0
  useCharmHelper := false
  applyCharms _ _ mode := mode

/-- `SECONDS` in microseconds. -/
def SECONDS : ℤ := 1000000

/-- `MILLISECONDS` in microseconds. -/
def MILLISECONDS : ℤ := 1000

/-- `MAX_POINTABLES`. -/
def MAX_POINTABLES : ℕ := 10

/-- The categories of the RTS filter, in their order. -/
inductive RTS where
  | rotating
  | translating
  | scaling
  deriving DecidableEq, Repr

/-- The category with an index. -/
def RTS.ofIndex : ℕ → RTS
  | 0 => rotating
  | 1 => translating
  | _ => scaling

/-- The members that `processFrame` sets for the handlers to read. -/
structure FrameState (leap : Leap) where
  currentFrame : leap.Frame
  sinceFrame : leap.Frame
  timedFrameHistory : TimedHistory leap.Frame
  /-- `m_interactionBox` -/
  box : leap.InteractionBox
  relevantPointables : List leap.Pointable
  collectiveZone : Zone
  filteredPointableCount : CategoricalFilter leap.Scalar
  filteredRTS : CategoricalFilter leap.Scalar
  /-- `m_FPS` -/
  fps : RollingMean leap.Scalar
  foremostPointableId : ℤ
  /-- `m_noTouching`, which every mode sets in the same way -/
  noTouching : Bool

/-- The members that the handlers write, with the log of the calls to the OS driver. -/
structure Manager (leap : Leap) where
  favoritePointableId : ℤ
  positionalDeltaTracker : PositionalDeltaTracker leap.Scalar
  touchEvent : TouchEvent leap.Scalar
  osCalls : List (OSCall leap.Scalar)

variable {leap : Leap}

namespace FrameState

/-- The constructor. The members it does not initialize are set before they are read. -/
def construct (leap : Leap) : FrameState leap where
  currentFrame := leap.invalidFrame
  sinceFrame := leap.invalidFrame
  timedFrameHistory := TimedHistory.construct (500 * MILLISECONDS)
  box := leap.interactionBox leap.invalidFrame
  relevantPointables := []
  collectiveZone := .none
  filteredPointableCount := (CategoricalFilter.construct MAX_POINTABLES (lit (4 / 5))).setWindow
    (lit 16)
  filteredRTS := (CategoricalFilter.construct 3 (lit (9 / 10))).setWindow (lit 2)
  fps := (RollingMean.construct 1).setWindow (lit 5)
  foremostPointableId := -1
  noTouching := true

/-! ### What the handlers read -/

/-- `pointableCountIsUnambiguous`. -/
def pointableCountIsUnambiguous (v : FrameState leap) : Bool :=
  v.filteredPointableCount.filteredCategory.isSome

/-- `pointableCount`; the code calls it only when the count is unambiguous, and throws otherwise. -/
def pointableCount (v : FrameState leap) : ℕ := v.filteredPointableCount.filteredCategory.getD 0

/-- The test `pointableCountIsUnambiguous() && …` on `pointableCount()`. -/
def countIs (v : FrameState leap) (test : ℕ → Bool) : Bool :=
  v.pointableCountIsUnambiguous && test v.pointableCount

theorem countIs_none {v : FrameState leap} (h : v.filteredPointableCount.filteredCategory = none)
    (test : ℕ → Bool) : v.countIs test = false := by
  simp [countIs, pointableCountIsUnambiguous, h]

theorem countIs_some {v : FrameState leap} {count : ℕ}
    (h : v.filteredPointableCount.filteredCategory = some count) (test : ℕ → Bool) :
    v.countIs test = test count := by
  simp [countIs, pointableCountIsUnambiguous, pointableCount, h]

/-- `rtsIsUnambiguous() && rts() == category`. -/
def rtsIs (v : FrameState leap) (category : RTS) : Bool :=
  v.filteredRTS.filteredCategory.map RTS.ofIndex = some category

/-- `m_currentFrame.timestamp()`. -/
def now (v : FrameState leap) : ℤ := leap.timestamp v.currentFrame

/-- The positions in the interaction box, clamped to it unless `clamp` is false. -/
def normalizePoint (v : FrameState leap) (position : Vector3 leap.Scalar) (clamp : Bool) :
    Vector3 leap.Scalar :=
  leap.normalizePoint v.box position clamp

/-- `identifyForemostPointable`: the first of the pointables with the least z. -/
def identifyForemostPointable : List leap.Pointable → ℤ
  | [] => -1
  | first :: rest =>
    leap.pointableId (rest.foldl (fun best p ↦
      if Arithmetic.lt (leap.stabilizedTipPosition p).z (leap.stabilizedTipPosition best).z then p
      else best) first)

/-- `hasFingersTouching`, the same function in two of the modes. -/
def hasFingersTouching (hand : leap.Hand) : Bool :=
  leap.handIsValid hand &&
    (leap.handPointables hand).any fun p ↦ leap.touchZone p = .touching

/-- The hand that two of the modes test for a palm: the one of the foremost pointable, or else the
first of the frame. It may be invalid. -/
def palmHand (v : FrameState leap) : Option leap.Hand :=
  let favoritePointable := leap.pointable v.currentFrame v.foremostPointableId
  if leap.pointableIsValid favoritePointable then some (leap.handOf favoritePointable)
  else (leap.hands v.currentFrame).head?

/-- `scrollDampingFactor`. -/
def scrollDampingFactor (scrollVelocity : Vector3 leap.Scalar) : leap.Scalar :=
  let s := scrollVelocity.magnitude / lit 60
  let r := lit 1 - s
  if Arithmetic.lt s (lit 1) then (lit 2 * r + s) * s * s else lit 1

/-- The translation between two frames with small motions damped out, as all modes compute it;
`flat` drops the z component first. -/
def dampedTranslation (currentFrame sinceFrame : leap.Frame) (flat : Bool) :
    Vector3 leap.Scalar :=
  let translation := leap.translation currentFrame sinceFrame
  let translation := if flat then { translation with z := lit 0 } else translation
  let timeDelta := (lit (leap.timestamp currentFrame - leap.timestamp sinceFrame : ℤ) :
    leap.Scalar) / lit (SECONDS : ℤ)
  translation.scale (scrollDampingFactor (translation.div timeDelta))

/-! ### `processFrame` -/

/-- The functions of the base class that modes override. -/
structure Overrides (leap : Leap) where
  /-- `identifyRelevantPointables` -/
  identifyRelevantPointables : leap.Frame → List leap.Pointable
  /-- `identifyCollectivePointableZone`, given the filter of the count and the relevant
  pointables -/
  identifyCollectivePointableZone : CategoricalFilter leap.Scalar → List leap.Pointable → Zone
  /-- `setForemostPointable`, given the filter of the count and the relevant pointables -/
  setForemostPointable : CategoricalFilter leap.Scalar → List leap.Pointable → ℤ

/-- The first loop of `identifyRelevantPointables`: the best pointable of each hand id. The
pointable it compares with is looked up under the id of the hand, as in the code. -/
def bestPointables (frame : leap.Frame) : OrderedMap ℤ ℤ :=
  (leap.pointables frame).foldl (fun best p ↦
    let handId := leap.handId (leap.handOf p)
    match best.find? handId with
    | none => best.insert handId (leap.pointableId p)
    | some _ =>
      if Arithmetic.lt (leap.tipPosition p).z
          (leap.tipPosition (leap.pointable frame handId)).z then
        best.insert handId (leap.pointableId p)
      else best) OrderedMap.empty

/-- The test of the lambda in `identifyRelevantPointables` that drops a pointable. -/
def isIrrelevant (frame : leap.Frame) (p : leap.Pointable) : Bool :=
  -- `operator[]` makes an entry 0 for a hand without one
  let best := leap.pointable frame
    (((bestPointables frame).find? (leap.handId (leap.handOf p))).getD 0)
  let dz := (leap.tipPosition p).z - (leap.tipPosition best).z
  let dy := (leap.tipPosition p).y - (leap.tipPosition best).y
  leap.touchZone p = .none || Arithmetic.lt (lit 0) (leap.pointableDirection p).z ||
    Arithmetic.lt (lit 50) (lit 160 *
      (lit 1 - (leap.pointableDirection p).dot (leap.pointableDirection best)) +
        Arithmetic.sqrt (dz * dz + dy * dy))

/-- `GestureInteractionManager::identifyRelevantPointables`. -/
def identifyRelevantPointables (frame : leap.Frame) : List leap.Pointable :=
  (leap.pointables frame).filter fun p ↦ !isIrrelevant frame p

/-- `GestureInteractionManager::identifyCollectivePointableZone`. -/
def identifyCollectivePointableZone (count : CategoricalFilter leap.Scalar)
    (pointables : List leap.Pointable) : Zone :=
  if pointables.isEmpty then .none
  else
    let numberTouching := pointables.countP fun p ↦ leap.touchZone p = .touching
    -- where none touches, a settled count of 0 agrees with that
    if count.filteredCategory = some numberTouching ∨ numberTouching ≥ 3 then .touching
    else .hovering

/-- `GestureInteractionManager::setForemostPointable`. -/
def setForemostPointable (count : CategoricalFilter leap.Scalar)
    (pointables : List leap.Pointable) :
    ℤ :=
  match count.filteredCategory with
  | some category =>
    if category = pointables.length then identifyForemostPointable pointables else -1
  | none => identifyForemostPointable pointables

/-- `rtsProbabilityVector`; its assertion is compiled out. -/
def rtsProbabilityVector (history : TimedHistory leap.Frame) (currentFrame : leap.Frame) :
    List leap.Scalar :=
  match history.getFrameHavingAgeAtLeast (20 * MILLISECONDS) with
  | none => CategoricalFilter.ambiguousProbabilityVector 3
  | some (_, sinceFrame) =>
    let v := [leap.rotationProbability currentFrame sinceFrame,
      leap.translationProbability currentFrame sinceFrame,
      leap.scaleProbability currentFrame sinceFrame]
    if Arithmetic.eq (v.foldl (· + ·) (lit 0)) (lit 0) then
      CategoricalFilter.ambiguousProbabilityVector 3
    else v

/-- The update of `m_FPS` in `processFrame`. -/
def updateFPS (fps : RollingMean leap.Scalar) (frame sinceFrame : leap.Frame) :
    RollingMean leap.Scalar :=
  if leap.frameIsValid frame && leap.frameIsValid sinceFrame &&
      decide (leap.timestamp frame > leap.timestamp sinceFrame) then
    fps.update [lit ((SECONDS / (leap.timestamp frame - leap.timestamp sinceFrame) : ℤ) : ℚ)]
      (lit 1)
  else fps

/-- `processFrame` up to the call of `processFrameInternal`, with the `m_noTouching` that the latter
sets first. -/
def processFrame (overrides : Overrides leap) (v : FrameState leap)
    (frame sinceFrame : leap.Frame) :
    FrameState leap :=
  let history := v.timedFrameHistory.addFrame (leap.timestamp frame) frame
  let pointables := overrides.identifyRelevantPointables frame
  let zone := overrides.identifyCollectivePointableZone v.filteredPointableCount pointables
  let fps := updateFPS v.fps frame sinceFrame
  let rate := fps.predict.headD (lit 0)
  let rts := (v.filteredRTS.updateWithProbabilityVector
    (rtsProbabilityVector history frame)).setWindow (rate / lit 20)
  let count := (v.filteredPointableCount.updateWithCategory
    (min pointables.length (MAX_POINTABLES - 1))).setWindow (rate / lit 15)
  { currentFrame := frame
    sinceFrame := sinceFrame
    timedFrameHistory := history
    box := leap.interactionBox frame
    relevantPointables := pointables
    collectiveZone := zone
    filteredPointableCount := count
    filteredRTS := rts
    fps := fps
    foremostPointableId := overrides.setForemostPointable count pointables
    noTouching := pointables.countP (fun p ↦ leap.touchZone p = .touching) = 0 }

/-- The foremost pointable of some is one of them. -/
theorem identifyForemostPointable_mem {pointables : List leap.Pointable} (h : pointables ≠ []) :
    ∃ p ∈ pointables, identifyForemostPointable pointables = leap.pointableId p := by
  obtain ⟨first, rest, rfl⟩ := List.exists_cons_of_ne_nil h
  refine ⟨_, ?_, rfl⟩
  clear h
  induction rest generalizing first with
  | nil => exact List.mem_singleton_self first
  | cons p rest ih =>
    rw [List.foldl_cons]
    split_ifs
    · exact List.mem_cons_of_mem first (ih p)
    · exact List.cons_subset_cons first (List.subset_cons_self p rest) (ih first)

end FrameState

namespace Manager

/-- The constructor. -/
def construct (leap : Leap) : Manager leap where
  favoritePointableId := -1
  positionalDeltaTracker := PositionalDeltaTracker.clear
  touchEvent := OrderedMap.empty
  osCalls := []

variable (env : Environment leap) (v : FrameState leap)

/-- Send a call to the OS driver. -/
def emit (m : Manager leap) (call : OSCall leap.Scalar) : Manager leap :=
  { m with osCalls := m.osCalls ++ [call] }

/-- Begin a new log: the calls have reached the OS driver. -/
def clearCalls (m : Manager leap) : Manager leap := { m with osCalls := [] }

/-- `resetFavoritePointableId`. -/
def resetFavoritePointableId (m : Manager leap) : Manager leap :=
  { m with favoritePointableId := v.foremostPointableId }

/-- What a call of `favoritePointableId()` does before it returns the member. -/
def refreshFavoritePointableId (m : Manager leap) : Manager leap :=
  if m.favoritePointableId < 0 ∨
      leap.pointableIsValid (leap.pointable v.currentFrame m.favoritePointableId) = false then
    m.resetFavoritePointableId v
  else m

/-- `m_currentFrame.pointable(favoritePointableId())`, once the id has been refreshed. -/
def favoritePointable (m : Manager leap) : leap.Pointable :=
  leap.pointable v.currentFrame m.favoritePointableId

/-- `m_positionalDeltaTracker.clear()`. -/
def clearTracker (m : Manager leap) : Manager leap :=
  { m with positionalDeltaTracker := PositionalDeltaTracker.clear }

/-- `m_positionalDeltaTracker.setPositionToStabilizedPositionOf(hand)`. -/
def trackHand (m : Manager leap) (hand : leap.Hand) : Manager leap :=
  { m with positionalDeltaTracker := m.positionalDeltaTracker.setPositionToHand hand }

/-- `m_positionalDeltaTracker.setPositionToStabilizedPositionOf(pointable)`. -/
def trackPointable (m : Manager leap) (pointable : leap.Pointable) : Manager leap :=
  { m with positionalDeltaTracker := m.positionalDeltaTracker.setPositionToPointable pointable }

/-- What `drawOverlayForPointable` does beside drawing. -/
def drawOverlayForPointable (m : Manager leap) (pointable : leap.Pointable) : Manager leap :=
  if leap.pointableIsValid pointable then m.trackPointable pointable else m

/-- Where `setAbsoluteCursorPosition` puts the cursor, if it does. -/
def cursorTarget (deviceCoordinatePosition : Vector3 leap.Scalar) : Option (Vector3 leap.Scalar) :=
  let screen := env.normalizedToScreen (v.normalizePoint deviceCoordinatePosition true)
  if screen.isOkay then some screen.output else none

/-- `setAbsoluteCursorPosition`. -/
def setAbsoluteCursorPosition (m : Manager leap) (deviceCoordinatePosition : Vector3 leap.Scalar) :
    Manager leap :=
  match cursorTarget env v deviceCoordinatePosition with
  | some p => m.emit (.setCursorPosition p.x p.y true)
  | none => m

/-- `setAbsoluteCursorPositionHand`, also under the name that `FingerMouse` gives it. -/
def setAbsoluteCursorPositionHand (m : Manager leap) (hand : leap.Hand) : Manager leap :=
  if leap.handIsValid hand then
    let m := m.trackHand hand
    m.setAbsoluteCursorPosition env v m.positionalDeltaTracker.getTrackedPosition
  else m

/-- `setAbsoluteCursorPositionPointable`, also under the name that `FingerMouse` gives it. -/
def setAbsoluteCursorPositionPointable (m : Manager leap) (pointable : leap.Pointable) :
    Manager leap :=
  if leap.pointableIsValid pointable then
    let m := m.trackPointable pointable
    m.setAbsoluteCursorPosition env v m.positionalDeltaTracker.getTrackedPosition
  else m

/-- The screen position that `setAbsoluteCursorPositionPointable` stores, or the old one. -/
def calculatedScreenPosition (m : Manager leap) (pointable : leap.Pointable)
    (old : Vector3 leap.Scalar) : Vector3 leap.Scalar :=
  if leap.pointableIsValid pointable then
    (cursorTarget env v
      (m.trackPointable pointable).positionalDeltaTracker.getTrackedPosition).getD old
  else old

/-- The conversion to `uint32_t`. -/
def toUInt32 (id : ℤ) : ℕ := (id % 2 ^ 32).toNat

/-- `addTouchPoint`, with the test for the border of the screen that its callers make. -/
def addTouchPoint (m : Manager leap) (touchId frameId : ℤ) (position : Vector3 leap.Scalar)
    (touching : Bool) : Manager leap :=
  let screen := env.normalizedToScreen (v.normalizePoint position true)
  if Arithmetic.eq screen.clampVec.magnitudeSquared (lit 0) then
    { m with
      touchEvent := m.touchEvent.insertNew
        ⟨toUInt32 touchId, toUInt32 frameId, screen.output.x, screen.output.y, touching⟩ }
  else m

/-- `addTouchPointForHand`. -/
def addTouchPointForHand (m : Manager leap) (hand : leap.Hand) (touching : Bool) : Manager leap :=
  if leap.handIsValid hand then
    let m := m.trackHand hand
    m.addTouchPoint env v (leap.handId hand) (leap.handFrameId hand)
      m.positionalDeltaTracker.getTrackedPosition touching
  else m

/-- `addTouchPointForPointable`. -/
def addTouchPointForPointable (m : Manager leap) (touchId : ℤ) (pointable : leap.Pointable)
    (touching deltaTracked : Bool) : Manager leap :=
  if leap.pointableIsValid pointable then
    let m := if deltaTracked then m.trackPointable pointable else m
    m.addTouchPoint env v touchId (leap.pointableFrameId pointable)
      (if deltaTracked then m.positionalDeltaTracker.getTrackedPosition
        else leap.stabilizedTipPosition pointable) touching
  else m

/-- `emitTouchEvent`. -/
def emitTouchEvent (m : Manager leap) : Manager leap :=
  { m.emit (.emitTouchEvent m.touchEvent) with touchEvent := OrderedMap.empty }

/-! ### What the helpers send

None of the helpers touches the button or a gesture. -/

section Quiet

variable {env v} {m : Manager leap} {start : DriverStatus}

@[simp]
theorem osCalls_emit (call : OSCall leap.Scalar) :
    (m.emit call).osCalls = m.osCalls ++ [call] := rfl

@[simp]
theorem osCalls_resetFavoritePointableId : (m.resetFavoritePointableId v).osCalls = m.osCalls := rfl

@[simp]
theorem osCalls_refreshFavoritePointableId :
    (m.refreshFavoritePointableId v).osCalls = m.osCalls := by
  rw [refreshFavoritePointableId]
  split_ifs <;> rfl

@[simp]
theorem osCalls_clearTracker : m.clearTracker.osCalls = m.osCalls := rfl

@[simp]
theorem osCalls_trackHand (hand : leap.Hand) : (m.trackHand hand).osCalls = m.osCalls := rfl

@[simp]
theorem osCalls_trackPointable (pointable : leap.Pointable) :
    (m.trackPointable pointable).osCalls = m.osCalls := rfl

@[simp]
theorem osCalls_drawOverlayForPointable (pointable : leap.Pointable) :
    (m.drawOverlayForPointable pointable).osCalls = m.osCalls := by
  rw [drawOverlayForPointable]
  split_ifs <;> rfl

@[simp]
theorem osCalls_addTouchPoint (touchId frameId : ℤ) (position : Vector3 leap.Scalar)
    (touching : Bool) : (m.addTouchPoint env v touchId frameId position touching).osCalls =
      m.osCalls := by
  simp only [addTouchPoint]
  split_ifs <;> rfl

@[simp]
theorem osCalls_addTouchPointForHand (hand : leap.Hand) (touching : Bool) :
    (m.addTouchPointForHand env v hand touching).osCalls = m.osCalls := by
  rw [addTouchPointForHand]
  split_ifs <;> simp

@[simp]
theorem osCalls_addTouchPointForPointable (touchId : ℤ) (pointable : leap.Pointable)
    (touching deltaTracked : Bool) :
    (m.addTouchPointForPointable env v touchId pointable touching deltaTracked).osCalls =
      m.osCalls := by
  rw [addTouchPointForPointable]
  split_ifs <;> simp

@[simp]
theorem track_setAbsoluteCursorPosition (position : Vector3 leap.Scalar) :
    start.track (m.setAbsoluteCursorPosition env v position).osCalls =
      start.track m.osCalls := by
  rw [setAbsoluteCursorPosition]
  cases cursorTarget env v position with
  | none => rfl
  | some p => cases h : start.track m.osCalls <;> simp [h]

@[simp]
theorem track_setAbsoluteCursorPositionHand (hand : leap.Hand) :
    start.track (m.setAbsoluteCursorPositionHand env v hand).osCalls = start.track m.osCalls := by
  rw [setAbsoluteCursorPositionHand]
  split_ifs <;> simp

@[simp]
theorem track_setAbsoluteCursorPositionPointable (pointable : leap.Pointable) :
    start.track (m.setAbsoluteCursorPositionPointable env v pointable).osCalls =
      start.track m.osCalls := by
  rw [setAbsoluteCursorPositionPointable]
  split_ifs <;> simp

@[simp]
theorem clicks_setAbsoluteCursorPosition (position : Vector3 leap.Scalar) :
    clicks (m.setAbsoluteCursorPosition env v position).osCalls = clicks m.osCalls := by
  rw [setAbsoluteCursorPosition]
  cases cursorTarget env v position with
  | none => rfl
  | some p => simp [clicks_singleton, OSCall.isClick]

@[simp]
theorem clicks_setAbsoluteCursorPositionHand (hand : leap.Hand) :
    clicks (m.setAbsoluteCursorPositionHand env v hand).osCalls = clicks m.osCalls := by
  rw [setAbsoluteCursorPositionHand]
  split_ifs <;> simp

@[simp]
theorem clicks_setAbsoluteCursorPositionPointable (pointable : leap.Pointable) :
    clicks (m.setAbsoluteCursorPositionPointable env v pointable).osCalls = clicks m.osCalls := by
  rw [setAbsoluteCursorPositionPointable]
  split_ifs <;> simp

@[simp]
theorem clicks_emitTouchEvent : clicks m.emitTouchEvent.osCalls = clicks m.osCalls := by
  simp [emitTouchEvent, clicks_singleton, OSCall.isClick]

@[simp]
theorem track_emitTouchEvent :
    start.track m.emitTouchEvent.osCalls = start.track m.osCalls := by
  cases h : start.track m.osCalls <;> simp [emitTouchEvent, h]

end Quiet

end Manager

end Touchless
