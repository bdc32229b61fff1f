import Touchless.GestureInteraction.GestureInteractionManager

/-!
# The touch peripheral

`TouchPeripheral` of `OSInteraction/TouchPeripheral.cpp`, the interaction mode of a desktop with
touch: every pointable that comes close enough to the screen becomes a touch point. There is no
state machine, and nothing is sent that concerns the button or a gesture.
-/

namespace Touchless

/-- The members that a frame writes. -/
structure TouchPeripheral (leap : Leap) extends Manager leap where
  charmsMode : ℤ

namespace TouchPeripheral

variable {leap : Leap}

/-- An object of the class. -/
structure Object (leap : Leap) where
  frame : FrameState leap
  members : TouchPeripheral leap

/-- The constructor. -/
def Object.construct (leap : Leap) : Object leap where
  frame := .construct leap
  members := { Manager.construct leap with charmsMode := -1 }

/-- `identifyRelevantPointables`: those in a zone that do not point backwards. -/
def identifyRelevantPointables (frame : leap.Frame) : List leap.Pointable :=
  (leap.pointables frame).filter fun p ↦
    !(leap.touchZone p = .none || Arithmetic.lt (lit 0) (leap.pointableDirection p).z)

/-- The functions of the base class that the mode overrides: the relevant pointables. -/
def overrides (leap : Leap) : FrameState.Overrides leap where
  identifyRelevantPointables := identifyRelevantPointables
  identifyCollectivePointableZone := FrameState.identifyCollectivePointableZone
  setForemostPointable := FrameState.setForemostPointable

section Frame

variable (env : Environment leap) (v : FrameState leap)

/-- The charms of Windows 8: those of a pointable that hovers. -/
def charms (aspectNormalized : Vector3 leap.Scalar) (p : leap.Pointable)
    (m : TouchPeripheral leap) :
    TouchPeripheral leap :=
  if env.touchVersion = 8 ∧ env.useCharmHelper = true then
    if leap.touchZone p = .hovering then
      let charmsMode := env.applyCharms aspectNormalized v.relevantPointables.length m.charmsMode
      { m.toManager.emit
          (.applyCharms aspectNormalized v.relevantPointables.length charmsMode) with
        charmsMode := charmsMode }
    else { m with charmsMode := -1 }
  else m

/-- One turn of the loop over the pointables. -/
def visitPointable (m : TouchPeripheral leap) (p : leap.Pointable) : TouchPeripheral leap :=
  let aspect := env.normalizedToAspect (v.normalizePoint (leap.stabilizedTipPosition p) false)
  if leap.pointableId p ≥ 0 ∧ leap.touchZone p ≠ .none ∧
      Arithmetic.le aspect.clampVec.magnitude env.acceptableClampDistance = true then
    let m := charms env v aspect.output p m
    { m.toManager.addTouchPointForPointable env v (leap.pointableId p) p
        (leap.touchZone p = .touching) false with
      charmsMode := m.charmsMode }
  else m

/-- `processFrameInternal`. -/
def processFrameInternal (m : TouchPeripheral leap) : TouchPeripheral leap :=
  if env.touchAvailable then
    let m := if v.relevantPointables.isEmpty then { m with charmsMode := -1 } else m
    let m := v.relevantPointables.foldl (visitPointable env v) m
    { m.toManager.emitTouchEvent with charmsMode := m.charmsMode }
  else m

/-- `processFrame`. -/
def processFrame (o : Object leap) (frame sinceFrame : leap.Frame) : Object leap :=
  let v := o.frame.processFrame (overrides leap) frame sinceFrame
  ⟨v, processFrameInternal env v o.members⟩

end Frame

/-! ### What is sent -/

section Sends

variable {env : Environment leap} {v : FrameState leap} {start : DriverStatus}

theorem track_charms (aspectNormalized : Vector3 leap.Scalar) (p : leap.Pointable)
    (m : TouchPeripheral leap) :
    start.track (charms env v aspectNormalized p m).osCalls = start.track m.osCalls := by
  rw [charms]
  split_ifs
  · show start.track (m.osCalls ++ [.applyCharms _ _ _]) = start.track m.osCalls
    simp only [DriverStatus.track_concat, DriverStatus.step_applyCharms]
    exact Option.bind_fun_some _
  · rfl
  · rfl

theorem track_visitPointable (m : TouchPeripheral leap) (p : leap.Pointable) :
    start.track (visitPointable env v m p).osCalls = start.track m.osCalls := by
  simp only [visitPointable]
  split_ifs
  · simp [track_charms]
  · rfl

/-- **A frame** sends nothing that concerns the button or a gesture. -/
theorem track_processFrame (o : Object leap) (frame sinceFrame : leap.Frame) :
    start.track (processFrame env o frame sinceFrame).members.osCalls =
      start.track o.members.osCalls := by
  have hloop : ∀ (pointables : List leap.Pointable) (m : TouchPeripheral leap),
      start.track (pointables.foldl
        (visitPointable env (o.frame.processFrame (overrides leap) frame sinceFrame)) m).osCalls =
      start.track m.osCalls := by
    intro pointables
    induction pointables with
    | nil => exact fun m ↦ rfl
    | cons p pointables ih => exact fun m ↦ (ih _).trans (track_visitPointable m p)
  simp only [processFrame, processFrameInternal]
  split_ifs
  · rw [Manager.track_emitTouchEvent, hloop]
  · rw [Manager.track_emitTouchEvent, hloop]
  · rfl

end Sends

end TouchPeripheral

end Touchless
