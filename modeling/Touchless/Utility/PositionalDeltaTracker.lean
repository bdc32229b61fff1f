import Touchless.GestureInteraction.Leap

/-!
# The positional delta tracker

`PositionalDeltaTracker` of `Utility/PositionalDeltaTracker.cpp` removes the jumps of the cursor
that come from switching between hands and pointables: it accumulates the difference of the
positions.
-/

namespace Touchless

/-- The members of `PositionalDeltaTracker`. -/
structure PositionalDeltaTracker (F : Type) where
  handId : ℤ
  pointableId : ℤ
  delta : Vector3 F
  position : Vector3 F

namespace PositionalDeltaTracker

variable {F : Type} [Arithmetic F]

/-- `clear`, which the constructor calls. -/
def clear : PositionalDeltaTracker F := ⟨-1, -1, Vector3.zero, Vector3.zero⟩

/-- Does `setPosition` accumulate a delta? -/
def accumulatesDelta (tracker : PositionalDeltaTracker F) (handId pointableId : ℤ) : Bool :=
  if handId = -1 ∨ tracker.handId = -1 then false
  else if handId ≠ tracker.handId then true
  else pointableId ≠ tracker.pointableId

/-- `setPosition`. -/
def setPosition (tracker : PositionalDeltaTracker F) (handId pointableId : ℤ)
    (position : Vector3 F) : PositionalDeltaTracker F :=
  if tracker.handId = -1 ∧ tracker.pointableId = -1 then
    ⟨handId, pointableId, Vector3.zero, position⟩
  else
    { handId := handId
      pointableId := pointableId
      delta := if tracker.accumulatesDelta handId pointableId then
          tracker.position + tracker.delta - position
        else tracker.delta
      position := position }

/-- `getTrackedPosition`. -/
def getTrackedPosition (tracker : PositionalDeltaTracker F) : Vector3 F :=
  tracker.position + tracker.delta

variable {leap : Leap}

/-- `setPositionToStabilizedPositionOf` for a hand; the assertion that it is valid is compiled
out. -/
def setPositionToHand (tracker : PositionalDeltaTracker leap.Scalar) (hand : leap.Hand) :
    PositionalDeltaTracker leap.Scalar :=
  tracker.setPosition (leap.handId hand) (-1) (leap.stabilizedPalmPosition hand)

/-- `setPositionToStabilizedPositionOf` for a pointable. -/
def setPositionToPointable (tracker : PositionalDeltaTracker leap.Scalar)
    (pointable : leap.Pointable) : PositionalDeltaTracker leap.Scalar :=
  tracker.setPosition (leap.handId (leap.handOf pointable)) (leap.pointableId pointable)
    (leap.stabilizedTipPosition pointable)

end PositionalDeltaTracker

end Touchless
