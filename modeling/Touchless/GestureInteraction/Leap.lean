import Touchless.Foundations.Arithmetic

/-!
# The SDK of the device

What the gesture interaction reads through `Leap.h`: frames, their hands and pointables, and the
motion between two frames. The SDK is not part of the repository, so its types are parameters and
its accessors arbitrary functions. What the program relies on is stated where a result needs it.
-/

namespace Touchless

/-- `Pointable::Zone`; the numbers of the enumeration are 0, 1 and 2. -/
inductive Zone where
  | none
  | hovering
  | touching
  deriving DecidableEq, Repr

/-- `ZONE_NONE = 0, ZONE_HOVERING = 1, ZONE_TOUCHING = 2`. -/
def Zone.toNat : Zone → ℕ
  | .none => 0
  | .hovering => 1
  | .touching => 2

/-- The accessors of the SDK. Times are in microseconds; an object that does not exist is an object
that is not valid. -/
structure Leap where
  /-- `float` and `double` -/
  Scalar : Type
  [arithmetic : Arithmetic Scalar]
  Frame : Type
  Hand : Type
  Pointable : Type
  InteractionBox : Type
  /-- `RAD_TO_DEG` -/
  radToDeg : Scalar
  /-- `InteractionBox::normalizePoint(position, clamp)` -/
  normalizePoint : InteractionBox → Vector3 Scalar → Bool → Vector3 Scalar
  /-- `Frame()` -/
  invalidFrame : Frame
  /-- `Pointable()` -/
  invalidPointable : Pointable
  frameIsValid : Frame → Bool
  frameId : Frame → ℤ
  timestamp : Frame → ℤ
  interactionBox : Frame → InteractionBox
  hands : Frame → List Hand
  pointables : Frame → List Pointable
  /-- `Frame::hand(id)` -/
  hand : Frame → ℤ → Hand
  /-- `Frame::pointable(id)` -/
  pointable : Frame → ℤ → Pointable
  /-- `Frame::translation(sinceFrame)` -/
  translation : Frame → Frame → Vector3 Scalar
  /-- `Frame::rotationAngle(sinceFrame, Vector::zAxis())` -/
  rotationAngle : Frame → Frame → Scalar
  scaleFactor : Frame → Frame → Scalar
  rotationProbability : Frame → Frame → Scalar
  translationProbability : Frame → Frame → Scalar
  scaleProbability : Frame → Frame → Scalar
  handIsValid : Hand → Bool
  handId : Hand → ℤ
  /-- `Hand::frame().id()` -/
  handFrameId : Hand → ℤ
  handPointables : Hand → List Pointable
  handDirection : Hand → Vector3 Scalar
  palmNormal : Hand → Vector3 Scalar
  palmPosition : Hand → Vector3 Scalar
  stabilizedPalmPosition : Hand → Vector3 Scalar
  pointableIsValid : Pointable → Bool
  pointableId : Pointable → ℤ
  /-- `Pointable::frame().id()` -/
  pointableFrameId : Pointable → ℤ
  /-- `Pointable::hand()` -/
  handOf : Pointable → Hand
  touchZone : Pointable → Zone
  pointableDirection : Pointable → Vector3 Scalar
  tipPosition : Pointable → Vector3 Scalar
  stabilizedTipPosition : Pointable → Vector3 Scalar

instance (leap : Leap) : Arithmetic leap.Scalar := leap.arithmetic

/-- The law of the SDK that the program relies on: the hand that a valid pointable of a frame names
is a valid hand of that frame, unless its id is negative. -/
def Leap.HandsOfPointablesExist (leap : Leap) : Prop :=
  ∀ frame id, leap.pointableIsValid (leap.pointable frame id) = true →
    0 ≤ leap.handId (leap.handOf (leap.pointable frame id)) →
    leap.handIsValid (leap.hand frame (leap.handId (leap.handOf (leap.pointable frame id)))) = true

/-- What the program relies on beside it: valid hands and pointables have ids that are not negative,
and the pointables of a frame can be looked up. -/
structure Leap.Lookups (leap : Leap) : Prop where
  handsExist : leap.HandsOfPointablesExist
  handIds : ∀ hand, leap.handIsValid hand = true → 0 ≤ leap.handId hand
  pointableIds : ∀ p, leap.pointableIsValid p = true → 0 ≤ leap.pointableId p
  pointablesExist : ∀ frame, ∀ p ∈ leap.pointables frame,
    leap.pointableIsValid (leap.pointable frame (leap.pointableId p)) = true

/-! ### A device to run examples on -/

/-- A device whose frames have a time and a number of fingers of one hand, all of which touch. -/
def fingerLeap : Leap where
  Scalar := ℚ
  arithmetic := rationalArithmetic id
  Frame := ℤ × ℕ
  Hand := ℕ
  Pointable := ℕ × ℕ
  InteractionBox := Unit
  radToDeg := 57
  normalizePoint _ position _ := position
  invalidFrame := (-1, 0)
  invalidPointable := (0, 0)
  frameIsValid frame := 0 ≤ frame.1
  frameId _ := 0
  timestamp frame := frame.1
  interactionBox _ := ()
  hands frame := if 0 < frame.2 then [frame.2] else []
  pointables frame := (List.range frame.2).map fun i ↦ (i, frame.2)
  hand frame id := if id = 0 then frame.2 else 0
  pointable frame id := if 0 ≤ id ∧ id < frame.2 then (id.toNat, frame.2) else (0, 0)
  translation _ _ := ⟨0, 0, 0⟩
  rotationAngle _ _ := 0
  scaleFactor _ _ := 1
  rotationProbability _ _ := 0
  translationProbability _ _ := 0
  scaleProbability _ _ := 0
  handIsValid fingers := 0 < fingers
  handId fingers := if 0 < fingers then 0 else -1
  handFrameId _ := 0
  handPointables fingers := (List.range fingers).map fun i ↦ (i, fingers)
  handDirection _ := ⟨0, 0, -1⟩
  palmNormal _ := ⟨0, -1, 0⟩
  palmPosition _ := ⟨0, 0, 0⟩
  stabilizedPalmPosition _ := ⟨0, 0, 0⟩
  pointableIsValid p := p.1 < p.2
  pointableId p := if p.1 < p.2 then p.1 else -1
  pointableFrameId _ := 0
  handOf p := p.2
  touchZone p := if p.1 < p.2 then .touching else .none
  pointableDirection _ := ⟨0, 0, -1⟩
  tipPosition _ := ⟨0, 0, 0⟩
  stabilizedTipPosition _ := ⟨0, 0, 0⟩

/-- Its arithmetic is exact. -/
def fingerLeapExact : ExactArithmetic fingerLeap.Scalar ℚ := ExactArithmetic.rational id

/-- A frame of the device: the number of frames before it, at 15 a second, and of the fingers in
it. -/
def fingerFrame (number fingers : ℕ) : fingerLeap.Frame := (66666 * number, fingers)

theorem fingerLeap_hands : fingerLeap.HandsOfPointablesExist := by
  intro frame id hvalid _
  obtain ⟨time, fingers⟩ := frame
  by_cases hid : 0 ≤ id ∧ id < (fingers : ℤ)
  · have hpos : 0 < fingers := by omega
    simp [fingerLeap, hid, hpos]
  · simp [fingerLeap, hid] at hvalid

/-- A pointable of the next device. -/
structure Finger where
  id : ℕ
  hand : ℤ
  z : ℚ
  direction : Vector3 ℚ
  zone : Zone
  deriving DecidableEq

/-- A device whose frames have a time and fingers, next to one another, of hands with natural
numbers. A hand is there as long as it has a finger; a hand and a pointable know all fingers of
their frame. -/
def handLeap : Leap where
  Scalar := ℚ
  arithmetic := rationalArithmetic id
  Frame := ℤ × List Finger
  Hand := ℤ × List Finger
  Pointable := Option Finger × List Finger
  InteractionBox := Unit
  radToDeg := 57
  normalizePoint _ position _ := position
  invalidFrame := (-1, [])
  invalidPointable := (none, [])
  frameIsValid frame := 0 ≤ frame.1
  frameId _ := 0
  timestamp frame := frame.1
  interactionBox _ := ()
  hands frame := ((frame.2.map (·.hand)).filter (0 ≤ ·)).dedup.map fun id ↦ (id, frame.2)
  pointables frame := frame.2.map fun finger ↦ (some finger, frame.2)
  hand frame id := (id, frame.2)
  pointable frame id := (frame.2.find? fun finger ↦ finger.id = id, frame.2)
  translation _ _ := ⟨0, 0, 0⟩
  rotationAngle _ _ := 0
  scaleFactor _ _ := 1
  rotationProbability _ _ := 0
  translationProbability _ _ := 0
  scaleProbability _ _ := 0
  handIsValid hand := 0 ≤ hand.1 && hand.2.any (·.hand = hand.1)
  handId hand := if 0 ≤ hand.1 ∧ hand.2.any (·.hand = hand.1) then hand.1 else -1
  handFrameId _ := 0
  handPointables hand :=
    (hand.2.filter (·.hand = hand.1)).map fun finger ↦ (some finger, hand.2)
  handDirection _ := ⟨0, 0, -1⟩
  palmNormal _ := ⟨0, -1, 0⟩
  palmPosition _ := ⟨0, 0, 0⟩
  stabilizedPalmPosition _ := ⟨0, 0, 0⟩
  pointableIsValid p := p.1.isSome
  pointableId p := p.1.elim (-1) fun finger ↦ finger.id
  pointableFrameId _ := 0
  handOf p := (p.1.elim (-1) (·.hand), p.2)
  touchZone p := p.1.elim .none (·.zone)
  pointableDirection p := p.1.elim ⟨0, 0, 0⟩ (·.direction)
  tipPosition p := ⟨0, 0, p.1.elim 0 (·.z)⟩
  stabilizedTipPosition p := ⟨0, 0, p.1.elim 0 (·.z)⟩

/-- A hand that is there has its number as id. -/
theorem handLeap_handId {hand : handLeap.Hand} (hid : 0 ≤ handLeap.handId hand) :
    handLeap.handIsValid hand = true ∧ handLeap.handId hand = hand.1 := by
  simp only [handLeap] at hid ⊢
  split_ifs at hid ⊢ with hthere
  · exact ⟨by simpa using hthere, rfl⟩
  · cases hid

theorem handLeap_lookups : handLeap.Lookups where
  handsExist frame id _ hid := by
    obtain ⟨hvalid, heq⟩ := handLeap_handId hid
    rw [heq]
    exact hvalid
  handIds hand hvalid := by
    have hthere : 0 ≤ hand.1 ∧ hand.2.any (·.hand = hand.1) = true := by
      simpa [handLeap] using hvalid
    simp [handLeap, hthere]
  pointableIds p hvalid := by
    obtain ⟨finger, hfinger⟩ := Option.isSome_iff_exists.1 hvalid
    simp [handLeap, hfinger]
  pointablesExist frame p hp := by
    obtain ⟨finger, hfinger, rfl⟩ := List.mem_map.1 hp
    show (frame.2.find? _).isSome = true
    exact List.find?_isSome.2 ⟨finger, hfinger, decide_eq_true rfl⟩

instance : DecidableEq handLeap.Pointable :=
  inferInstanceAs (DecidableEq (Option Finger × List Finger))

/-- A frame of it: the number of frames before it, at 15 a second, and its fingers. -/
def handFrame (number : ℕ) (fingers : List Finger) : handLeap.Frame := (66666 * number, fingers)

end Touchless
