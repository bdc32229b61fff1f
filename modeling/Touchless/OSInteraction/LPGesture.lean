import Touchless.OSInteraction.OSCall
import Touchless.Utility.BoundedQueue

/-!
# Gestures of the operating system

`LPGesture` of `OSInteraction/LPGesture.cpp`: at most one gesture is open at a time, and a scroll
that ends leaves a momentum, which a timer applies until it has decayed. What is posted differs
between the platforms: the Mac gets events for everything, Windows gets the wheel only, and Linux
nothing.

The events leave out what is the same in all of them, the position of the cursor and the time, and
the digitizer mask, which is a function of the phase. The timer is a flag that says whether it runs;
its ticks are calls of `applyMomentum`.
-/

namespace Touchless

/-- The platform, with what Windows answers about the wheel, if it does. -/
inductive Platform where
  | mac
  | windows (wheelScrollChars wheelScrollLines : Option ℕ)
  | linux
  deriving DecidableEq

/-- The types of the events that a gesture is made of. -/
inductive EventType where
  | null
  | rotation
  | scroll
  | zoom
  | dockSwipe
  deriving DecidableEq, Repr

namespace GestureType

/-- The numbers of the types. -/
def number : GestureType → ℕ
  | none => 0
  | scroll => 1
  | zoom => 2
  | rotate => 3
  | desktopSwipeHorizontal => 4
  | desktopSwipeVertical => 5

/-- The type with a number; a number without one is not told from `GestureNone`. -/
def ofNumber : ℕ → GestureType
  | 1 => scroll
  | 2 => zoom
  | 3 => rotate
  | 4 => desktopSwipeHorizontal
  | 5 => desktopSwipeVertical
  | _ => none

/-- `getEventTypeFromGestureType`. -/
def eventType : GestureType → EventType
  | zoom => .zoom
  | rotate => .rotation
  | scroll => .scroll
  | desktopSwipeHorizontal | desktopSwipeVertical => .dockSwipe
  | none => .null

/-- Is it one of the desktop swipes? -/
def isDesktopSwipe (gestureType : GestureType) : Bool :=
  gestureType = desktopSwipeHorizontal ∨ gestureType = desktopSwipeVertical

@[simp]
theorem ofNumber_number (gestureType : GestureType) :
    ofNumber gestureType.number = gestureType := by
  cases gestureType <;> rfl

@[simp]
theorem eventType_eq_null {gestureType : GestureType} :
    gestureType.eventType = .null ↔ gestureType = none := by
  cases gestureType <;> simp [eventType]

end GestureType

/-- `IOHIDEventPhaseBits`, as far as it is used. -/
inductive EventPhase where
  | undefined
  | began
  | changed
  | ended
  | cancelled
  deriving DecidableEq, Repr

/-- `IOHIDEventMomentumPhase`. -/
inductive MomentumPhase where
  | undefined
  | began
  | changed
  | ended
  deriving DecidableEq, Repr

/-- `IOHIDSwipeMask`, as far as it is used. -/
inductive SwipeMask where
  | none
  | up
  | down
  | left
  | right
  deriving DecidableEq, Repr

/-- `IOHIDGestureMotion`, as far as it is used. -/
inductive GestureMotion where
  | none
  | horizontalX
  | verticalY
  deriving DecidableEq, Repr

/-- What is posted. -/
inductive GestureEvent (F : Type) where
  | gestureBegan (subtype : EventType)
  | gestureEnded (subtype : EventType) (motion : GestureMotion)
  | zoom (phase : EventPhase) (zoom : F)
  | rotation (phase : EventPhase) (rotation : F)
  | dockSwipe (phase : EventPhase) (motion : GestureMotion) (swipe : SwipeMask) (distance dx dy : F)
  | dockSwipeEnded (phase : EventPhase) (motion : GestureMotion) (distance : F)
  /-- the scroll gesture event of the Mac -/
  | scroll (phase : EventPhase) (px py : F)
  /-- the scroll wheel event of the Mac -/
  | scrollWheel (phase : EventPhase) (momentumPhase : MomentumPhase) (px py : F) (ilx ily : ℤ)
  /-- `MOUSEEVENTF_WHEEL` -/
  | wheel (mouseData : ℤ)
  /-- `MOUSEEVENTF_HWHEEL` -/
  | hwheel (mouseData : ℤ)

/-- `LPPoint`. -/
structure GesturePoint (F : Type) where
  x : F
  y : F
  deriving DecidableEq

/-- `LPPointZero`. -/
def GesturePoint.zero {F : Type} [Arithmetic F] : GesturePoint F := ⟨lit 0, lit 0⟩

/-- The members of `LPGesture`, with a log of what has been posted. -/
structure LPGesture (F : Type) where
  windowsEventTimer : ℤ
  type : GestureType
  /-- is `m_momentumTimer` running? -/
  momentumTimer : Bool
  momentumHistory : BoundedQueue (GesturePoint F) 11
  momentum : GesturePoint F
  phase : EventPhase
  momentumPhase : MomentumPhase
  scrollPartialLine : GesturePoint F
  scrollPartialPixel : GesturePoint F
  horizontalPixelsPerLine : F
  verticalPixelsPerLine : F
  desktopSwipeDistance : F
  desktopSwipeDistanceDelta : F
  desktopSwipeDistanceThreshold : F
  desktopSwipeDirection : SwipeMask
  events : List (GestureEvent F)

namespace LPGesture

variable {F : Type}

/-- The constructor. -/
def construct [Arithmetic F] (memory : Vector (GesturePoint F) 11) : LPGesture F where
  windowsEventTimer := 0
  type := .none
  momentumTimer := false
  momentumHistory := .construct memory (by decide)
  momentum := .zero
  phase := .undefined
  momentumPhase := .undefined
  scrollPartialLine := .zero
  scrollPartialPixel := .zero
  horizontalPixelsPerLine := lit 1
  verticalPixelsPerLine := lit 1
  desktopSwipeDistance := lit 0
  desktopSwipeDistanceDelta := lit 0
  desktopSwipeDistanceThreshold := lit 0
  desktopSwipeDirection := .none
  events := []

/-- `m_momentumFPS`. -/
def momentumFPS (F : Type) [Arithmetic F] : F := lit 1000 / lit 8

/-- `windowsUpdateRate`, in the integer arithmetic of the source. -/
def windowsUpdateRate : ℤ := 100000 / 60

/-- The pixels, or lines on Windows, for `m_horizontalPixelsPerLine`. -/
def horizontalPixels [Arithmetic F] : Platform → F
  | .mac => lit 10
  | .windows (some (n + 1)) _ => lit (n + 1 : ℕ)
  | .windows _ _ => lit 3
  | .linux => lit 12

/-- The pixels, or lines on Windows, for `m_verticalPixelsPerLine`. -/
def verticalPixels [Arithmetic F] : Platform → F
  | .mac => lit 10
  | .windows _ (some (n + 1)) => lit (n + 1 : ℕ)
  | .windows _ _ => lit 3
  | .linux => lit 12

section Operations

variable [Arithmetic F] [Rounding F] (platform : Platform) (g : LPGesture F)

/-- Post an event. -/
def post (event : GestureEvent F) : LPGesture F := { g with events := g.events ++ [event] }

/-- Post an event of the Mac. -/
def postMac (event : GestureEvent F) : LPGesture F := if platform = .mac then g.post event else g

/-- Post an event of the wheel, unless it does not move. -/
def postWheel (event : ℤ → GestureEvent F) (lines mouseData : ℤ) : LPGesture F :=
  if lines ≠ 0 then g.post (event mouseData) else g

/-- `if (m_phase == kIOHIDEventPhaseBegan) m_phase = kIOHIDEventPhaseChanged`. -/
def changePhase : LPGesture F := if g.phase = .began then { g with phase := .changed } else g

/-- `m_momentumHistory.Reset(); m_momentum = LPPointZero`. -/
def resetMomentum : LPGesture F :=
  { g with momentumHistory := g.momentumHistory.reset, momentum := .zero }

/-! ### Zoom, rotation and desktop swipes -/

/-- `applyZoom`. -/
def applyZoom (zoom : F) : LPGesture F × Bool :=
  if g.type = .zoom then ((g.postMac platform (.zoom g.phase zoom)).changePhase, true)
  else (g, false)

/-- `applyRotation`. -/
def applyRotation (rotation : F) : LPGesture F × Bool :=
  if g.type = .rotate then ((g.postMac platform (.rotation g.phase rotation)).changePhase, true)
  else (g, false)

/-- The direction of positive distances. -/
def swipePositive : SwipeMask := if g.type = .desktopSwipeVertical then .down else .left

/-- The direction of negative distances. -/
def swipeNegative : SwipeMask := if g.type = .desktopSwipeVertical then .up else .right

/-- The motion of a desktop swipe. -/
def swipeMotion : GestureMotion :=
  if g.type = .desktopSwipeVertical then .verticalY else .horizontalX

/-- `swipeTrigger`. -/
def swipeTrigger (F : Type) [Arithmetic F] : F := lit (1 / 20)

/-- The threshold that a new distance leaves, and the direction it triggers. -/
def swipeStep (distance : F) : F × SwipeMask :=
  let threshold := g.desktopSwipeDistanceThreshold
  if g.desktopSwipeDirection = g.swipeNegative then
    if Arithmetic.lt distance threshold then (distance, .none)
    else if Arithmetic.le (threshold + swipeTrigger F) distance then (threshold, g.swipePositive)
    else (threshold, .none)
  else if g.desktopSwipeDirection = g.swipePositive then
    if Arithmetic.lt threshold distance then (distance, .none)
    else if Arithmetic.le distance (threshold - swipeTrigger F) then (threshold, g.swipeNegative)
    else (threshold, .none)
  else if Arithmetic.le (swipeTrigger F) distance then (threshold, g.swipePositive)
  else if Arithmetic.le distance (-swipeTrigger F) then (threshold, g.swipeNegative)
  else (threshold, .none)

/-- What the Mac does with a desktop swipe. -/
def swipeMac (dx dy : F) : LPGesture F :=
  let scaleUnits : F := lit 1 / lit 300
  let dx := dx * -scaleUnits
  let dy := dy * scaleUnits
  let delta := if g.type = .desktopSwipeVertical then dy else dx
  let distance := g.desktopSwipeDistance + delta
  let (threshold, swipe) := g.swipeStep distance
  { g with
    desktopSwipeDistance := distance
    desktopSwipeDistanceDelta := delta
    desktopSwipeDistanceThreshold := if swipe = SwipeMask.none then threshold else distance
    desktopSwipeDirection :=
      if swipe = SwipeMask.none then g.desktopSwipeDirection else swipe }.post
      (.dockSwipe g.phase g.swipeMotion swipe distance dx dy)

/-- `applyDesktopSwipe`. -/
def applyDesktopSwipe (dx dy : F) : LPGesture F × Bool :=
  if g.type.isDesktopSwipe then
    ((if platform = .mac then g.swipeMac dx dy else g).changePhase, true)
  else (g, false)

/-! ### Scrolling -/

/-- What `applyScroll` does while there is a momentum; the flag is false where it returns. -/
def decayMomentum (px py : F) : LPGesture F × Bool :=
  if Arithmetic.lt (Arithmetic.abs px) (lit (3 / 2)) &&
      Arithmetic.lt (Arithmetic.abs py) (lit (3 / 2)) then
    let g := g.resetMomentum
    if g.momentumPhase = .began then
      ({ g with momentumPhase := .undefined }, g.phase = .ended)
    else ({ g with momentumPhase := .ended, momentumTimer := false }, true)
  else
    let scale : F :=
      if Arithmetic.lt (lit (2 / 5)) g.momentum.x || Arithmetic.lt (lit (2 / 5)) g.momentum.y then
        lit (49 / 50)
      else lit (24 / 25)
    ({ g with momentum := ⟨g.momentum.x * scale, g.momentum.y * scale⟩ }, true)

/-- The history with a new momentum, in the place of the oldest one if it is full. -/
def pushHistory (momentum : GesturePoint F) : BoundedQueue (GesturePoint F) 11 :=
  if h : g.momentumHistory.isFull = true then
    ((g.momentumHistory.dequeue (BoundedQueue.isEmpty_of_isFull h)).2.enqueue momentum).1
  else (g.momentumHistory.enqueue momentum).1

/-- What `applyScroll` records during the gesture; the flag is false where it returns. -/
def recordMomentum (dx dy : F) (timeDiff : ℤ) : LPGesture F × Bool :=
  if Arithmetic.le (Arithmetic.abs dx) (lit (1 / 10000000)) &&
      Arithmetic.le (Arithmetic.abs dy) (lit (1 / 10000000)) then
    (g.resetMomentum, false)
  else if timeDiff > 0 ∧ timeDiff < 1000000 then
    let dtInv := lit 1000000 / lit (timeDiff : ℚ) / momentumFPS F
    ({ g with momentumHistory := g.pushHistory ⟨dx * dtInv, dy * dtInv⟩ }, true)
  else (g.resetMomentum, true)

/-- The whole lines that are taken from the partial ones: all there are, on Windows only when the
timer has run up. -/
def takeLines (timeDiff : ℤ) : LPGesture F × ℤ × ℤ :=
  let lx := Rounding.floor g.scrollPartialLine.x
  let ly := Rounding.floor g.scrollPartialLine.y
  let taken := { g with
    scrollPartialLine := ⟨g.scrollPartialLine.x - lx, g.scrollPartialLine.y - ly⟩ }
  match platform with
  | .windows _ _ =>
    let timer := g.windowsEventTimer + timeDiff
    if timer ≥ windowsUpdateRate then
      ({ taken with windowsEventTimer := 0 }, Rounding.toInt lx, Rounding.toInt ly)
    else
      ({ g with windowsEventTimer := timer }, Rounding.toInt (lit 0 : F),
        Rounding.toInt (lit 0 : F))
  | _ => (taken, Rounding.toInt lx, Rounding.toInt ly)

/-- The events of a scroll by whole pixels and lines. -/
def postScroll (px py : F) (ilx ily : ℤ) : LPGesture F :=
  match platform with
  | .mac =>
    let g := if g.phase ≠ .undefined then g.post (.scroll g.phase px py) else g
    g.post (.scrollWheel g.phase g.momentumPhase px py ilx ily)
  | .windows _ _ =>
    (g.postWheel .wheel ily (ily * 2)).postWheel .hwheel ilx (-ilx * 2)
  | .linux => g

/-- The phase, or else the momentum phase, after a scroll. -/
def advancePhases : LPGesture F :=
  if g.phase = .began then { g with phase := .changed }
  else if g.momentumPhase = .began then { g with momentumPhase := .changed }
  else if g.momentumPhase = .ended then { g with momentumPhase := .undefined }
  else g

/-- What `applyScroll` does once it does not return early, with the distance in pixels and lines. -/
def scrollBy (px py lx ly : F) (timeDiff : ℤ) : LPGesture F :=
  let partialPixel : GesturePoint F :=
    ⟨g.scrollPartialPixel.x + px, g.scrollPartialPixel.y + py⟩
  let px := Rounding.round partialPixel.x
  let py := Rounding.round partialPixel.y
  let g := { g with
    scrollPartialPixel := ⟨partialPixel.x - px, partialPixel.y - py⟩
    scrollPartialLine := ⟨g.scrollPartialLine.x + lx, g.scrollPartialLine.y + ly⟩ }
  let (g, ilx, ily) := g.takeLines platform timeDiff
  (g.postScroll platform px py ilx ily).advancePhases

/-- `applyScroll`. -/
def applyScroll (dx dy : F) (timeDiff : ℤ) : LPGesture F × Bool :=
  if g.type = .scroll ∨ g.momentumPhase ≠ .undefined then
    let ppmm : F := lit 120 / lit (127 / 5)
    let px := dx * ppmm
    let py := dy * ppmm
    let (g', goesOn) :=
      if g.momentumPhase ≠ .undefined then g.decayMomentum px py
      else if g.phase ≠ .ended then g.recordMomentum dx dy timeDiff
      else (g, true)
    if goesOn then
      (g'.scrollBy platform px py (px / g.horizontalPixelsPerLine) (py / g.verticalPixelsPerLine)
        timeDiff, true)
    else (g', false)
  else (g, false)

/-- `applyMomentum`, the callback of the timer. -/
def applyMomentum : LPGesture F :=
  if g.momentumPhase ≠ .undefined then
    (g.applyScroll platform g.momentum.x g.momentum.y
      (Rounding.toInt (lit 1000000 / momentumFPS F))).1
  else g

/-! ### Beginning and ending -/

/-- The members that `begin` sets. -/
def restart (gestureType : GestureType) : LPGesture F :=
  { g with
    type := gestureType
    momentumPhase := .undefined
    phase := .began
    momentumHistory := g.momentumHistory.reset
    momentum := .zero
    scrollPartialLine := .zero
    scrollPartialPixel := .zero
    horizontalPixelsPerLine := horizontalPixels platform
    verticalPixelsPerLine := verticalPixels platform
    desktopSwipeDistance := lit 0
    desktopSwipeDistanceDelta := lit 0
    desktopSwipeDistanceThreshold := lit 0
    desktopSwipeDirection := .none }

/-- The call of `applyZoom(0)` or `applyRotation(0)` in `begin` and in `end`. -/
def applyNothing : LPGesture F :=
  if g.type = .zoom then (g.applyZoom platform (lit 0)).1
  else if g.type = .rotate then (g.applyRotation platform (lit 0)).1
  else g

/-- `begin`, for the number of a type. -/
def beginGesture (number : ℕ) : LPGesture F × Bool :=
  let gestureType := GestureType.ofNumber number
  if g.type = .none ∧ gestureType.eventType ≠ .null then
    let g := if g.momentumPhase ≠ .undefined then
        ({ g with momentumTimer := false }.applyScroll platform (lit 0) (lit 0) 0).1
      else g
    let g := g.restart platform gestureType
    let g := if gestureType.isDesktopSwipe then g
      else g.postMac platform (.gestureBegan gestureType.eventType)
    (g.applyNothing platform, true)
  else (g, false)

/-- The event of the Mac at the end of a gesture. A desktop swipe is cancelled if it is short and
its last movement was small or went back. -/
def endMac : LPGesture F :=
  if g.type.isDesktopSwipe then
    let cancelled :=
      Arithmetic.lt (Arithmetic.abs g.desktopSwipeDistance) (lit (1 / 2)) &&
        (Arithmetic.lt (Arithmetic.abs g.desktopSwipeDistanceDelta) (lit (1 / 100)) ||
          Arithmetic.lt (g.desktopSwipeDistance * g.desktopSwipeDistanceDelta) (lit 0))
    let g := if cancelled then { g with phase := .cancelled } else g
    g.post (.dockSwipeEnded g.phase g.swipeMotion g.desktopSwipeDistance)
  else g.post (.gestureEnded g.type.eventType .none)

/-- One turn of the loop that looks for the greatest momentum of the history, with its absolute
value and the number of turns. -/
def selectMomentum : GesturePoint F × F × ℕ → GesturePoint F → GesturePoint F × F × ℕ
  | (selected, maxAbsValue, numHistory), momentum =>
    let (selected, maxAbsValue) :=
      if Arithmetic.lt maxAbsValue (Arithmetic.abs momentum.x) then
        (momentum, Arithmetic.abs momentum.x)
      else (selected, maxAbsValue)
    let (selected, maxAbsValue) :=
      if Arithmetic.lt maxAbsValue (Arithmetic.abs momentum.y) then
        (momentum, Arithmetic.abs momentum.y)
      else (selected, maxAbsValue)
    (selected, maxAbsValue, numHistory + 1)

/-- The end of a scroll: its momentum starts. -/
def startMomentum : LPGesture F :=
  let g := ({ g with momentumTimer := false }.applyScroll platform (lit 0) (lit 0) 0).1
  let (history, momentum, _, numHistory) :=
    BoundedQueue.drain selectMomentum g.momentumHistory.size g.momentumHistory (.zero, lit 0, 0)
  let g := { g with momentumHistory := history, momentum := momentum }
  if numHistory ≠ 0 then { g with momentumPhase := .began, momentumTimer := true } else g

/-- `end`. -/
def endGesture : LPGesture F × Bool :=
  if g.type ≠ .none ∧ (g.phase = .began ∨ g.phase = .changed) then
    let g := { g with phase := .ended }.applyNothing platform
    let g := if platform = .mac then g.endMac else g
    let g := if g.type = .scroll then g.startMomentum platform else g
    ({ g with type := .none, phase := .undefined }, true)
  else (g, false)

end Operations

/-! ### Types and phases

Which calls have an effect depends on four members only, and most of what the operations do leaves
them alone. -/

/-- The members that the operations test first, and the timer. -/
structure Control where
  type : GestureType
  phase : EventPhase
  momentumPhase : MomentumPhase
  momentumTimer : Bool
  deriving DecidableEq

/-- The control members. -/
def control (g : LPGesture F) : Control := ⟨g.type, g.phase, g.momentumPhase, g.momentumTimer⟩

namespace Control

/-- What a call does to the phase of the gesture it is applied to. -/
def changePhase (c : Control) : Control :=
  if c.phase = .began then { c with phase := .changed } else c

/-- What a scroll does that does not return early. -/
def advance (c : Control) : Control :=
  if c.phase = .began then { c with phase := .changed }
  else if c.momentumPhase = .began then { c with momentumPhase := .changed }
  else if c.momentumPhase = .ended then { c with momentumPhase := .undefined }
  else c

/-- The gesture is closed, or it has begun, and then no momentum is left over. -/
structure Settled (c : Control) : Prop where
  closed : c.type = .none → c.phase = .undefined
  opened : c.type ≠ .none →
    (c.phase = .began ∨ c.phase = .changed) ∧ c.momentumPhase = .undefined

/-- The same gesture goes on: its phase changes at most from the beginning. -/
structure Continues (c c' : Control) : Prop where
  type : c'.type = c.type
  phase : c'.phase = c.phase ∨ c.phase = .began ∧ c'.phase = .changed

variable {c c' c'' : Control}

theorem Continues.refl (c : Control) : Continues c c := ⟨rfl, .inl rfl⟩

theorem Continues.trans (h : Continues c c') (h' : Continues c' c'') : Continues c c'' where
  type := h'.type.trans h.type
  phase := by
    rcases h.phase with hsame | ⟨hbegan, hchanged⟩
    · rw [← hsame]
      exact h'.phase
    · rcases h'.phase with hsame | ⟨hbegan', -⟩
      · exact .inr ⟨hbegan, hsame.trans hchanged⟩
      · exact absurd (hbegan'.symm.trans hchanged) (by simp)

theorem continues_changePhase : Continues c c.changePhase := by
  rw [changePhase]
  split_ifs with hbegan
  · exact ⟨rfl, .inr ⟨hbegan, rfl⟩⟩
  · exact .refl c

theorem continues_advance : Continues c c.advance := by
  rw [advance]
  split_ifs with hbegan
  · exact ⟨rfl, .inr ⟨hbegan, rfl⟩⟩
  all_goals exact ⟨rfl, .inl rfl⟩

theorem advance_eq_changePhase (h : c.momentumPhase = .undefined) : c.advance = c.changePhase := by
  simp [advance, changePhase, h]

@[simp]
theorem momentumPhase_changePhase : c.changePhase.momentumPhase = c.momentumPhase := by
  rw [changePhase]
  split_ifs <;> rfl

/-- A gesture that goes on stays settled. -/
theorem Settled.continues (h : c.Settled) (hc : Continues c c')
    (hmomentum : c.momentumPhase = .undefined → c'.momentumPhase = .undefined) : c'.Settled where
  closed htype := by
    have hundefined := h.closed (hc.type ▸ htype)
    rcases hc.phase with hsame | ⟨hbegan, -⟩
    · exact hsame.trans hundefined
    · exact absurd (hbegan.symm.trans hundefined) (by simp)
  opened htype := by
    obtain ⟨hphase, hno⟩ := h.opened (hc.type ▸ htype)
    refine ⟨?_, hmomentum hno⟩
    rcases hc.phase with hsame | ⟨-, hchanged⟩
    · exact hsame ▸ hphase
    · exact .inr hchanged

/-- A call that is applied to gestures of some type continues them, -/
theorem continues_changePhaseIf (p : Prop) [Decidable p] :
    Continues c (if p then c.changePhase else c) := by
  split_ifs
  · exact continues_changePhase
  · exact .refl c

/-- and keeps them settled. -/
theorem Settled.changePhaseIf (h : c.Settled) (p : Prop) [Decidable p] :
    (if p then c.changePhase else c).Settled := by
  split_ifs
  · exact h.continues continues_changePhase momentumPhase_changePhase.trans
  · exact h

end Control

section Control

variable {platform : Platform} {g : LPGesture F}

@[simp]
theorem control_postMac (event : GestureEvent F) :
    (g.postMac platform event).control = g.control := by
  rw [postMac]
  split_ifs <;> rfl

@[simp]
theorem control_postWheel (event : ℤ → GestureEvent F) (lines mouseData : ℤ) :
    (g.postWheel event lines mouseData).control = g.control := by
  rw [postWheel]
  split_ifs <;> rfl

@[simp]
theorem control_postScroll (px py : F) (ilx ily : ℤ) :
    (g.postScroll platform px py ilx ily).control = g.control := by
  cases platform with
  | mac =>
    simp only [postScroll]
    split_ifs <;> rfl
  | windows wheelScrollChars wheelScrollLines => simp [postScroll]
  | linux => rfl

@[simp]
theorem control_changePhase : g.changePhase.control = g.control.changePhase := by
  rw [changePhase, apply_ite control]
  rfl

@[simp]
theorem control_advancePhases : g.advancePhases.control = g.control.advance := by
  simp only [advancePhases, apply_ite control]
  rfl

theorem control_applyZoom (zoom : F) :
    (g.applyZoom platform zoom).1.control =
      if g.type = .zoom then g.control.changePhase else g.control := by
  rw [applyZoom]
  split_ifs <;> simp

theorem control_applyRotation (rotation : F) :
    (g.applyRotation platform rotation).1.control =
      if g.type = .rotate then g.control.changePhase else g.control := by
  rw [applyRotation]
  split_ifs <;> simp

theorem continues_applyZoom (zoom : F) :
    g.control.Continues (g.applyZoom platform zoom).1.control := by
  rw [control_applyZoom]
  exact Control.continues_changePhaseIf _

theorem continues_applyRotation (rotation : F) :
    g.control.Continues (g.applyRotation platform rotation).1.control := by
  rw [control_applyRotation]
  exact Control.continues_changePhaseIf _

theorem settled_applyZoom (h : g.control.Settled) (zoom : F) :
    (g.applyZoom platform zoom).1.control.Settled := by
  rw [control_applyZoom]
  exact h.changePhaseIf _

theorem settled_applyRotation (h : g.control.Settled) (rotation : F) :
    (g.applyRotation platform rotation).1.control.Settled := by
  rw [control_applyRotation]
  exact h.changePhaseIf _

variable [Arithmetic F]

/-- Recording a momentum concerns no phase. -/
@[simp]
theorem control_recordMomentum (dx dy : F) (timeDiff : ℤ) :
    (g.recordMomentum dx dy timeDiff).1.control = g.control := by
  rw [recordMomentum]
  split_ifs <;> rfl

/-- The decay of the momentum concerns neither the type nor the phase. -/
theorem decayMomentum_spec (px py : F) :
    (g.decayMomentum px py).1.type = g.type ∧ (g.decayMomentum px py).1.phase = g.phase := by
  simp only [decayMomentum]
  split_ifs <;> exact ⟨rfl, rfl⟩

theorem control_applyDesktopSwipe (dx dy : F) :
    (g.applyDesktopSwipe platform dx dy).1.control =
      if g.type.isDesktopSwipe then g.control.changePhase else g.control := by
  rw [applyDesktopSwipe]
  split_ifs
  · exact control_changePhase
  · exact control_changePhase
  · rfl

theorem continues_applyDesktopSwipe (dx dy : F) :
    g.control.Continues (g.applyDesktopSwipe platform dx dy).1.control := by
  rw [control_applyDesktopSwipe]
  exact Control.continues_changePhaseIf _

theorem settled_applyDesktopSwipe (h : g.control.Settled) (dx dy : F) :
    (g.applyDesktopSwipe platform dx dy).1.control.Settled := by
  rw [control_applyDesktopSwipe]
  exact h.changePhaseIf _

/-- The calls that change nothing of the gesture but its phase. -/
theorem continues_applyNothing : g.control.Continues (g.applyNothing platform).control := by
  rw [applyNothing]
  split_ifs
  · exact continues_applyZoom _
  · exact continues_applyRotation _
  · exact .refl _

theorem settled_applyNothing (h : g.control.Settled) :
    (g.applyNothing platform).control.Settled := by
  rw [applyNothing]
  split_ifs
  · exact settled_applyZoom h _
  · exact settled_applyRotation h _
  · exact h

variable [Rounding F]

@[simp]
theorem control_takeLines (timeDiff : ℤ) :
    (g.takeLines platform timeDiff).1.control = g.control := by
  cases platform with
  | windows wheelScrollChars wheelScrollLines =>
    simp only [takeLines]
    split_ifs <;> rfl
  | mac => rfl
  | linux => rfl

@[simp]
theorem control_scrollBy (px py lx ly : F) (timeDiff : ℤ) :
    (g.scrollBy platform px py lx ly timeDiff).control = g.control.advance := by
  simp only [scrollBy, control_advancePhases, control_postScroll, control_takeLines]
  rfl

/-- Without a momentum, a scroll returns early or moves on the phase. -/
theorem control_applyScroll (h : g.momentumPhase = .undefined) (dx dy : F) (timeDiff : ℤ) :
    (g.applyScroll platform dx dy timeDiff).1.control = g.control ∨
      (g.applyScroll platform dx dy timeDiff).1.control = g.control.changePhase := by
  have hadvance : g.control.advance = g.control.changePhase := Control.advance_eq_changePhase h
  simp only [applyScroll]
  split_ifs <;> simp_all

/-- **A scroll** continues the gesture that is open, if there is one. -/
theorem continues_applyScroll (dx dy : F) (timeDiff : ℤ) :
    g.control.Continues (g.applyScroll platform dx dy timeDiff).1.control := by
  by_cases hmomentum : g.momentumPhase = .undefined
  · have hcontrol : (g.applyScroll platform dx dy timeDiff).1.control = g.control ∨
        (g.applyScroll platform dx dy timeDiff).1.control = g.control.changePhase :=
      control_applyScroll hmomentum dx dy timeDiff
    rcases hcontrol with h | h <;> rw [h]
    · exact .refl _
    · exact Control.continues_changePhase
  · -- with a momentum the scroll decays it, and scrolls by what is left
    obtain ⟨htype, hphase⟩ := g.decayMomentum_spec (dx * (lit 120 / lit (127 / 5)))
      (dy * (lit 120 / lit (127 / 5)))
    have hdecay : g.control.Continues (g.decayMomentum (dx * (lit 120 / lit (127 / 5)))
        (dy * (lit 120 / lit (127 / 5)))).1.control := ⟨htype, .inl hphase⟩
    simp only [applyScroll, hmomentum, ne_eq, not_false_eq_true, or_true, if_true]
    split_ifs
    · rw [control_scrollBy]
      exact hdecay.trans Control.continues_advance
    · exact hdecay

theorem settled_applyScroll (h : g.control.Settled) (dx dy : F) (timeDiff : ℤ) :
    (g.applyScroll platform dx dy timeDiff).1.control.Settled := by
  refine h.continues (continues_applyScroll dx dy timeDiff) fun hmomentum ↦ ?_
  have hcontrol : (g.applyScroll platform dx dy timeDiff).1.control = g.control ∨
      (g.applyScroll platform dx dy timeDiff).1.control = g.control.changePhase :=
    control_applyScroll hmomentum dx dy timeDiff
  rcases hcontrol with h | h <;> rw [h]
  · exact hmomentum
  · exact Control.momentumPhase_changePhase.trans hmomentum

theorem settled_applyMomentum (h : g.control.Settled) :
    (g.applyMomentum platform).control.Settled := by
  rw [applyMomentum]
  split_ifs
  · exact settled_applyScroll h _ _ _
  · exact h

theorem type_applyMomentum : (g.applyMomentum platform).type = g.type := by
  rw [applyMomentum]
  split_ifs
  · exact (continues_applyScroll _ _ _).type
  · rfl

/-- **`begin`** opens a gesture of a known type when none is open, -/
theorem beginGesture_opens (htype : g.type = .none) {number : ℕ}
    (hknown : GestureType.ofNumber number ≠ .none) :
    (g.beginGesture platform number).2 = true ∧
      (g.beginGesture platform number).1.type = GestureType.ofNumber number ∧
      (g.beginGesture platform number).1.control.Settled := by
  have hopens : g.type = .none ∧ (GestureType.ofNumber number).eventType ≠ .null :=
    ⟨htype, by simpa using hknown⟩
  simp only [beginGesture, if_pos hopens]
  -- a momentum is stopped, and on the Mac the begin is posted; neither matters below
  generalize hstopped : ite (g.momentumPhase ≠ .undefined) _ g = stopped
  generalize hposted : ite (GestureType.isDesktopSwipe _ = true) _ _ = posted
  have hcontrol : posted.control =
      ⟨GestureType.ofNumber number, .began, .undefined, stopped.momentumTimer⟩ := by
    rw [← hposted]
    split_ifs
    · rfl
    · rw [control_postMac]
      rfl
  have hsettled : posted.control.Settled := by
    rw [hcontrol]
    exact ⟨fun hnone ↦ absurd hnone hknown, fun _ ↦ ⟨.inl rfl, rfl⟩⟩
  refine ⟨trivial, ?_, settled_applyNothing hsettled⟩
  have hgoesOn : (posted.applyNothing platform).type = posted.control.type :=
    continues_applyNothing.type
  rw [hcontrol] at hgoesOn
  exact hgoesOn

/-- and does nothing else. -/
theorem beginGesture_refused {number : ℕ}
    (h : g.type ≠ .none ∨ GestureType.ofNumber number = .none) :
    g.beginGesture platform number = (g, false) := by
  rw [beginGesture, if_neg]
  rintro ⟨htype, hnull⟩
  rcases h with hopen | hunknown
  · exact hopen htype
  · exact hnull (by rw [hunknown]; rfl)

/-- **`end`** closes the gesture that is open, -/
theorem endGesture_closes (h : g.control.Settled) (htype : g.type ≠ .none) :
    (g.endGesture platform).2 = true ∧ (g.endGesture platform).1.type = .none ∧
      (g.endGesture platform).1.control.Settled := by
  rw [endGesture, if_pos ⟨htype, (h.opened htype).1⟩]
  exact ⟨rfl, rfl, fun _ ↦ rfl, fun hopen ↦ absurd rfl hopen⟩

/-- and does nothing else. -/
theorem endGesture_refused (htype : g.type = .none) : g.endGesture platform = (g, false) := by
  rw [endGesture, if_neg]
  exact fun h ↦ h.1 htype

theorem settled_beginGesture (h : g.control.Settled) (number : ℕ) :
    (g.beginGesture platform number).1.control.Settled := by
  by_cases hopens : g.type = .none ∧ GestureType.ofNumber number ≠ .none
  · exact (beginGesture_opens hopens.1 hopens.2).2.2
  · rw [beginGesture_refused (by rwa [not_and_or, not_not] at hopens)]
    exact h

theorem settled_endGesture (h : g.control.Settled) :
    (g.endGesture platform).1.control.Settled := by
  by_cases htype : g.type = .none
  · rw [endGesture_refused htype]
    exact h
  · exact (endGesture_closes h htype).2.2

/-- After `end` no gesture is open. -/
theorem type_endGesture (h : g.control.Settled) : (g.endGesture platform).1.type = .none := by
  by_cases htype : g.type = .none
  · rwa [endGesture_refused htype]
  · exact (endGesture_closes h htype).2.1

/-! ### Sequences of operations -/

/-- The operations of a gesture; the momentum is applied by a timer. -/
inductive Operation (F : Type) where
  | beginGesture (number : ℕ)
  | endGesture
  | applyZoom (zoom : F)
  | applyRotation (rotation : F)
  | applyDesktopSwipe (dx dy : F)
  | applyScroll (dx dy : F) (timeDiff : ℤ)
  | applyMomentum

/-- One operation. -/
def exec (platform : Platform) (g : LPGesture F) : Operation F → LPGesture F
  | .beginGesture number => (g.beginGesture platform number).1
  | .endGesture => (g.endGesture platform).1
  | .applyZoom zoom => (g.applyZoom platform zoom).1
  | .applyRotation rotation => (g.applyRotation platform rotation).1
  | .applyDesktopSwipe dx dy => (g.applyDesktopSwipe platform dx dy).1
  | .applyScroll dx dy timeDiff => (g.applyScroll platform dx dy timeDiff).1
  | .applyMomentum => g.applyMomentum platform

/-- A sequence of operations. -/
def run (platform : Platform) (g : LPGesture F) (operations : List (Operation F)) : LPGesture F :=
  operations.foldl (exec platform) g

omit [Rounding F] in
theorem settled_construct (memory : Vector (GesturePoint F) 11) :
    (construct memory).control.Settled :=
  ⟨fun _ ↦ rfl, fun hopen ↦ absurd rfl hopen⟩

/-- Every operation leaves the gesture settled, -/
theorem settled_exec (h : g.control.Settled) (operation : Operation F) :
    (g.exec platform operation).control.Settled := by
  cases operation with
  | beginGesture number => exact settled_beginGesture h number
  | endGesture => exact settled_endGesture h
  | applyZoom zoom => exact settled_applyZoom h zoom
  | applyRotation rotation => exact settled_applyRotation h rotation
  | applyDesktopSwipe dx dy => exact settled_applyDesktopSwipe h dx dy
  | applyScroll dx dy timeDiff => exact settled_applyScroll h dx dy timeDiff
  | applyMomentum => exact settled_applyMomentum h

/-- and so does every sequence of them. -/
theorem settled_run (h : g.control.Settled) (operations : List (Operation F)) :
    (g.run platform operations).control.Settled := by
  induction operations generalizing g with
  | nil => exact h
  | cons operation operations ih => exact ih (settled_exec h operation)

/-- `begin` succeeds when no gesture is open and the type is known. -/
theorem beginGesture_succeeds_iff {number : ℕ} :
    (g.beginGesture platform number).2 = true ↔
      g.type = .none ∧ GestureType.ofNumber number ≠ .none := by
  by_cases hopens : g.type = .none ∧ GestureType.ofNumber number ≠ .none
  · exact iff_of_true (beginGesture_opens hopens.1 hopens.2).1 hopens
  · refine iff_of_false ?_ hopens
    rw [beginGesture_refused (by rwa [not_and_or, not_not] at hopens)]
    exact Bool.false_ne_true

/-- `end` succeeds when a gesture is open. -/
theorem endGesture_succeeds_iff (h : g.control.Settled) :
    (g.endGesture platform).2 = true ↔ g.type ≠ .none := by
  by_cases htype : g.type = .none
  · rw [endGesture_refused htype]
    exact iff_of_false Bool.false_ne_true (not_not_intro htype)
  · exact iff_of_true (endGesture_closes h htype).1 htype

/-- **After every sequence of operations** either no gesture is open and the phase is undefined, or
one has begun and no momentum is left over; so `begin` and `end` succeed exactly where they
should. -/
theorem run_phases (platform : Platform) (memory : Vector (GesturePoint F) 11)
    (operations : List (Operation F)) :
    let g := (construct memory).run platform operations
    (g.type = .none ∧ g.phase = .undefined ∨
      g.type ≠ .none ∧ (g.phase = .began ∨ g.phase = .changed) ∧ g.momentumPhase = .undefined) ∧
    (∀ number, (g.beginGesture platform number).2 = true ↔
      g.type = .none ∧ GestureType.ofNumber number ≠ .none) ∧
    ((g.endGesture platform).2 = true ↔ g.type ≠ .none) := by
  intro g
  have hsettled : g.control.Settled := settled_run (settled_construct memory) operations
  refine ⟨?_, fun number ↦ beginGesture_succeeds_iff, endGesture_succeeds_iff hsettled⟩
  by_cases htype : g.type = .none
  · exact .inl ⟨htype, hsettled.closed htype⟩
  · exact .inr ⟨htype, hsettled.opened htype⟩

end Control

end LPGesture

end Touchless
