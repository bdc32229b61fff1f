import Touchless.OSInteraction.LPGesture
import Touchless.OSInteraction.TouchManager

/-!
# The OS driver

`OSInteractionDriver` of `OSInteraction/OSInteraction.cpp`, with what `OSInteractionMac.cpp` and
`OSInteractionWin.cpp` make of it, as far as it concerns what is left behind: the mouse button, the
gesture, and the touches. A driver runs the calls of the modes, and `cancelGestureEvents` of the
listener.

`DriverStatus` is what the modes think of the driver. A driver that only gets the calls of a mode is
in step with it (`Follows`); one whose gesture has been cancelled in between trails behind
(`Trails`).
-/

namespace Touchless

/-- What a driver is built on. -/
structure Desktop (F σ : Type) where
  platform : Platform
  touchBackend : TouchBackend F σ
  /-- `ClipPosition` of the virtual screen -/
  clipPosition : F → F → F × F

/-- What a driver has been left with. -/
structure OSInteractionDriver (F σ : Type) where
  /-- has the last `clickDown` not been followed by a `clickUp`? -/
  buttonDown : Bool
  gesture : LPGesture F
  /-- `m_touchManager`, of the driver for Windows -/
  touchManager : Option (TouchManager F σ)

/-- The type of the open gesture after a call. -/
def OSCall.typeAfter {F : Type} (type : GestureType) : OSCall F → GestureType
  | beginGesture gestureType => if type = .none then gestureType else type
  | endGesture => .none
  | _ => type

/-- Is the mouse button down after a call? -/
def OSCall.downAfter {F : Type} (down : Bool) : OSCall F → Bool
  | clickDown _ _ => true
  | clickUp _ _ => false
  | _ => down

/-- A movement finds a gesture of its own type open; the others are dropped. -/
def OSCall.Heard {F : Type} (type : GestureType) : OSCall F → Prop
  | applyZoom _ => type = .zoom
  | applyRotation _ => type = .rotate
  | applyScroll _ _ _ => type = .scroll
  | applyDesktopSwipe _ _ => type.isDesktopSwipe = true
  | _ => True

namespace OSInteractionDriver

variable {F σ : Type}

/-- The constructor, followed by `initializeTouch`. -/
def construct [Arithmetic F] (memory : Vector (GesturePoint F) 11)
    (touchManager : Option (TouchManager F σ)) : OSInteractionDriver F σ where
  buttonDown := false
  gesture := .construct memory
  touchManager := touchManager

/-- The set of touches that `emitTouchEvent` makes of an event. -/
def clipTouches (desktop : Desktop F σ) (event : TouchEvent F) : TouchSet F :=
  event.entries.foldl (fun unordered entry ↦
    let (x, y) := desktop.clipPosition entry.2.x entry.2.y
    let cur : Touch F := { entry.2 with x := x, y := y }
    if (unordered.find? cur.id).isSome then unordered else unordered.insert cur) .empty

section Operations

variable [Arithmetic F] [Rounding F] (desktop : Desktop F σ)

/-- A call of a mode. -/
def exec (d : OSInteractionDriver F σ) (call : OSCall F) : OSInteractionDriver F σ :=
  match call with
  | .clickDown _ _ => { d with buttonDown := true }
  | .clickUp _ _ => { d with buttonDown := false }
  | .beginGesture gestureType =>
    { d with gesture := (d.gesture.beginGesture desktop.platform gestureType.number).1 }
  | .endGesture => { d with gesture := (d.gesture.endGesture desktop.platform).1 }
  | .applyZoom zoom =>
    { d with gesture := (d.gesture.applyZoom desktop.platform (zoom - lit 1)).1 }
  | .applyRotation rotation =>
    { d with gesture := (d.gesture.applyRotation desktop.platform rotation).1 }
  | .applyScroll dx dy timeDiff =>
    { d with gesture := (d.gesture.applyScroll desktop.platform dx dy timeDiff).1 }
  | .applyDesktopSwipe dx dy =>
    { d with gesture := (d.gesture.applyDesktopSwipe desktop.platform dx dy).1 }
  | .emitTouchEvent event =>
    { d with
      touchManager := d.touchManager.map fun m ↦
        m.setTouches desktop.touchBackend (clipTouches desktop event) }
  | .setCursorPosition _ _ _ | .applyCharms _ _ _ => d

/-- A sequence of calls. -/
def run (d : OSInteractionDriver F σ) (calls : List (OSCall F)) : OSInteractionDriver F σ :=
  calls.foldl (exec desktop) d

/-- `cancelGestureEvents`. -/
def cancelGestureEvents (d : OSInteractionDriver F σ) : OSInteractionDriver F σ :=
  { d with
    touchManager := d.touchManager.map fun m ↦ m.clearTouches desktop.touchBackend
    gesture := (d.gesture.endGesture desktop.platform).1 }

/-- A tick of the timer of the momentum. -/
def applyMomentum (d : OSInteractionDriver F σ) : OSInteractionDriver F σ :=
  { d with gesture := d.gesture.applyMomentum desktop.platform }

end Operations

/-- Nothing is held: no button, no gesture, no touch. -/
structure Released (d : OSInteractionDriver F σ) : Prop where
  buttonDown : d.buttonDown = false
  gesture : d.gesture.type = .none
  touches : ∀ m ∈ d.touchManager, m.touches = .empty

/-- The driver is where the modes think it is, but for a gesture that may have been cancelled. -/
structure Trails (d : OSInteractionDriver F σ) (status : DriverStatus) : Prop where
  settled : d.gesture.control.Settled
  buttonDown : d.buttonDown = status.buttonDown
  gesture : d.gesture.type = .none ∨ d.gesture.type = status.gesture.getD .none

/-- The driver is where the modes think it is. -/
structure Follows (d : OSInteractionDriver F σ) (status : DriverStatus) : Prop
    extends Trails d status where
  inStep : d.gesture.type = status.gesture.getD .none

/-! ### What a status allows -/

section Status

variable {status status' : DriverStatus} {call : OSCall F}

theorem downAfter_of_step (h : status.step call = some status') :
    call.downAfter status.buttonDown = status'.buttonDown := by
  obtain ⟨button, hbutton, hdown⟩ := DriverStatus.button_of_step h
  rw [hdown]
  cases call with
  | clickDown number count =>
    obtain ⟨-, rfl⟩ := Bracket.step_opens_eq_some.1 hbutton
    rfl
  | clickUp number count =>
    obtain ⟨-, rfl⟩ := Bracket.step_closes_eq_some.1 hbutton
    rfl
  | _ =>
    obtain rfl := Bracket.step_idle_eq_some.1 hbutton
    exact status.isSome_button.symm

/-- A call does to the type of the gesture what it does to the status. -/
theorem typeAfter_of_step (h : status.step call = some status') :
    call.typeAfter (status.gesture.getD .none) = status'.gesture.getD .none := by
  have hgesture := DriverStatus.gesture_of_step h
  cases call with
  | beginGesture gestureType =>
    obtain ⟨hclosed, hopen⟩ := Bracket.step_opens_eq_some.1 hgesture
    rw [hclosed, hopen]
    rfl
  | endGesture =>
    obtain ⟨-, hclosed⟩ := Bracket.step_closes_eq_some.1 hgesture
    rw [hclosed]
    rfl
  | applyZoom | applyRotation | applyScroll | applyDesktopSwipe =>
    obtain ⟨kind, hopen, -, hsame⟩ := Bracket.step_needs_eq_some.1 hgesture
    rw [hopen, hsame]
    rfl
  | _ =>
    rw [Bracket.step_idle_eq_some.1 hgesture]
    rfl

/-- After a cancellation, the gesture stays closed until the next one begins. -/
theorem typeAfter_none_of_step (h : status.step call = some status') :
    call.typeAfter .none = .none ∨ call.typeAfter .none = status'.gesture.getD .none := by
  have hgesture := DriverStatus.gesture_of_step h
  cases call with
  | beginGesture gestureType =>
    obtain ⟨-, hopen⟩ := Bracket.step_opens_eq_some.1 hgesture
    rw [hopen]
    exact .inr rfl
  | _ => exact .inl rfl

/-- The status makes sure that movements are heard. -/
theorem heard_of_step (h : status.step call = some status') :
    call.Heard (status.gesture.getD .none) := by
  have hgesture := DriverStatus.gesture_of_step h
  cases call with
  | applyZoom | applyRotation | applyScroll | applyDesktopSwipe =>
    obtain ⟨kind, hopen, hsuitable, -⟩ := Bracket.step_needs_eq_some.1 hgesture
    rw [hopen]
    simpa [OSCall.Heard, GestureType.isDesktopSwipe] using hsuitable
  | _ => trivial

end Status

/-! ### What the driver does -/

section Driver

variable [Arithmetic F] [Rounding F] {desktop : Desktop F σ} {d : OSInteractionDriver F σ}
  {status finish : DriverStatus}

theorem buttonDown_exec (call : OSCall F) :
    (d.exec desktop call).buttonDown = call.downAfter d.buttonDown := by
  cases call <;> rfl

theorem settled_exec (h : d.gesture.control.Settled) (call : OSCall F) :
    (d.exec desktop call).gesture.control.Settled := by
  cases call with
  | beginGesture gestureType => exact LPGesture.settled_beginGesture h _
  | endGesture => exact LPGesture.settled_endGesture h
  | applyZoom zoom => exact LPGesture.settled_applyZoom h _
  | applyRotation rotation => exact LPGesture.settled_applyRotation h _
  | applyScroll dx dy timeDiff => exact LPGesture.settled_applyScroll h dx dy timeDiff
  | applyDesktopSwipe dx dy => exact LPGesture.settled_applyDesktopSwipe h dx dy
  | _ => exact h

theorem type_exec (h : d.gesture.control.Settled) (call : OSCall F) :
    (d.exec desktop call).gesture.type = call.typeAfter d.gesture.type := by
  cases call with
  | beginGesture gestureType =>
    show (d.gesture.beginGesture desktop.platform gestureType.number).1.type =
      if d.gesture.type = .none then gestureType else d.gesture.type
    by_cases hopens : d.gesture.type = .none ∧ gestureType ≠ .none
    · rw [if_pos hopens.1, (LPGesture.beginGesture_opens hopens.1 (by simpa using hopens.2)).2.1,
        GestureType.ofNumber_number]
    · rw [not_and_or, not_not] at hopens
      rw [LPGesture.beginGesture_refused (by simpa using hopens)]
      split_ifs with htype
      · rw [htype, hopens.resolve_left (not_not_intro htype)]
      · rfl
  | endGesture => exact LPGesture.type_endGesture h
  | applyZoom zoom => exact (LPGesture.continues_applyZoom _).type
  | applyRotation rotation => exact (LPGesture.continues_applyRotation _).type
  | applyScroll dx dy timeDiff => exact (LPGesture.continues_applyScroll dx dy timeDiff).type
  | applyDesktopSwipe dx dy => exact (LPGesture.continues_applyDesktopSwipe dx dy).type
  | _ => rfl

/-- **A call in its place** keeps the driver behind the status, -/
theorem Trails.exec {call : OSCall F} (h : d.Trails status)
    (hstep : status.step call = some finish) :
    (d.exec desktop call).Trails finish where
  settled := settled_exec h.settled call
  buttonDown := by rw [buttonDown_exec, h.buttonDown, downAfter_of_step hstep]
  gesture := by
    rw [type_exec h.settled]
    rcases h.gesture with hcancelled | hsame
    · rw [hcancelled]
      exact typeAfter_none_of_step hstep
    · rw [hsame]
      exact .inr (typeAfter_of_step hstep)

/-- and in step with it. -/
theorem Follows.exec {call : OSCall F} (h : d.Follows status)
    (hstep : status.step call = some finish) :
    (d.exec desktop call).Follows finish where
  toTrails := h.toTrails.exec hstep
  inStep := by rw [type_exec h.settled, h.inStep, typeAfter_of_step hstep]

/-- **A log of calls** keeps the driver behind the status, -/
theorem Trails.run {calls : List (OSCall F)} (h : d.Trails status)
    (htrack : status.track calls = some finish) : (d.run desktop calls).Trails finish := by
  induction calls generalizing d status with
  | nil =>
    obtain rfl := Option.some.inj htrack
    exact h
  | cons call calls ih =>
    obtain ⟨middle, hstep, hrest⟩ := DriverStatus.track_cons.1 htrack
    exact ih (h.exec hstep) hrest

/-- and in step with it; and all its movements are heard. -/
theorem Follows.run {calls : List (OSCall F)} (h : d.Follows status)
    (htrack : status.track calls = some finish) :
    (d.run desktop calls).Follows finish ∧
      ∀ before call after, calls = before ++ call :: after →
        call.Heard (d.run desktop before).gesture.type := by
  induction calls generalizing d status with
  | nil =>
    obtain rfl := Option.some.inj htrack
    exact ⟨h, fun before call after hsplit ↦ by simp at hsplit⟩
  | cons first calls ih =>
    obtain ⟨middle, hstep, hrest⟩ := DriverStatus.track_cons.1 htrack
    obtain ⟨hfollows, hheard⟩ := ih (h.exec hstep) hrest
    refine ⟨hfollows, fun before call after hsplit ↦ ?_⟩
    rcases List.cons_eq_append_iff.1 hsplit with ⟨rfl, hcons⟩ | ⟨earlier, rfl, hlater⟩
    · obtain ⟨rfl, -⟩ := List.cons.inj hcons
      show call.Heard d.gesture.type
      rw [h.inStep]
      exact heard_of_step hstep
    · exact hheard earlier call after hlater

/-! ### Cancelling -/

theorem type_cancelGestureEvents (h : d.gesture.control.Settled) :
    (d.cancelGestureEvents desktop).gesture.type = .none :=
  LPGesture.type_endGesture h

/-- **`cancelGestureEvents`** releases everything but the button. -/
theorem released_cancelGestureEvents_iff (h : d.gesture.control.Settled) :
    (d.cancelGestureEvents desktop).Released ↔ d.buttonDown = false := by
  refine ⟨fun hreleased ↦ hreleased.buttonDown,
    fun hup ↦ ⟨hup, type_cancelGestureEvents h, fun m hm ↦ ?_⟩⟩
  obtain ⟨touched, -, rfl⟩ := Option.mem_map.1 hm
  exact TouchManager.touches_exec desktop.touchBackend touched .clearTouches

theorem Trails.cancelGestureEvents (h : d.Trails status) :
    (d.cancelGestureEvents desktop).Trails status :=
  ⟨LPGesture.settled_endGesture h.settled, h.buttonDown, .inl (type_cancelGestureEvents h.settled)⟩

/-- Where no gesture is open, there is nothing to cancel. -/
theorem Follows.cancelGestureEvents (h : d.Follows status) (hclosed : status.gesture = none) :
    (d.cancelGestureEvents desktop).Follows status where
  toTrails := h.toTrails.cancelGestureEvents
  inStep := by rw [type_cancelGestureEvents h.settled, hclosed, Option.getD_none]

/-! ### The momentum -/

theorem type_applyMomentum : (d.applyMomentum desktop).gesture.type = d.gesture.type :=
  LPGesture.type_applyMomentum

theorem Trails.applyMomentum (h : d.Trails status) : (d.applyMomentum desktop).Trails status where
  settled := LPGesture.settled_applyMomentum h.settled
  buttonDown := h.buttonDown
  gesture := by
    rw [type_applyMomentum]
    exact h.gesture

theorem Follows.applyMomentum (h : d.Follows status) :
    (d.applyMomentum desktop).Follows status where
  toTrails := h.toTrails.applyMomentum
  inStep := type_applyMomentum.trans h.inStep

end Driver

end OSInteractionDriver

end Touchless
