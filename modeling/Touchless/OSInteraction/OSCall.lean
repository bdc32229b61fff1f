import Touchless.Foundations.Arithmetic
import Touchless.Foundations.Brackets
import Touchless.Foundations.SortedAssoc

/-!
# The calls to the OS driver

What the interaction modes send to the `OSInteractionDriver`, and the discipline of these calls: the
mouse button is pressed and released in turn, a gesture is begun and ended in turn, and movements
are applied to a gesture of their own type. `DriverStatus.track` follows a log of calls and fails
where it breaks the discipline.
-/

namespace Touchless

/-- The gesture types of `LPGesture`. -/
inductive GestureType where
  | none
  | scroll
  | zoom
  | rotate
  | desktopSwipeHorizontal
  | desktopSwipeVertical
  deriving DecidableEq, Repr

/-- `Touch` of `OSInteraction/Touch.h`. -/
structure Touch (F : Type) where
  id : ℕ
  frameId : ℕ
  x : F
  y : F
  touching : Bool

/-- `TouchEvent`: a `std::set` of touches ordered by their ids. -/
abbrev TouchEvent (F : Type) := OrderedMap ℕ (Touch F)

/-- `insert` of `std::set`, which keeps the touch that is there. -/
def TouchEvent.insertNew {F : Type} (event : TouchEvent F) (touch : Touch F) : TouchEvent F :=
  if (event.find? touch.id).isSome then event else event.insert touch.id touch

/-- The methods of `OSInteractionDriver` that the modes call. -/
inductive OSCall (F : Type) where
  | setCursorPosition (fx fy : F) (absolute : Bool)
  | clickDown (button number : ℤ)
  | clickUp (button number : ℤ)
  | beginGesture (gestureType : GestureType)
  | endGesture
  | applyZoom (zoom : F)
  | applyRotation (rotation : F)
  | applyScroll (dx dy : F) (timeDiff : ℤ)
  | applyDesktopSwipe (dx dy : F)
  | applyCharms (aspectNormalized : Vector3 F) (numPointablesActive charmsMode : ℤ)
  | emitTouchEvent (event : TouchEvent F)

namespace OSCall

variable {F : Type}

/-- What a call means for the mouse button. -/
def buttonRole : OSCall F → Bracket Unit
  | clickDown _ _ => .opens ()
  | clickUp _ _ => .closes
  | _ => .idle

/-- What a call means for the gesture. -/
def gestureRole : OSCall F → Bracket GestureType
  | beginGesture gestureType => .opens gestureType
  | endGesture => .closes
  | applyZoom _ => .needs (· = .zoom)
  | applyRotation _ => .needs (· = .rotate)
  | applyScroll _ _ _ => .needs (· = .scroll)
  | applyDesktopSwipe _ _ =>
    .needs fun t ↦ t = .desktopSwipeHorizontal ∨ t = .desktopSwipeVertical
  | _ => .idle

end OSCall

/-- What the driver has been left with: is the button down, and which gesture is open? -/
structure DriverStatus where
  buttonDown : Bool
  gesture : Option GestureType
  deriving DecidableEq, Repr

namespace DriverStatus

variable {F : Type} {start finish : DriverStatus} {calls : List (OSCall F)}

/-- Nothing pressed and nothing open. -/
def idle : DriverStatus := ⟨false, none⟩

/-- The button as a resource. -/
def button (status : DriverStatus) : Option Unit := if status.buttonDown then some () else none

/-- The status after a call; `none` if the call is out of place. -/
def step (status : DriverStatus) (call : OSCall F) : Option DriverStatus := do
  let button ← Bracket.step status.button call.buttonRole
  let gesture ← Bracket.step status.gesture call.gestureRole
  return ⟨button.isSome, gesture⟩

/-- The status after a log of calls. -/
def track (start : DriverStatus) (calls : List (OSCall F)) : Option DriverStatus :=
  calls.foldlM step start

@[simp]
theorem track_nil : track start ([] : List (OSCall F)) = some start := rfl

@[simp]
theorem track_concat (call : OSCall F) :
    track start (calls ++ [call]) = (track start calls).bind fun status ↦ status.step call := by
  simp [track, List.foldlM_append]

theorem track_cons {call : OSCall F} :
    track start (call :: calls) = some finish ↔
      ∃ middle, start.step call = some middle ∧ middle.track calls = some finish := by
  rw [track, List.foldlM_cons, Option.bind_eq_bind, Option.bind_eq_some_iff]
  rfl

section Step

variable (status : DriverStatus) (down : Bool) (g : Option GestureType)

@[simp] theorem step_setCursorPosition (fx fy : F) (absolute : Bool) :
    status.step (.setCursorPosition fx fy absolute) = some status := by
  rcases status with ⟨_ | _, _ | _⟩ <;> rfl

@[simp] theorem step_applyCharms (v : Vector3 F) (n mode : ℤ) :
    status.step (.applyCharms v n mode) = some status := by
  rcases status with ⟨_ | _, _ | _⟩ <;> rfl

@[simp] theorem step_emitTouchEvent (event : TouchEvent F) :
    status.step (.emitTouchEvent event) = some status := by
  rcases status with ⟨_ | _, _ | _⟩ <;> rfl

@[simp] theorem step_clickDown (button number : ℤ) :
    step ⟨false, g⟩ (.clickDown button number : OSCall F) = some ⟨true, g⟩ := by
  cases g <;> rfl

@[simp] theorem step_clickUp (button number : ℤ) :
    step ⟨true, g⟩ (.clickUp button number : OSCall F) = some ⟨false, g⟩ := by
  cases g <;> rfl

@[simp] theorem step_beginGesture (gestureType : GestureType) :
    step ⟨down, none⟩ (.beginGesture gestureType : OSCall F) = some ⟨down, some gestureType⟩ := by
  cases down <;> rfl

@[simp] theorem step_endGesture (gestureType : GestureType) :
    step ⟨down, some gestureType⟩ (.endGesture : OSCall F) = some ⟨down, none⟩ := by
  cases down <;> rfl

@[simp] theorem step_applyZoom (zoom : F) :
    step ⟨down, some .zoom⟩ (.applyZoom zoom) = some ⟨down, some .zoom⟩ := by
  cases down <;> rfl

@[simp] theorem step_applyRotation (rotation : F) :
    step ⟨down, some .rotate⟩ (.applyRotation rotation) = some ⟨down, some .rotate⟩ := by
  cases down <;> rfl

@[simp] theorem step_applyScroll (dx dy : F) (timeDiff : ℤ) :
    step ⟨down, some .scroll⟩ (.applyScroll dx dy timeDiff) = some ⟨down, some .scroll⟩ := by
  cases down <;> rfl

@[simp] theorem step_applyDesktopSwipe_horizontal (dx dy : F) :
    step ⟨down, some .desktopSwipeHorizontal⟩ (.applyDesktopSwipe dx dy) =
      some ⟨down, some .desktopSwipeHorizontal⟩ := by
  cases down <;> rfl

@[simp] theorem step_applyDesktopSwipe_vertical (dx dy : F) :
    step ⟨down, some .desktopSwipeVertical⟩ (.applyDesktopSwipe dx dy) =
      some ⟨down, some .desktopSwipeVertical⟩ := by
  cases down <;> rfl

end Step

theorem button_eq (button : Option Unit) (gesture : Option GestureType) :
    DriverStatus.button ⟨button.isSome, gesture⟩ = button := by
  cases button <;> rfl

theorem isSome_button (status : DriverStatus) : status.button.isSome = status.buttonDown := by
  rcases status with ⟨_ | _, gesture⟩ <;> rfl

/-- What a call in its place does to the button, -/
theorem button_of_step {status status' : DriverStatus} {call : OSCall F}
    (h : status.step call = some status') :
    ∃ button, Bracket.step status.button call.buttonRole = some button ∧
      status'.buttonDown = button.isSome := by
  simp only [step, Option.bind_eq_bind, Option.bind_eq_some_iff, Option.pure_def,
    Option.some.injEq] at h
  obtain ⟨button, hbutton, gesture, -, rfl⟩ := h
  exact ⟨button, hbutton, rfl⟩

/-- and to the gesture. -/
theorem gesture_of_step {status status' : DriverStatus} {call : OSCall F}
    (h : status.step call = some status') :
    Bracket.step status.gesture call.gestureRole = some status'.gesture := by
  simp only [step, Option.bind_eq_bind, Option.bind_eq_some_iff, Option.pure_def,
    Option.some.injEq] at h
  obtain ⟨button, -, gesture, hgesture, rfl⟩ := h
  exact hgesture

/-- **Tracking is replaying both resources.** -/
theorem replay_of_track : ∀ {start : DriverStatus} {calls : List (OSCall F)},
    track start calls = some finish →
      Bracket.replay OSCall.buttonRole start.button calls = some finish.button ∧
        Bracket.replay OSCall.gestureRole start.gesture calls = some finish.gesture := by
  intro start calls
  induction calls generalizing start with
  | nil =>
    intro h
    obtain rfl := Option.some.inj h
    exact ⟨rfl, rfl⟩
  | cons call calls ih =>
    intro h
    rw [track, List.foldlM_cons, Option.bind_eq_bind, Option.bind_eq_some_iff] at h
    obtain ⟨middle, hstep, hrest⟩ := h
    simp only [step, Option.bind_eq_bind, Option.bind_eq_some_iff, Option.pure_def,
      Option.some.injEq] at hstep
    obtain ⟨button, hbutton, gesture, hgesture, rfl⟩ := hstep
    obtain ⟨hbuttons, hgestures⟩ := ih hrest
    rw [button_eq] at hbuttons
    simp only [Bracket.replay, List.foldlM_cons, hbutton, hgesture, Option.bind_eq_bind,
      Option.bind_some] at hbuttons hgestures ⊢
    exact ⟨hbuttons, hgestures⟩

end DriverStatus

/-- A log of calls in which the button and the gestures are used as they should be. -/
structure WellBehaved {F : Type} (calls : List (OSCall F)) : Prop where
  /-- `clickDown` and `clickUp` alternate, beginning with `clickDown` -/
  clicks : Bracket.WellBracketed OSCall.buttonRole calls
  /-- `beginGesture` and `endGesture` alternate, and whatever is applied is applied to an open
  gesture of its type -/
  gestures : Bracket.WellBracketed OSCall.gestureRole calls

theorem wellBehaved_of_track {F : Type} {calls : List (OSCall F)} {finish : DriverStatus}
    (h : DriverStatus.track .idle calls = some finish) : WellBehaved calls :=
  have hreplay := DriverStatus.replay_of_track h
  ⟨Bracket.replay_wellBracketed hreplay.1, Bracket.replay_wellBracketed hreplay.2⟩

end Touchless
