import Touchless.GestureInteraction.Placement

/-!
# Where finger mouse points

Every handler of `FingerMouse` keeps the condition on positions (`placed_handler`).
-/

namespace Touchless

namespace FingerMouse

section

variable {leap : Leap} {P : leap.Scalar → leap.Scalar → Prop} {env : Environment leap}
  {settings : Settings leap.Scalar} {v : FrameState leap} {m : FingerMouse leap}

theorem placed_emit {call : OSCall leap.Scalar} (h : m.Placed P) (hcall : call.IsPlaced P) :
    (m.emit call).Placed P := h.emit hcall

/-! ### Overlays -/

@[simp]
theorem placed_drawPointingOverlay (h : m.Placed P) :
    (drawPointingOverlay settings v m).Placed P := by
  rw [drawPointingOverlay]
  split_ifs
  · exact (h.refreshFavoritePointableId (v := v)).drawOverlayForPointable _
  · exact h

/-- The overlays of gestures. -/
@[simp]
theorem placed_drawGestureOverlay (h : m.Placed P) :
    (drawGestureOverlay settings v m).Placed P := by
  rw [drawGestureOverlay]
  split_ifs
  · exact h.refreshFavoritePointableId
  · exact h

/-! ### The cursor -/

@[simp]
theorem placed_moveCursorToPointable (henv : env.IsPlaced P) (h : m.Placed P) :
    (moveCursorToPointable env v m).Placed P :=
  (h.refreshFavoritePointableId (v := v)).setAbsoluteCursorPositionPointable henv _

@[simp]
theorem placed_moveCursor (henv : env.IsPlaced P) (h : m.Placed P) :
    (moveCursor env v m).Placed P := by
  have hfavorite : (m.toManager.refreshFavoritePointableId v).Placed P :=
    h.refreshFavoritePointableId
  rw [moveCursor, base]
  dsimp only
  split_ifs
  · exact hfavorite.setAbsoluteCursorPositionHand henv _
  · exact hfavorite.setAbsoluteCursorPositionPointable henv _

@[simp]
theorem placed_moveCursorAlways (henv : env.IsPlaced P) (h : m.Placed P) :
    (moveCursorAlways env settings v m).Placed P := by
  rw [moveCursorAlways]
  split_ifs
  · exact placed_moveCursor henv h
  · exact h

/-! ### The frames -/

theorem placed_noFingersFrame (h : m.Placed P) : (noFingersFrame settings v m).owner.Placed P := by
  rw [noFingersFrame]
  split_ifs <;> exact h

theorem placed_oneFingerHoveringFrame (henv : env.IsPlaced P) (h : m.Placed P) :
    (oneFingerHoveringFrame env settings v m).owner.Placed P := by
  rw [oneFingerHoveringFrame]
  split_ifs
  · exact h
  · exact h
  · exact placed_moveCursorToPointable henv (placed_drawPointingOverlay h)

theorem placed_pressButton (henv : env.IsPlaced P) (h : m.Placed P) :
    (pressButton env v m).Placed P :=
  placed_emit (placed_moveCursorToPointable henv h) trivial

theorem placed_holdClick (h : m.Placed P) : (holdClick env v m).owner.Placed P := by
  rw [holdClick]
  split_ifs <;> exact h

theorem placed_clickingFrame (h : m.Placed P) :
    (clickingFrame env settings v m).owner.Placed P := by
  rw [clickingFrame]
  split_ifs
  · exact h
  · exact h
  · exact placed_holdClick (placed_drawPointingOverlay h)

theorem placed_draggingFrame (henv : env.IsPlaced P) (h : m.Placed P) :
    (draggingFrame env settings v m).owner.Placed P := by
  rw [draggingFrame]
  split_ifs
  · exact h
  · exact h
  · exact placed_moveCursorToPointable henv (placed_drawPointingOverlay h)

theorem placed_twoFingersHoveringFrame (henv : env.IsPlaced P) (h : m.Placed P) :
    (twoFingersHoveringFrame env settings v m).owner.Placed P := by
  rw [twoFingersHoveringFrame]
  split_ifs
  · exact h
  · exact h
  · exact h
  · exact placed_moveCursor henv (placed_drawGestureOverlay h)

theorem placed_twoFingersGestureRecognitionFrame (h : m.Placed P) :
    (twoFingersGestureRecognitionFrame settings v m).owner.Placed P := by
  rw [twoFingersGestureRecognitionFrame]
  split_ifs
  · exact h
  · exact h
  · cases recognizedGesture v with
    | none => exact placed_drawGestureOverlay h
    | some state => exact placed_drawGestureOverlay h

theorem placed_twoFingersGestureFrame {goOn : FingerMouse leap → FingerMouse leap}
    (hgoOn : (goOn m).Placed P) (h : m.Placed P) :
    (twoFingersGestureFrame settings v goOn m).owner.Placed P := by
  rw [twoFingersGestureFrame]
  split_ifs
  · exact h
  · exact h
  · exact hgoOn

/-- A movement is begun and applied. -/
theorem placed_beginMovement {gesture : GestureType} {movement : OSCall leap.Scalar}
    (hmove : movement.IsPlaced P) (h : m.Placed P) :
    (({ m with drawOverlays := true }.emit (.beginGesture gesture)).emit movement).Placed P :=
  placed_emit (placed_emit (m := { m with drawOverlays := true }) h trivial) hmove

/-- A movement that goes on moves the cursor too. -/
theorem placed_goOn {movement : OSCall leap.Scalar} (henv : env.IsPlaced P)
    (hmove : movement.IsPlaced P) (h : m.Placed P) :
    ((moveCursorAlways env settings v (drawGestureOverlay settings v m)).emit movement).Placed P :=
  placed_emit (placed_moveCursorAlways henv (placed_drawGestureOverlay h)) hmove

theorem placed_threePlusFingersFrame (henv : env.IsPlaced P) (h : m.Placed P) :
    (threePlusFingersFrame env settings v m).owner.Placed P := by
  rw [threePlusFingersFrame]
  split_ifs
  · exact h
  · cases v.collectiveZone with
    | hovering => exact h
    | touching => exact h
    | none => exact placed_moveCursorAlways henv h

theorem placed_threePlusFingersHoveringFrame (henv : env.IsPlaced P) (h : m.Placed P) :
    (threePlusFingersHoveringFrame env settings v m).owner.Placed P := by
  have hdrawn : (drawDesktopSwipeOverlay settings v m).Placed P := placed_drawGestureOverlay h
  rw [threePlusFingersHoveringFrame]
  split_ifs
  · exact h
  · cases v.collectiveZone with
    | none => exact h
    | touching => exact h
    | hovering => exact placed_moveCursor henv hdrawn
  · cases v.collectiveZone with
    | none => exact h
    | touching => exact h
    | hovering => exact hdrawn

theorem placed_threePlusFingersGestureRecognitionFrame (henv : env.IsPlaced P) (h : m.Placed P) :
    (threePlusFingersGestureRecognitionFrame env settings v m).owner.Placed P := by
  rw [threePlusFingersGestureRecognitionFrame]
  split_ifs
  · exact h
  · cases v.collectiveZone with
    | none => exact h
    | hovering => exact h
    | touching => exact placed_moveCursorAlways henv (placed_drawGestureOverlay h)

theorem placed_swipeVerticalFrame (h : m.Placed P) :
    (swipeVerticalFrame settings v m).owner.Placed P := by
  rw [swipeVerticalFrame]
  split_ifs
  · exact h
  · exact h
  · exact placed_drawGestureOverlay (placed_emit h trivial)
  · exact placed_drawGestureOverlay (placed_emit h trivial)

theorem placed_swipeHorizontalFrame (h : m.Placed P) :
    (swipeHorizontalFrame settings v m).owner.Placed P := by
  rw [swipeHorizontalFrame]
  split_ifs
  · exact h
  · exact h
  · exact placed_drawGestureOverlay (placed_emit h trivial)

theorem placed_palmGestureRecognitionFrame (h : m.Placed P) :
    (palmGestureRecognitionFrame settings v m).owner.Placed P := by
  rw [palmGestureRecognitionFrame]
  split_ifs
  · exact h
  · cases v.palmHand with
    | none => exact h
    | some hand =>
      dsimp only
      split_ifs
      · exact h
      · exact placed_drawGestureOverlay h
      · exact placed_drawGestureOverlay h

theorem placed_palmSwipeFrame (h : m.Placed P) :
    (handlers env settings v .palmSwipe (.user .processFrame) m).owner.Placed P := by
  rw [handlers, statePalmSwipe]
  split_ifs
  · exact h
  · exact placed_emit (placed_drawGestureOverlay h) trivial

/-! ### The handlers -/

theorem placed_frame (henv : env.IsPlaced P) (s : State) (h : m.Placed P) :
    (handlers env settings v s (.user .processFrame) m).owner.Placed P := by
  cases s with
  | noFingersNoInteraction => exact placed_noFingersFrame h
  | oneFingerHovering => exact placed_oneFingerHoveringFrame henv h
  | oneFingerClicking => exact placed_clickingFrame h
  | oneFingerDragging => exact placed_draggingFrame henv h
  | twoFingersHovering => exact placed_twoFingersHoveringFrame henv h
  | twoFingersGestureRecognition => exact placed_twoFingersGestureRecognitionFrame h
  | twoFingersRotating => exact placed_twoFingersGestureFrame (placed_goOn henv trivial h) h
  | twoFingersScrolling =>
    exact placed_twoFingersGestureFrame
      (placed_moveCursorAlways henv (placed_drawGestureOverlay (placed_emit h trivial))) h
  | twoFingersZooming => exact placed_twoFingersGestureFrame (placed_goOn henv trivial h) h
  | threePlusFingersNoInteraction => exact placed_threePlusFingersFrame henv h
  | threePlusFingersHovering => exact placed_threePlusFingersHoveringFrame henv h
  | threePlusFingersGestureRecognition =>
    exact placed_threePlusFingersGestureRecognitionFrame henv h
  | threePlusFingersSwipeVertical => exact placed_swipeVerticalFrame h
  | threePlusFingersSwipeHorizontal => exact placed_swipeHorizontalFrame h
  | palmGestureRecognition => exact placed_palmGestureRecognitionFrame h
  | palmSwipe => exact placed_palmSwipeFrame h

theorem placed_startHovering (h : m.Placed P) :
    ({ m with drawOverlays := true }.base (·.resetFavoritePointableId v)).Placed P :=
  h.resetFavoritePointableId

theorem placed_enter (henv : env.IsPlaced P) (s : State) (h : m.Placed P) :
    (handlers env settings v s .enter m).owner.Placed P := by
  have hoverlays : ({ m with drawOverlays := true } : FingerMouse leap).Placed P := h
  have hstart : ({ m with gestureStart := v.currentFrame } : FingerMouse leap).Placed P := h
  cases s with
  | noFingersNoInteraction =>
    exact placed_noFingersFrame (m := { m with drawOverlays := true }.base (·.clearTracker))
      h.clearTracker
  | oneFingerHovering => exact placed_oneFingerHoveringFrame henv (placed_startHovering h)
  | oneFingerClicking => exact placed_pressButton henv hoverlays
  | oneFingerDragging => exact placed_draggingFrame henv hoverlays
  | twoFingersHovering => exact placed_twoFingersHoveringFrame henv (placed_startHovering h)
  | twoFingersGestureRecognition =>
    exact placed_twoFingersGestureRecognitionFrame (placed_moveCursor henv
      (m := { m with drawOverlays := true, gestureStart := v.currentFrame }) h)
  | twoFingersRotating => exact placed_beginMovement trivial h
  | twoFingersScrolling => exact placed_beginMovement trivial h
  | twoFingersZooming => exact placed_beginMovement trivial h
  | threePlusFingersNoInteraction =>
    exact placed_threePlusFingersFrame henv (placed_startHovering h)
  | threePlusFingersHovering => exact h
  | threePlusFingersGestureRecognition =>
    exact placed_threePlusFingersGestureRecognitionFrame henv hstart
  | threePlusFingersSwipeVertical => exact placed_emit hoverlays trivial
  | threePlusFingersSwipeHorizontal => exact placed_emit h trivial
  | palmGestureRecognition => exact placed_palmGestureRecognitionFrame hstart
  | palmSwipe => exact placed_emit h trivial

theorem placed_exit (s : State) (h : m.Placed P) :
    (handlers env settings v s .exit m).owner.Placed P := by
  cases s with
  | oneFingerClicking =>
    simp only [handlers, stateOneFingerClicking, owner_done]
    split_ifs
    · exact h
    · exact placed_emit h trivial
  | oneFingerDragging => exact placed_emit h trivial
  | twoFingersRotating => exact placed_emit h trivial
  | twoFingersScrolling => exact placed_emit h trivial
  | twoFingersZooming => exact placed_emit h trivial
  | threePlusFingersSwipeVertical => exact placed_emit h trivial
  | threePlusFingersSwipeHorizontal => exact placed_emit h trivial
  | palmSwipe => exact placed_emit h trivial
  | _ => exact h

/-- **Every handler** of the mode. -/
theorem placed_handler (henv : env.IsPlaced P) (s : State) (input : StateMachineInput Input)
    (h : m.Placed P) : (handlers env settings v s input m).owner.Placed P := by
  cases input with
  | user i =>
    cases i with
    | processFrame => exact placed_frame henv s h
    | lostFocus => cases s <;> exact h
  | enter => exact placed_enter henv s h
  | exit => exact placed_exit s h

/-- The contract of the states. -/
theorem placedContract (henv : env.IsPlaced P) (settings : Settings leap.Scalar) :
    ModeObject.Contract (handlers env settings) (fun _ _ m ↦ m.Placed P) (fun _ m ↦ m.Placed P)
      fun m ↦ m.Placed P := fun _ ↦
  .of_handlers neverTransitionsOnExit fun s input _ hm ↦ placed_handler henv s input hm

/-- Frames keep it. -/
theorem placed_processFrame (henv : env.IsPlaced P) {fuel : ℕ} {o o' : Object leap}
    (h : o.machine.Kept (fun _ _ m ↦ m.Placed P) (fun _ m ↦ m.Placed P) .noFingersNoInteraction)
    {frame sinceFrame : leap.Frame}
    (hrun : processFrame env settings fuel o frame sinceFrame = some o') :
    o'.Holds fun _ _ m ↦ m.Placed P := by
  simp only [processFrame, processFrameInternal, Option.bind_eq_bind,
    Option.bind_eq_some_iff] at hrun
  obtain ⟨o₁, hinit, hrun⟩ := hrun
  have hentered := (placedContract henv settings).ensureInitialized
    (o := { o with frame := o.frame.processFrame (overrides leap) frame sinceFrame }) h hinit
  have hkept : o₁.machine.Kept (fun _ _ m ↦ m.Placed P) (fun _ m ↦ m.Placed P)
      .noFingersNoInteraction := hentered.kept
  exact (placedContract henv settings).runCurrentState hkept hrun

end

end FingerMouse

end Touchless
