import Touchless.GestureInteraction.Placement

/-!
# Where gesture-only mode points

Every handler of gesture-only mode keeps the condition on positions (`placed_handler`).
-/

namespace Touchless

namespace GestureOnlyMode

section

variable {leap : Leap} {P : leap.Scalar → leap.Scalar → Prop} {env : Environment leap}
  {v : FrameState leap} {m : GestureOnlyMode leap}

theorem placed_emit {call : OSCall leap.Scalar} (h : m.Placed P) (hcall : call.IsPlaced P) :
    (m.emit call).Placed P := h.emit hcall

/-! ### The frames -/

theorem placed_gestureRecognition (input : StateMachineInput Input) (h : m.Placed P) :
    (stateGestureRecognition v input m).owner.Placed P := by
  have hreset : ({ m.base (·.clearTracker) with justScrolled := false } :
      GestureOnlyMode leap).Placed P := h.clearTracker
  rw [stateGestureRecognition]
  cases v.timedFrameHistory.getFrameHavingAgeAtLeast gestureRecognitionDuration with
  | none => exact hreset
  | some entry =>
    cases input with
    | user i => cases i <;> exact hreset
    | enter => exact hreset
    | exit => exact hreset

theorem placed_cooldownFrame (h : m.Placed P) : (cooldownFrame v m).owner.Placed P := by
  rw [cooldownFrame]
  split_ifs <;> exact h

theorem placed_twoFingersHoveringFrame (h : m.Placed P) :
    (twoFingersHoveringFrame v m).owner.Placed P := by
  have hfavorite : (m.base (·.refreshFavoritePointableId v)).Placed P :=
    h.refreshFavoritePointableId
  rw [twoFingersHoveringFrame]
  generalize m.base (·.refreshFavoritePointableId v) = b at hfavorite ⊢
  dsimp only
  by_cases hinvalid : leap.pointableIsValid (b.favoritePointable v) = false
  · rw [if_pos hinvalid]
    exact hfavorite
  rw [if_neg hinvalid]
  split_ifs
  · exact hfavorite.trackPointable _
  · exact hfavorite.trackHand _
  · exact hfavorite.trackPointable _
  · exact hfavorite.trackHand _

theorem placed_moveCursor (henv : env.IsPlaced P) (h : m.Placed P) :
    (moveCursor env v m).Placed P := by
  have hfavorite : (m.base (·.refreshFavoritePointableId v)).Placed P :=
    h.refreshFavoritePointableId
  rw [moveCursor]
  split_ifs
  · exact hfavorite.setAbsoluteCursorPositionHand henv _
  · exact hfavorite.setAbsoluteCursorPositionHand henv _
  · exact hfavorite.setAbsoluteCursorPositionPointable henv _

theorem placed_scrollingFrame (h : m.Placed P) : (scrollingFrame v m).owner.Placed P := by
  have hscrolled : (generateScrollBetweenFrames v.currentFrame v.sinceFrame
      (m.base (·.refreshFavoritePointableId v))).Placed P :=
    placed_emit h.refreshFavoritePointableId trivial
  rw [scrollingFrame]
  split_ifs
  · exact hscrolled.trackHand _
  · exact hscrolled.trackPointable _

theorem placed_swipeFrame (h : m.Placed P) : (swipeFrame v m).owner.Placed P := by
  rw [swipeFrame]
  cases v.timedFrameHistory.getFrameHavingAgeAtLeast (100 * MILLISECONDS) with
  | none => exact h
  | some entry => exact placed_emit h trivial

theorem placed_applyPalmSwipe (h : m.Placed P) : (applyPalmSwipe v m).Placed P := by
  rw [applyPalmSwipe]
  cases v.timedFrameHistory.getFrameHavingAgeAtLeast (150 * MILLISECONDS) with
  | none => exact h
  | some since =>
    cases v.timedFrameHistory.getFrameHavingAgeAtLeast (50 * MILLISECONDS) with
    | none => exact h
    | some current => exact placed_emit h trivial

theorem placed_refreshForTouch (h : m.Placed P) : (refreshForTouch v m).Placed P := by
  rw [refreshForTouch]
  split_ifs
  · exact h.refreshFavoritePointableId
  · exact h

/-! ### The handlers -/

theorem placed_cooldown (input : StateMachineInput Input) (h : m.Placed P) :
    (stateCooldown v input m).owner.Placed P := by
  cases input with
  | user i =>
    cases i with
    | processFrame => exact placed_cooldownFrame h
    | _ => exact h
  | enter => exact placed_cooldownFrame (m := { m with cooldownStartTime := v.now }) h
  | exit => exact h

theorem placed_twoFingersHovering (input : StateMachineInput Input) (h : m.Placed P) :
    (stateTwoFingersHovering v input m).owner.Placed P := by
  cases input with
  | user i =>
    cases i with
    | processFrame => exact placed_twoFingersHoveringFrame h
    | _ => exact h
  | enter => exact (h.resetFavoritePointableId (v := v)).refreshFavoritePointableId (v := v)
  | exit => exact h

theorem placed_twoFingersScrolling (henv : env.IsPlaced P) (input : StateMachineInput Input)
    (h : m.Placed P) : (stateTwoFingersScrolling env v input m).owner.Placed P := by
  cases input with
  | user i =>
    cases i with
    | processFrame => exact placed_scrollingFrame h
    | _ => exact h
  | enter =>
    exact placed_emit (placed_moveCursor henv (m := { m with justScrolled := true }) h) trivial
  | exit => exact placed_emit h trivial

theorem placed_swipe (gestureType : GestureType) (input : StateMachineInput Input)
    (h : m.Placed P) : (stateSwipe v gestureType input m).owner.Placed P := by
  cases input with
  | user i =>
    cases i with
    | processFrame => exact placed_swipeFrame h
    | _ => exact h
  | enter => exact placed_swipeFrame (placed_emit h trivial)
  | exit => exact placed_emit h trivial

theorem placed_palmSwipe (input : StateMachineInput Input) (h : m.Placed P) :
    (statePalmSwipe v input m).owner.Placed P := by
  cases input with
  | user i => cases i <;> exact h
  | enter => exact placed_emit h trivial
  | exit => exact placed_emit (placed_applyPalmSwipe h) trivial

/-- **Every handler** of the mode. -/
theorem placed_handler (henv : env.IsPlaced P) (s : State) (input : StateMachineInput Input)
    (h : m.Placed P) : (handlers env v s input m).owner.Placed P := by
  cases s with
  | gestureRecognition => exact placed_gestureRecognition input h
  | cooldown => exact placed_cooldown input h
  | twoFingersHovering => exact placed_twoFingersHovering input h
  | twoFingersScrolling => exact placed_twoFingersScrolling henv input h
  | threePlusFingersSwipeVertical => exact placed_swipe _ input h
  | threePlusFingersSwipeHorizontal => exact placed_swipe _ input h
  | palmSwipe => exact placed_palmSwipe input h

/-- The contract of the states. -/
theorem placedContract (henv : env.IsPlaced P) :
    ModeObject.Contract (handlers env) (fun _ _ m ↦ m.Placed P) (fun _ m ↦ m.Placed P)
      fun m ↦ m.Placed P := fun _ ↦
  .of_handlers neverTransitionsOnExit fun s input _ hm ↦ placed_handler henv s input hm

/-- Frames keep it. -/
theorem placed_processFrame (henv : env.IsPlaced P) {fuel : ℕ} {o o' : Object leap}
    (h : o.machine.Kept (fun _ _ m ↦ m.Placed P) (fun _ m ↦ m.Placed P) .gestureRecognition)
    {frame sinceFrame : leap.Frame}
    (hrun : processFrame env fuel o frame sinceFrame = some o') :
    o'.Holds fun _ _ m ↦ m.Placed P := by
  obtain ⟨o₀, o₁, o₂, o₃, rfl, hinit, hcount, htouch, hframe⟩ := processFrame_some hrun
  have h₁ := (placedContract henv).ensureInitialized (ModeObject.kept_mapOwner
    (o := ⟨o.frame.processFrame (overrides leap) frame sinceFrame, o.machine⟩) h
    (fun _ hm ↦ hm) fun _ _ hm ↦ hm) hinit
  have h₂ := (placedContract henv).runInput h₁ hcount
  have h₃ := (placedContract henv).runInput
    (h₂.mapOwner fun _ _ hm ↦ placed_refreshForTouch hm) htouch
  have hkept : o₃.machine.Kept (fun _ _ m ↦ m.Placed P) (fun _ m ↦ m.Placed P)
      .gestureRecognition := h₃.kept
  exact (placedContract henv).runCurrentState hkept hframe

end

end GestureOnlyMode

end Touchless
