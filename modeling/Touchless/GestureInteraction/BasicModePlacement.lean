import Touchless.GestureInteraction.Placement

/-!
# Where basic mode points

Every handler of basic mode keeps the condition on positions (`placed_handler`).
-/

namespace Touchless

namespace BasicMode

section

variable {leap : Leap} {P : leap.Scalar → leap.Scalar → Prop} {env : Environment leap}
  {settings : Settings leap.Scalar} {v : FrameState leap} {m : BasicMode leap}

theorem placed_emit {call : OSCall leap.Scalar} (h : m.Placed P) (hcall : call.IsPlaced P) :
    (m.emit call).Placed P := h.emit hcall

@[simp]
theorem placed_setAbsoluteCursorPositionHand (henv : env.IsPlaced P) (h : m.Placed P) :
    (setAbsoluteCursorPositionHand env v m).Placed P := by
  rw [setAbsoluteCursorPositionHand, toManager_base]
  split_ifs <;> simp [h, henv]

@[simp]
theorem placed_setAbsoluteCursorPositionPointable (henv : env.IsPlaced P) (h : m.Placed P) :
    (setAbsoluteCursorPositionPointable env v m).Placed P := by
  rw [setAbsoluteCursorPositionPointable, toManager_base]
  split_ifs <;> simp [h, henv]

/-- The two ways of a click. -/
theorem placed_pressButton (henv : env.IsPlaced P) (h : m.Placed P) :
    (pressButton env v m).Placed P :=
  (placed_setAbsoluteCursorPositionPointable henv h).emit trivial

theorem placed_touchDown (henv : env.IsPlaced P) (h : m.Placed P) :
    (touchDown env v m).Placed P :=
  h.refreshFavoritePointableId.addTouchPointForPointable henv _ _ _ _

@[simp]
theorem placed_releaseClick (henv : env.IsPlaced P) (h : m.Placed P) :
    (releaseClick env settings v m).Placed P := by
  rw [releaseClick]
  split_ifs
  · exact h.emit trivial
  · exact h.refreshFavoritePointableId.addTouchPointForPointable henv _ _ _ _
  · exact h

@[simp]
theorem placed_charms (h : m.Placed P) : (charms env v m).Placed P := by
  rw [charms]
  split_ifs
  · exact (h.drawOverlayForPointable _).emit trivial
  · exact h

@[simp]
theorem placed_holdClick (henv : env.IsPlaced P) (h : m.Placed P) :
    (holdClick env settings v m).Placed P := by
  have hrelease : (releaseClickInPlace env settings v m).Placed P := by
    rw [releaseClickInPlace]
    split_ifs
    · exact placed_releaseClick henv h
    · exact h
  rw [holdClick]
  split_ifs
  · exact placed_setAbsoluteCursorPositionPointable henv hrelease
  · exact hrelease
  · exact h
  · exact h.addTouchPointForPointable henv _ _ _ _

theorem placed_generateScrollBetweenFrames {currentFrame sinceFrame : leap.Frame}
    (h : m.Placed P) :
    (generateScrollBetweenFrames settings currentFrame sinceFrame m).Placed P := h.emit trivial

/-! ### The frames -/

theorem placed_noPointablesFrame (h : m.Placed P) :
    (noPointablesFrame settings v m).owner.Placed P := by
  rw [noPointablesFrame]
  split_ifs
  · exact h
  · exact h.clearTracker

theorem placed_onePointableHoveringFrame (henv : env.IsPlaced P) (h : m.Placed P) :
    (onePointableHoveringFrame env settings v m).owner.Placed P := by
  rw [onePointableHoveringFrame]
  have hfavorite : (m.base (·.refreshFavoritePointableId v)).Placed P :=
    h.refreshFavoritePointableId
  split_ifs
  · exact hfavorite
  · exact placed_pressButton henv hfavorite
  · exact placed_touchDown henv hfavorite
  · exact (placed_charms (placed_setAbsoluteCursorPositionPointable henv
      hfavorite)).drawOverlayForPointable _
  · exact (placed_charms (hfavorite.addTouchPointForPointable henv _ _ _
      _)).drawOverlayForPointable _

theorem placed_clickCooldownFrame (henv : env.IsPlaced P) (h : m.Placed P) :
    (clickCooldownFrame env settings v m).owner.Placed P := by
  rw [clickCooldownFrame]
  split_ifs
  · exact h
  · exact h
  · exact (placed_holdClick henv (h.refreshFavoritePointableId (v := v))).drawOverlayForPointable _

theorem placed_twoPlusPointablesHoveringFrame (henv : env.IsPlaced P) (h : m.Placed P) :
    (twoPlusPointablesHoveringFrame env settings v m).owner.Placed P := by
  have hfavorite : (m.base (·.refreshFavoritePointableId v)).Placed P :=
    h.refreshFavoritePointableId
  rw [twoPlusPointablesHoveringFrame]
  generalize m.base (·.refreshFavoritePointableId v) = b at hfavorite ⊢
  by_cases hchange : groupChanges settings v (tooFewForScrolling settings) = true
  · rw [if_pos hchange]
    exact h
  rw [if_neg hchange]
  dsimp only
  by_cases hinvalid :
      b.favoriteHandId < 0 ∧ leap.pointableIsValid (b.favoritePointable v) = false
  · rw [if_pos hinvalid]
    exact hfavorite
  rw [if_neg hinvalid]
  -- the choice of a hand is not a matter of the base class
  have hchosen : (if b.favoriteHandId < 0 then
      { b with favoriteHandId := leap.handId (leap.handOf (b.favoritePointable v)) }
      else b).Placed P := by split_ifs <;> exact hfavorite
  generalize (if b.favoriteHandId < 0 then
      { b with favoriteHandId := leap.handId (leap.handOf (b.favoritePointable v)) }
      else b) = n at hchosen ⊢
  by_cases hhand : n.favoriteHandId < 0
  · rw [if_pos hhand]
    split_ifs
    · exact hchosen.drawOverlayForPointable _
    · exact (hchosen.addTouchPointForPointable henv _ _ _ _).drawOverlayForPointable _
  rw [if_neg hhand]
  by_cases hvalid : leap.handIsValid (leap.hand v.currentFrame n.favoriteHandId) = false
  · rw [if_pos hvalid]
    exact hchosen
  rw [if_neg hvalid]
  by_cases htouching :
      FrameState.hasFingersTouching (leap.hand v.currentFrame n.favoriteHandId) = true
  · rw [if_pos htouching]
    exact hchosen
  rw [if_neg htouching]
  split_ifs
  · exact hchosen.trackHand _
  · exact (hchosen.addTouchPointForHand henv _ _).trackHand _

theorem placed_scrollingFrame (henv : env.IsPlaced P) (h : m.Placed P) :
    (scrollingFrame env settings v m).owner.Placed P := by
  rw [scrollingFrame]
  split_ifs
  · exact h
  · exact h
  · exact h
  · exact (placed_generateScrollBetweenFrames h).trackHand _
  · exact (h.addTouchPointForHand henv _ _).trackHand _

theorem placed_twoHandsHoveringFrame (henv : env.IsPlaced P) (h : m.Placed P) :
    (twoHandsHoveringFrame env settings v m).owner.Placed P := by
  rw [twoHandsHoveringFrame]
  cases multiHand v with
  | none => exact h
  | some pointables =>
    dsimp only
    split_ifs
    · exact h
    · exact h
    · exact h.setAbsoluteCursorPositionPointable henv _
    · exact (h.addTouchPointForPointable henv _ _ _ _).addTouchPointForPointable henv _ _ _ _

theorem placed_twoHandsGestureRecognitionFrame (h : m.Placed P) :
    (twoHandsGestureRecognitionFrame settings v m).owner.Placed P := by
  rw [twoHandsGestureRecognitionFrame]
  split_ifs <;> exact h

theorem placed_twoHandsGestureFrame {movement : OSCall leap.Scalar} (hmove : movement.IsPlaced P)
    (h : m.Placed P) : (twoHandsGestureFrame settings v movement m).owner.Placed P := by
  rw [twoHandsGestureFrame]
  split_ifs
  · exact h
  · exact h
  · exact placed_emit h hmove

theorem placed_startHovering (h : m.Placed P) :
    ({ m with updateCursor := true }.base (·.resetFavoritePointableId v)).Placed P :=
  h.resetFavoritePointableId

/-- A movement is begun and applied. -/
theorem placed_beginMovement {gesture : GestureType} {movement : OSCall leap.Scalar}
    (hmove : movement.IsPlaced P) (h : m.Placed P) :
    (({ m with updateCursor := true }.emit (.beginGesture gesture)).emit movement).Placed P :=
  placed_emit (placed_emit (m := { m with updateCursor := true }) h trivial) hmove

theorem placed_twoHandsTouchFrame (henv : env.IsPlaced P) (h : m.Placed P) :
    (twoHandsTouchFrame env settings v m).owner.Placed P := by
  rw [twoHandsTouchFrame]
  cases multiHand v with
  | none => exact h
  | some pointables =>
    exact (h.addTouchPointForPointable henv _ _ _ _).addTouchPointForPointable henv _ _ _ _

/-! ### The handlers -/

theorem placed_frame (henv : env.IsPlaced P) (s : State) (h : m.Placed P) :
    (handlers env settings v s (.user .processFrame) m).owner.Placed P := by
  cases s with
  | noPointablesNoInteraction => exact placed_noPointablesFrame h
  | onePointableHovering => exact placed_onePointableHoveringFrame henv h
  | onePointableClickCooldown => exact placed_clickCooldownFrame henv h
  | twoPlusPointablesHovering => exact placed_twoPlusPointablesHoveringFrame henv h
  | twoPlusPointablesScrolling => exact placed_scrollingFrame henv h
  | twoHandsHovering => exact placed_twoHandsHoveringFrame henv h
  | twoHandsGestureRecognition => exact placed_twoHandsGestureRecognitionFrame h
  | twoHandsRotating => exact placed_twoHandsGestureFrame trivial h
  | twoHandsZooming => exact placed_twoHandsGestureFrame trivial h
  | twoHandsTouch => exact placed_twoHandsTouchFrame henv h
  | palmGestureRecognition => exact h
  | palmSwipe => exact placed_emit h trivial

theorem placed_enter (henv : env.IsPlaced P) (s : State) (h : m.Placed P) :
    (handlers env settings v s .enter m).owner.Placed P := by
  cases s with
  | noPointablesNoInteraction =>
    exact placed_noPointablesFrame (m := { m with updateCursor := true }) h
  | onePointableHovering => exact placed_onePointableHoveringFrame henv (placed_startHovering h)
  | onePointableClickCooldown => exact placed_clickCooldownFrame henv h
  | twoPlusPointablesHovering =>
    have hreset : ({ m with favoriteHandId := -1 }.base fun b ↦
        (b.resetFavoritePointableId v).refreshFavoritePointableId v).Placed P :=
      h.resetFavoritePointableId.refreshFavoritePointableId
    simp only [handlers, stateTwoPlusPointablesHovering]
    split_ifs
    · exact hreset
    · exact placed_twoPlusPointablesHoveringFrame henv hreset
  | twoPlusPointablesScrolling =>
    simp only [handlers, stateTwoPlusPointablesScrolling, owner_done]
    split_ifs
    · exact placed_emit (placed_setAbsoluteCursorPositionHand henv h) trivial
    · exact h.addTouchPointForHand henv _ _
  | twoHandsHovering => exact placed_twoHandsHoveringFrame henv (placed_startHovering h)
  | twoHandsGestureRecognition =>
    exact placed_twoHandsGestureRecognitionFrame
      (m := { m with updateCursor := true, gestureStart := v.currentFrame }) h
  | twoHandsRotating => exact placed_beginMovement trivial h
  | twoHandsZooming => exact placed_beginMovement trivial h
  | twoHandsTouch => exact placed_twoHandsTouchFrame henv (m := { m with updateCursor := true }) h
  | palmGestureRecognition => exact h
  | palmSwipe => exact placed_emit h trivial

theorem placed_exit (henv : env.IsPlaced P) (s : State) (h : m.Placed P) :
    (handlers env settings v s .exit m).owner.Placed P := by
  cases s with
  | onePointableClickCooldown => exact placed_releaseClick henv h
  | twoPlusPointablesScrolling =>
    simp only [handlers, stateTwoPlusPointablesScrolling, owner_done]
    split_ifs
    · exact placed_emit h trivial
    · exact h.addTouchPointForHand henv _ _
  | twoHandsRotating => exact placed_emit h trivial
  | twoHandsZooming => exact placed_emit h trivial
  | palmSwipe => exact placed_emit h trivial
  | _ => exact h

/-- **Every handler** of basic mode. -/
theorem placed_handler (henv : env.IsPlaced P) (s : State) (input : StateMachineInput Input)
    (h : m.Placed P) : (handlers env settings v s input m).owner.Placed P := by
  cases input with
  | user i =>
    cases i with
    | processFrame => exact placed_frame henv s h
    | lostFocus => cases s <;> exact h
  | enter => exact placed_enter henv s h
  | exit => exact placed_exit henv s h

/-- The contract of the states. -/
theorem placedContract (henv : env.IsPlaced P) (settings : Settings leap.Scalar) :
    ModeObject.Contract (handlers env settings) (fun _ _ m ↦ m.Placed P) (fun _ m ↦ m.Placed P)
      fun m ↦ m.Placed P := fun _ ↦
  .of_handlers neverTransitionsOnExit fun s input _ hm ↦ placed_handler henv s input hm

end

end BasicMode

end Touchless
