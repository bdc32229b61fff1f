import Touchless.GestureInteraction.BasicModeContract

/-!
# Which calls the states of basic mode send

A handler only adds to the log of calls, and what it adds depends on its state and its input alone
(`sends_handler`): the two clicking states click, each gesture state begins, moves and ends its own
gesture, and every state may move the cursor.
-/

namespace Touchless

/-- `setCursorPosition`. -/
def OSCall.isCursor {F : Type} : OSCall F → Bool
  | setCursorPosition _ _ _ => true
  | _ => false

namespace Manager

variable {leap : Leap} {allowed : OSCall leap.Scalar → Bool} {m n k : Manager leap}

/-- The log of `n` is that of `m` and some allowed calls. -/
def Sends (allowed : OSCall leap.Scalar → Bool) (m n : Manager leap) : Prop :=
  ∃ sent, n.osCalls = m.osCalls ++ sent ∧ ∀ call ∈ sent, allowed call = true

theorem Sends.of_eq (h : n.osCalls = m.osCalls) : Sends allowed m n :=
  ⟨[], by rw [h, List.append_nil], by simp⟩

theorem Sends.refl (m : Manager leap) : Sends allowed m m := .of_eq rfl

theorem Sends.trans (h : Sends allowed m n) (h' : Sends allowed n k) : Sends allowed m k := by
  obtain ⟨first, hfirst, hallowed⟩ := h
  obtain ⟨second, hsecond, hallowed'⟩ := h'
  refine ⟨first ++ second, by rw [hsecond, hfirst, List.append_assoc], fun call hcall ↦ ?_⟩
  rcases List.mem_append.1 hcall with hcall | hcall
  · exact hallowed call hcall
  · exact hallowed' call hcall

theorem Sends.mono {more : OSCall leap.Scalar → Bool} (h : Sends allowed m n)
    (hmore : ∀ call, allowed call = true → more call = true) : Sends more m n := by
  obtain ⟨sent, hsent, hallowed⟩ := h
  exact ⟨sent, hsent, fun call hcall ↦ hmore call (hallowed call hcall)⟩

theorem sends_emit {call : OSCall leap.Scalar} (h : allowed call = true) :
    Sends allowed m (m.emit call) :=
  ⟨[call], rfl, by simpa using h⟩

section

variable {env : Environment leap} {v : FrameState leap}

/-- Moving the cursor. -/
theorem sends_setAbsoluteCursorPosition (position : Vector3 leap.Scalar) :
    Sends OSCall.isCursor m (m.setAbsoluteCursorPosition env v position) := by
  rw [setAbsoluteCursorPosition]
  cases cursorTarget env v position with
  | none => exact .refl m
  | some p => exact sends_emit rfl

theorem sends_setAbsoluteCursorPositionHand (hand : leap.Hand) :
    Sends OSCall.isCursor m (m.setAbsoluteCursorPositionHand env v hand) := by
  rw [setAbsoluteCursorPositionHand]
  split_ifs
  · exact (Sends.of_eq rfl).trans (sends_setAbsoluteCursorPosition _)
  · exact .refl m

theorem sends_setAbsoluteCursorPositionPointable (pointable : leap.Pointable) :
    Sends OSCall.isCursor m (m.setAbsoluteCursorPositionPointable env v pointable) := by
  rw [setAbsoluteCursorPositionPointable]
  split_ifs
  · exact (Sends.of_eq rfl).trans (sends_setAbsoluteCursorPosition _)
  · exact .refl m

end

end Manager

namespace BasicMode

open State

variable {leap : Leap}

section

variable {env : Environment leap} {settings : Settings leap.Scalar} {v : FrameState leap}
  {m n k : BasicMode leap} {allowed : OSCall leap.Scalar → Bool}

/-- A call that belongs to a gesture: begun on `SM_ENTER`, ended on `SM_EXIT`, and moved. -/
def ofGesture (gesture : GestureType) (input : StateMachineInput Input) :
    OSCall leap.Scalar → Bool
  | .beginGesture gestureType => input = .enter && gestureType = gesture
  | .endGesture => input = .exit
  | .applyScroll _ _ _ => gesture = .scroll
  | .applyRotation _ => gesture = .rotate
  | .applyZoom _ => gesture = .zoom
  | .applyDesktopSwipe _ _ => gesture = .desktopSwipeHorizontal
  | _ => false

/-- The calls that a state may send for an input. -/
def maySend (s : State) (input : StateMachineInput Input) (call : OSCall leap.Scalar) : Bool :=
  call.isCursor ||
    match s with
    | onePointableHovering =>
      match call with
      | .clickDown _ _ | .applyCharms _ _ _ => true
      | _ => false
    | onePointableClickCooldown =>
      match call with
      | .clickUp _ _ => true
      | _ => false
    | twoPlusPointablesScrolling => ofGesture .scroll input call
    | twoHandsRotating => ofGesture .rotate input call
    | twoHandsZooming => ofGesture .zoom input call
    | palmSwipe => ofGesture .desktopSwipeHorizontal input call
    | _ => false

/-- `Sends` at the level of the mode. -/
def Sends (allowed : OSCall leap.Scalar → Bool) (m n : BasicMode leap) : Prop :=
  m.toManager.Sends allowed n.toManager

theorem Sends.of_eq (h : n.osCalls = m.osCalls) : Sends allowed m n := Manager.Sends.of_eq h

theorem Sends.refl (m : BasicMode leap) : Sends allowed m m := Manager.Sends.refl _

theorem Sends.trans (h : Sends allowed m n) (h' : Sends allowed n k) : Sends allowed m k :=
  Manager.Sends.trans h h'

theorem sends_emit {call : OSCall leap.Scalar} (h : allowed call = true) :
    Sends allowed m (m.emit call) :=
  Manager.sends_emit h

/-- Every state may move the cursor. -/
theorem Sends.of_cursor {s : State} {input : StateMachineInput Input}
    (h : Sends OSCall.isCursor m n) : Sends (maySend s input) m n :=
  h.mono fun call hcall ↦ by
    unfold maySend
    rw [hcall, Bool.true_or]

theorem sends_setAbsoluteCursorPositionPointable :
    Sends OSCall.isCursor m (setAbsoluteCursorPositionPointable env v m) := by
  simp only [setAbsoluteCursorPositionPointable, Sends, toManager_base]
  split_ifs
  · exact Manager.Sends.trans (.of_eq Manager.osCalls_refreshFavoritePointableId)
      (Manager.sends_setAbsoluteCursorPositionPointable _)
  · exact .refl _

theorem sends_setAbsoluteCursorPositionHand :
    Sends OSCall.isCursor m (setAbsoluteCursorPositionHand env v m) := by
  simp only [setAbsoluteCursorPositionHand, Sends, toManager_base]
  split_ifs
  · exact Manager.sends_setAbsoluteCursorPositionHand _
  · exact .refl _

theorem sends_onePointableHoveringFrame {input : StateMachineInput Input} :
    Sends (maySend onePointableHovering input) m
      (onePointableHoveringFrame env settings v m).owner := by
  have hrefreshed : Sends (maySend onePointableHovering input) m
      (m.base (·.refreshFavoritePointableId v)) := .of_eq (by simp)
  -- the charms come after the cursor, and so from another state of the mode
  have hcharms : ∀ n : BasicMode leap, Sends (maySend onePointableHovering input) n
      (charms env v n) := fun n ↦ by
    rw [charms]
    split_ifs
    · exact Sends.trans (n := n.base fun b ↦ b.drawOverlayForPointable (b.favoritePointable v))
        (.of_eq (by simp)) (Manager.sends_emit rfl)
    · exact .refl n
  have hdraw : ∀ n : BasicMode leap, Sends (maySend onePointableHovering input) n
      (n.base fun b ↦ b.drawOverlayForPointable (b.favoritePointable v)) := fun n ↦ .of_eq (by simp)
  rw [onePointableHoveringFrame]
  split_ifs
  · exact hrefreshed
  · exact hrefreshed.trans
      ((Sends.of_cursor sends_setAbsoluteCursorPositionPointable).trans (Manager.sends_emit rfl))
  · exact hrefreshed.trans (.of_eq (by simp [touchDown]))
  · exact hrefreshed.trans (((Sends.of_cursor sends_setAbsoluteCursorPositionPointable).trans
      (hcharms _)).trans (hdraw _))
  · exact hrefreshed.trans ((Sends.trans (.of_eq (by simp)) (hcharms _)).trans (hdraw _))

theorem sends_releaseClick {input : StateMachineInput Input} :
    Sends (maySend onePointableClickCooldown input) m (releaseClick env settings v m) := by
  simp only [releaseClick]
  split_ifs
  · exact Manager.sends_emit rfl
  · exact .of_eq (by simp)
  · exact .refl m

theorem sends_clickCooldownFrame {input : StateMachineInput Input} :
    Sends (maySend onePointableClickCooldown input) m
      (clickCooldownFrame env settings v m).owner := by
  -- a press that is too old is released without leaving the state
  have hrelease : ∀ n : BasicMode leap, Sends (maySend onePointableClickCooldown input) n
      (releaseClickInPlace env settings v n) := fun n ↦ by
    rw [releaseClickInPlace]
    split_ifs
    · exact sends_releaseClick
    · exact .refl n
  have hhold : ∀ n : BasicMode leap, Sends (maySend onePointableClickCooldown input) n
      (holdClick env settings v n) := fun n ↦ by
    rw [holdClick]
    split_ifs
    · exact (hrelease n).trans (.of_cursor sends_setAbsoluteCursorPositionPointable)
    · exact hrelease n
    · exact .refl n
    · exact .of_eq (by simp)
  rw [clickCooldownFrame]
  split_ifs
  · exact .refl m
  · exact .refl m
  · have hrefreshed : Sends (maySend onePointableClickCooldown input) m
        ({ m with clickDuration := v.now - m.lastClickTime }.base
          (·.refreshFavoritePointableId v)) := .of_eq (by simp)
    exact (hrefreshed.trans (hhold _)).trans (.of_eq (by simp))

theorem sends_scrollingFrame :
    Sends (maySend twoPlusPointablesScrolling (.user .processFrame)) m
      (scrollingFrame env settings v m).owner := by
  simp only [scrollingFrame, transitionToNPointables]
  split_ifs
  · exact .refl m
  · exact .refl m
  · exact .refl m
  · exact Sends.trans (n := generateScrollBetweenFrames settings v.currentFrame v.sinceFrame m)
      (Manager.sends_emit rfl) (.of_eq rfl)
  · exact .of_eq (by simp)

theorem sends_twoHandsHoveringFrame {input : StateMachineInput Input} :
    Sends (maySend twoHandsHovering input) m (twoHandsHoveringFrame env settings v m).owner := by
  rw [twoHandsHoveringFrame]
  cases multiHand v with
  | none => exact .refl m
  | some ids =>
    simp only
    split_ifs
    · exact .refl m
    · exact .refl m
    · exact .of_cursor (Manager.sends_setAbsoluteCursorPositionPointable _)
    · exact .of_eq (by simp)

theorem sends_twoHandsGestureFrame {movement : OSCall leap.Scalar} (h : allowed movement = true) :
    Sends allowed m (twoHandsGestureFrame settings v movement m).owner := by
  rw [twoHandsGestureFrame]
  split_ifs
  · exact .refl m
  · exact .refl m
  · exact sends_emit h

theorem osCalls_twoPlusPointablesHoveringFrame :
    (twoPlusPointablesHoveringFrame env settings v m).owner.osCalls = m.osCalls :=
  (hoveringFrame m).idle.osCalls

theorem osCalls_twoHandsGestureRecognitionFrame :
    (twoHandsGestureRecognitionFrame settings v m).owner.osCalls = m.osCalls := by
  simp only [twoHandsGestureRecognitionFrame]
  split_ifs <;> rfl

theorem osCalls_twoHandsTouchFrame :
    (twoHandsTouchFrame env settings v m).owner.osCalls = m.osCalls := by
  rw [twoHandsTouchFrame]
  cases multiHand v with
  | none => rfl
  | some ids => simp

theorem sends_frame (s : State) (m : BasicMode leap) :
    Sends (maySend s (.user .processFrame)) m
      (handlers env settings v s (.user .processFrame) m).owner := by
  cases s with
  | noPointablesNoInteraction =>
    simp only [handlers, stateNoPointablesNoInteraction, noPointablesFrame]
    split_ifs <;> exact .refl m
  | onePointableHovering => exact sends_onePointableHoveringFrame
  | onePointableClickCooldown => exact sends_clickCooldownFrame
  | twoPlusPointablesHovering => exact .of_eq osCalls_twoPlusPointablesHoveringFrame
  | twoPlusPointablesScrolling => exact sends_scrollingFrame
  | twoHandsHovering => exact sends_twoHandsHoveringFrame
  | twoHandsGestureRecognition => exact .of_eq osCalls_twoHandsGestureRecognitionFrame
  | twoHandsRotating => exact sends_twoHandsGestureFrame rfl
  | twoHandsZooming => exact sends_twoHandsGestureFrame rfl
  | twoHandsTouch => exact .of_eq osCalls_twoHandsTouchFrame
  | palmGestureRecognition => exact .refl m
  | palmSwipe => exact Manager.sends_emit rfl

theorem sends_enter (s : State) (m : BasicMode leap) :
    Sends (maySend s .enter) m (handlers env settings v s .enter m).owner := by
  cases s with
  | noPointablesNoInteraction =>
    simp only [handlers, stateNoPointablesNoInteraction, noPointablesFrame]
    split_ifs <;> exact .of_eq rfl
  | onePointableHovering =>
    have hreset : Sends (maySend onePointableHovering .enter) m
        ({ m with updateCursor := true }.base (·.resetFavoritePointableId v)) := .of_eq rfl
    exact hreset.trans sends_onePointableHoveringFrame
  | onePointableClickCooldown => exact sends_clickCooldownFrame
  | twoPlusPointablesHovering =>
    simp only [handlers, stateTwoPlusPointablesHovering]
    split_ifs
    · exact .of_eq (by simp)
    · exact .of_eq (osCalls_twoPlusPointablesHoveringFrame.trans (by simp))
  | twoPlusPointablesScrolling =>
    simp only [handlers, stateTwoPlusPointablesScrolling, owner_done]
    split_ifs
    · exact (Sends.of_cursor sends_setAbsoluteCursorPositionHand).trans (sends_emit rfl)
    · exact .of_eq (by simp)
  | twoHandsHovering =>
    have hreset : Sends (maySend twoHandsHovering .enter) m
        ({ m with updateCursor := true }.base (·.resetFavoritePointableId v)) := .of_eq rfl
    exact hreset.trans sends_twoHandsHoveringFrame
  | twoHandsGestureRecognition => exact .of_eq osCalls_twoHandsGestureRecognitionFrame
  -- the gesture begins with a movement
  | twoHandsRotating =>
    have hbegun : Sends (maySend twoHandsRotating .enter) m
        ({ m with updateCursor := true }.emit (.beginGesture .rotate)) := Manager.sends_emit rfl
    exact hbegun.trans (sends_emit rfl)
  | twoHandsZooming =>
    have hbegun : Sends (maySend twoHandsZooming .enter) m
        ({ m with updateCursor := true }.emit (.beginGesture .zoom)) := Manager.sends_emit rfl
    exact hbegun.trans (sends_emit rfl)
  | twoHandsTouch => exact .of_eq osCalls_twoHandsTouchFrame
  | palmGestureRecognition => exact .of_eq rfl
  | palmSwipe => exact sends_emit rfl

theorem sends_exit (s : State) (m : BasicMode leap) :
    Sends (maySend s .exit) m (handlers env settings v s .exit m).owner := by
  cases s with
  | onePointableClickCooldown =>
    have hreleased : Sends (maySend onePointableClickCooldown .exit) m
        (releaseClick env settings v m) := sends_releaseClick
    exact hreleased.trans (.of_eq rfl)
  | twoPlusPointablesScrolling =>
    simp only [handlers, stateTwoPlusPointablesScrolling, owner_done]
    split_ifs
    · exact sends_emit rfl
    · exact .of_eq (by simp)
  | twoHandsRotating => exact sends_emit rfl
  | twoHandsZooming => exact sends_emit rfl
  | palmSwipe => exact sends_emit rfl
  | _ => exact .refl m

/-- **What a handler sends**: it adds to the log, and only calls that its state may send for the
input. -/
theorem sends_handler (s : State) (input : StateMachineInput Input) (m : BasicMode leap) :
    Sends (maySend s input) m (handlers env settings v s input m).owner := by
  cases input with
  | user i =>
    cases i with
    | processFrame => exact sends_frame s m
    | lostFocus =>
      have howner : (handlers env settings v s (.user .lostFocus) m).owner = m := by
        cases s <;> rfl
      rw [howner]
      exact .refl m
  | enter => exact sends_enter s m
  | exit => exact sends_exit s m

end

end BasicMode

end Touchless
