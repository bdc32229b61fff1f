import Touchless.GestureInteraction.FingerMouseContract
import Touchless.Utility.StateMachineCalls

/-!
# The clicks of finger mouse

While the clicking state holds the button, `m_clickNumber` is the number of its `clickDown`, and so
the `clickUp` on leaving the state matches. A click that becomes a drag sets `m_clickNumber` to 0
and leaves the `clickUp` to the dragging state, which sends this 0: the end of a drag is where
clicks do not match. As long as no drag ends, they do (`ClickKept.processFrame`).
-/

namespace Touchless

namespace FingerMouse

open State

variable {leap : Leap}

/-- No click has been sent. -/
structure Silent (m n : FingerMouse leap) : Prop where
  clickNumber : n.clickNumber = m.clickNumber
  deferClickUpForDrag : n.deferClickUpForDrag = m.deferClickUpForDrag
  clicks : clicks n.osCalls = clicks m.osCalls

namespace Silent

variable {m n k : FingerMouse leap}

theorem refl (m : FingerMouse leap) : Silent m m := ⟨rfl, rfl, rfl⟩

theorem trans (h : Silent m n) (h' : Silent n k) : Silent m k :=
  ⟨h'.clickNumber.trans h.clickNumber, h'.deferClickUpForDrag.trans h.deferClickUpForDrag,
    h'.clicks.trans h.clicks⟩

end Silent

section

variable {env : Environment leap} {settings : Settings leap.Scalar} {v : FrameState leap}
  {m : FingerMouse leap} {p : Option State} {s t : State}

/-! ### Silent helpers -/

/-- A method of the base class that sends no click. -/
theorem silent_base {f : Manager leap → Manager leap}
    (h : clicks (f m.toManager).osCalls = clicks m.osCalls) : Silent m (m.base f) :=
  ⟨rfl, rfl, h⟩

/-- A call that is no click. -/
theorem silent_emit {call : OSCall leap.Scalar} (h : call.isClick = false) :
    Silent m (m.emit call) :=
  silent_base (by simp [clicks_singleton, h])

theorem silent_drawOverlays : Silent m { m with drawOverlays := true } := ⟨rfl, rfl, rfl⟩

theorem silent_drawPointingOverlay : Silent m (drawPointingOverlay settings v m) := by
  rw [drawPointingOverlay]
  split_ifs
  · exact silent_base (by simp)
  · exact .refl m

theorem silent_drawGestureOverlay : Silent m (drawGestureOverlay settings v m) := by
  rw [drawGestureOverlay]
  split_ifs
  · exact silent_base (by simp)
  · exact .refl m

theorem silent_moveCursorToPointable : Silent m (moveCursorToPointable env v m) :=
  silent_base (by simp)

theorem silent_moveCursor : Silent m (moveCursor env v m) := by
  refine silent_base ?_
  simp only
  split_ifs <;> simp

theorem silent_moveCursorAlways : Silent m (moveCursorAlways env settings v m) := by
  rw [moveCursorAlways]
  split_ifs
  · exact silent_moveCursor
  · exact .refl m

/-- A cursor that moves after an overlay of a gesture. -/
theorem silent_drawAndMove :
    Silent m (moveCursorAlways env settings v (drawGestureOverlay settings v m)) :=
  silent_drawGestureOverlay.trans silent_moveCursorAlways

/-- An overlay of a pointable, and the cursor moves to it. -/
theorem silent_pointAndMove :
    Silent m (moveCursorToPointable env v (drawPointingOverlay settings v m)) :=
  silent_drawPointingOverlay.trans silent_moveCursorToPointable

/-! ### Silent frames -/

/-- A result that sends no click and does not request a drag. -/
structure SilentResult (m : FingerMouse leap) (r : HandlerResult State (FingerMouse leap)) :
    Prop where
  silent : Silent m r.owner
  request : netRequest r.requests ≠ some oneFingerDragging

theorem SilentResult.done {n : FingerMouse leap} (h : Silent m n) : SilentResult m (done n) :=
  ⟨h, by simp⟩

theorem SilentResult.goTo {n : FingerMouse leap} (h : Silent m n) (ht : t ≠ oneFingerDragging) :
    SilentResult m (goTo t n) :=
  ⟨h, by simpa using ht⟩

theorem SilentResult.of_silent {n : FingerMouse leap} {r : HandlerResult State (FingerMouse leap)}
    (h : SilentResult n r) (hs : Silent m n) : SilentResult m r :=
  ⟨hs.trans h.silent, h.request⟩

theorem silentResult_transitionToNFingers : SilentResult m (transitionToNFingers settings v m) :=
  .goTo (.refl m) nFingers_ne_dragging

theorem silentResult_noFingersFrame : SilentResult m (noFingersFrame settings v m) := by
  rw [noFingersFrame]
  split_ifs
  · exact silentResult_transitionToNFingers
  · exact .done (.refl m)

theorem silentResult_oneFingerHoveringFrame :
    SilentResult m (oneFingerHoveringFrame env settings v m) := by
  rw [oneFingerHoveringFrame]
  split_ifs
  · exact silentResult_transitionToNFingers
  · exact .goTo (.refl m) (by simp)
  · exact .done silent_pointAndMove

theorem silentResult_twoFingersHoveringFrame :
    SilentResult m (twoFingersHoveringFrame env settings v m) := by
  rw [twoFingersHoveringFrame]
  split_ifs
  · exact silentResult_transitionToNFingers
  · exact .goTo (.refl m) (by simp)
  · exact .goTo (.refl m) (by simp)
  · exact .done (silent_drawGestureOverlay.trans silent_moveCursor)

theorem silentResult_twoFingersGestureRecognitionFrame :
    SilentResult m (twoFingersGestureRecognitionFrame settings v m) := by
  refine ⟨?_, quietResult_twoFingersGestureRecognitionFrame.request⟩
  simp only [twoFingersGestureRecognitionFrame]
  split_ifs
  · exact .refl m
  · exact .refl m
  · cases recognizedGesture v with
    | none => exact silent_drawGestureOverlay
    | some state => exact silent_drawGestureOverlay

/-- The frame of a two-finger gesture, which applies its movement. -/
theorem silentResult_twoFingersGestureFrame {goOn : FingerMouse leap → FingerMouse leap}
    (hgoOn : Silent m (goOn m)) : SilentResult m (twoFingersGestureFrame settings v goOn m) := by
  rw [twoFingersGestureFrame]
  split_ifs
  · exact silentResult_transitionToNFingers
  · exact .goTo (.refl m) (by simp)
  · exact .done hgoOn

theorem silentResult_threePlusFingersFrame :
    SilentResult m (threePlusFingersFrame env settings v m) := by
  rw [threePlusFingersFrame]
  split_ifs
  · exact silentResult_transitionToNFingers
  · cases v.collectiveZone with
    | none => exact .done silent_moveCursorAlways
    | hovering => exact .goTo (.refl m) (by simp)
    | touching => exact .goTo (.refl m) (by simp)

theorem silentResult_threePlusFingersHoveringFrame :
    SilentResult m (threePlusFingersHoveringFrame env settings v m) := by
  refine ⟨?_, quietResult_threePlusFingersHoveringFrame.request⟩
  rw [threePlusFingersHoveringFrame]
  split_ifs with hchange hmove
  · exact .refl m
  all_goals
    cases v.collectiveZone with
    | none => exact .refl m
    | touching => exact .refl m
    | hovering =>
      first
        | exact silent_drawGestureOverlay.trans silent_moveCursor
        | exact silent_drawGestureOverlay

theorem silentResult_threePlusFingersGestureRecognitionFrame :
    SilentResult m (threePlusFingersGestureRecognitionFrame env settings v m) := by
  refine ⟨?_, quietResult_threePlusFingersGestureRecognitionFrame.request⟩
  rw [threePlusFingersGestureRecognitionFrame]
  split_ifs
  · exact .refl m
  · cases v.collectiveZone with
    | none => exact .refl m
    | hovering => exact .refl m
    | touching => exact silent_drawAndMove

theorem silent_generateDesktopSwipe (currentFrame sinceFrame : leap.Frame) :
    Silent m (generateDesktopSwipeBetweenFrames currentFrame sinceFrame m) :=
  silent_emit rfl

theorem silentResult_swipeVerticalFrame : SilentResult m (swipeVerticalFrame settings v m) := by
  simp only [swipeVerticalFrame]
  split_ifs
  · exact silentResult_transitionToNFingers
  · exact .goTo (.refl m) (by simp)
  · exact ⟨(silent_generateDesktopSwipe _ _).trans silent_drawGestureOverlay, by simp⟩
  · exact ⟨(silent_generateDesktopSwipe _ _).trans silent_drawGestureOverlay, by simp⟩

theorem silentResult_swipeHorizontalFrame :
    SilentResult m (swipeHorizontalFrame settings v m) := by
  rw [swipeHorizontalFrame]
  split_ifs
  · exact silentResult_transitionToNFingers
  · exact .goTo (.refl m) (by simp)
  · exact .done ((silent_generateDesktopSwipe _ _).trans silent_drawGestureOverlay)

theorem silentResult_palmGestureRecognitionFrame :
    SilentResult m (palmGestureRecognitionFrame settings v m) := by
  refine ⟨?_, quietResult_palmGestureRecognitionFrame.request⟩
  rw [palmGestureRecognitionFrame]
  split_ifs
  · exact .refl m
  · cases v.palmHand with
    | none => exact .refl m
    | some hand =>
      simp only
      split_ifs
      · exact .refl m
      · exact silent_drawGestureOverlay
      · exact silent_drawGestureOverlay

/-- **A frame** outside a click and a drag. -/
theorem silentResult_frame (hclicking : s ≠ oneFingerClicking) (hdragging : s ≠ oneFingerDragging)
    (m : FingerMouse leap) :
    SilentResult m (handlers env settings v s (.user .processFrame) m) := by
  cases s with
  | noFingersNoInteraction => exact silentResult_noFingersFrame
  | oneFingerHovering => exact silentResult_oneFingerHoveringFrame
  | oneFingerClicking => exact absurd rfl hclicking
  | oneFingerDragging => exact absurd rfl hdragging
  | twoFingersHovering => exact silentResult_twoFingersHoveringFrame
  | twoFingersGestureRecognition => exact silentResult_twoFingersGestureRecognitionFrame
  | twoFingersRotating =>
    simp only [handlers, stateTwoFingersRotating]
    refine silentResult_twoFingersGestureFrame ?_
    exact silent_drawAndMove.trans (silent_emit rfl)
  | twoFingersScrolling =>
    have hscroll : Silent m
        (generateScrollBetweenFrames settings v.currentFrame v.sinceFrame m) := silent_emit rfl
    simp only [handlers, stateTwoFingersScrolling]
    refine silentResult_twoFingersGestureFrame ?_
    exact hscroll.trans silent_drawAndMove
  | twoFingersZooming =>
    simp only [handlers, stateTwoFingersZooming]
    refine silentResult_twoFingersGestureFrame ?_
    exact silent_drawAndMove.trans (silent_emit rfl)
  | threePlusFingersNoInteraction => exact silentResult_threePlusFingersFrame
  | threePlusFingersHovering => exact silentResult_threePlusFingersHoveringFrame
  | threePlusFingersGestureRecognition =>
    exact silentResult_threePlusFingersGestureRecognitionFrame
  | threePlusFingersSwipeVertical => exact silentResult_swipeVerticalFrame
  | threePlusFingersSwipeHorizontal => exact silentResult_swipeHorizontalFrame
  | palmGestureRecognition => exact silentResult_palmGestureRecognitionFrame
  | palmSwipe =>
    simp only [handlers, statePalmSwipe]
    split_ifs
    · exact silentResult_transitionToNFingers
    · exact .done (silent_drawGestureOverlay.trans (silent_generateDesktopSwipe _ _))

/-- **Entering a state** other than these. -/
theorem silentResult_enter (hclicking : s ≠ oneFingerClicking) (hdragging : s ≠ oneFingerDragging)
    (m : FingerMouse leap) : SilentResult m (handlers env settings v s .enter m) := by
  -- most states process the frame when they are entered
  have hframe : ∀ m, SilentResult m (handlers env settings v s (.user .processFrame) m) :=
    silentResult_frame hclicking hdragging
  cases s with
  | oneFingerClicking => exact absurd rfl hclicking
  | oneFingerDragging => exact absurd rfl hdragging
  | twoFingersGestureRecognition =>
    refine (hframe _).of_silent (Silent.trans
      (n := { m with drawOverlays := true, gestureStart := v.currentFrame }) ⟨rfl, rfl, rfl⟩
      silent_moveCursor)
  | twoFingersRotating | twoFingersZooming =>
    exact .done (silent_drawOverlays.trans (Silent.trans (silent_emit rfl) (silent_emit rfl)))
  | twoFingersScrolling =>
    exact .done (silent_drawOverlays.trans (Silent.trans (silent_emit rfl) (silent_emit rfl)))
  | threePlusFingersHovering => exact ⟨.refl m, by simp [handlers, stateThreePlusFingersHovering]⟩
  | threePlusFingersSwipeVertical => exact .done (silent_drawOverlays.trans (silent_emit rfl))
  | threePlusFingersSwipeHorizontal => exact .done (silent_emit rfl)
  | palmSwipe => exact .done (silent_emit rfl)
  | _ => exact (hframe _).of_silent ⟨rfl, rfl, rfl⟩

/-- **Leaving a state** other than these. -/
theorem silent_exit (hclicking : s ≠ oneFingerClicking) (hdragging : s ≠ oneFingerDragging)
    (m : FingerMouse leap) : Silent m (handlers env settings v s .exit m).owner := by
  cases s with
  | oneFingerClicking => exact absurd rfl hclicking
  | oneFingerDragging => exact absurd rfl hdragging
  | twoFingersRotating => exact silent_emit rfl
  | twoFingersScrolling => exact silent_emit rfl
  | twoFingersZooming => exact silent_emit rfl
  | threePlusFingersSwipeVertical => exact silent_emit rfl
  | threePlusFingersSwipeHorizontal => exact silent_emit rfl
  | palmSwipe => exact silent_emit rfl
  | _ => exact .refl m

/-! ### The members of the click -/

/-- The click number is counted up to 3, and the log matches. -/
structure ClickKept (m : FingerMouse leap) : Prop where
  clicksMatch : ClicksMatch m.osCalls
  nonneg : 0 ≤ m.clickNumber
  le_three : m.clickNumber ≤ 3

/-- The log leaves the left button down with the present click number. -/
structure ClickOpen (m : FingerMouse leap) : Prop where
  openClick : openClick 0 m.osCalls = some m.clickNumber
  pos : 1 ≤ m.clickNumber

theorem ClickKept.silent {n : FingerMouse leap} (h : ClickKept m) (hs : Silent m n) :
    ClickKept n where
  clicksMatch := h.clicksMatch.of_clicks_eq hs.clicks
  nonneg := hs.clickNumber ▸ h.nonneg
  le_three := hs.clickNumber ▸ h.le_three

theorem ClickOpen.silent {n : FingerMouse leap} (h : ClickOpen m) (hs : Silent m n) :
    ClickOpen n where
  openClick := by rw [openClick_of_clicks_eq hs.clicks, hs.clickNumber, h.openClick]
  pos := hs.clickNumber ▸ h.pos

/-- **The press** counts the click, from 1 up to 3. -/
theorem ClickKept.pressButton (h : ClickKept m) (env : Environment leap) (v : FrameState leap) :
    ClickKept (pressButton env v m) ∧ ClickOpen (pressButton env v m) := by
  have hmoved : ClickKept (moveCursorToPointable env v m) := h.silent silent_moveCursorToPointable
  obtain ⟨number, hnumber, hcount, hcalls⟩ : ∃ number,
      (number = 0 ∨ number = m.clickNumber ∧ m.clickNumber ≠ 3) ∧
      (FingerMouse.pressButton env v m).clickNumber = number + 1 ∧
      (FingerMouse.pressButton env v m).osCalls =
        (moveCursorToPointable env v m).osCalls ++ [.clickDown 0 (number + 1)] := by
    refine ⟨(FingerMouse.pressButton env v m).clickNumber - 1, ?_, by omega, ?_⟩
    · simp only [FingerMouse.pressButton]
      split_ifs with hreset
      · exact .inl (by omega)
      · refine .inr ⟨by simp [moveCursorToPointable, base], fun hthree ↦ ?_⟩
        exact hreset (.inr (.inr hthree))
    · simp [FingerMouse.pressButton, emit, base]
  have hnonneg := h.nonneg
  have hthree := h.le_three
  have hbounds : 0 ≤ number ∧ number ≤ 2 := by omega
  refine ⟨⟨?_, ?_, ?_⟩, ?_, ?_⟩
  · rw [hcalls]
    exact hmoved.clicksMatch.clickDown 0 _
  · omega
  · omega
  · rw [hcalls, hcount, openClick_concat]
    rfl
  · omega

/-- **The release** closes it. -/
theorem ClickKept.clickUp (h : ClickKept m) (hopen : ClickOpen m) :
    ClickKept (m.emit (.clickUp 0 m.clickNumber)) :=
  ⟨h.clicksMatch.clickUp hopen.openClick hopen.pos h.le_three, h.nonneg, h.le_three⟩

/-! ### While no drag ends -/

/-- The frame lets a drag go on: there may be one pointable, no palm, and it touches. -/
def DragGoesOn (settings : Settings leap.Scalar) (v : FrameState leap) : Prop :=
  fingersChange settings v (· ≠ 1) = false ∧ v.collectiveZone = .touching

/-- In a state, with the request `p` pending, while drags go on. The clicking state has its click
open, unless it has handed it over to the drag. -/
structure ClickInside (settings : Settings leap.Scalar) (v : FrameState leap) (s : State)
    (p : Option State) (m : FingerMouse leap) : Prop where
  kept : ClickKept m
  clicking : s = oneFingerClicking → m.deferClickUpForDrag = true ∨ ClickOpen m
  dragging : s = oneFingerDragging → p = none
  goesOn : s = oneFingerDragging ∨ p = some oneFingerDragging → DragGoesOn settings v

/-- Between two states. -/
structure ClickBetween (settings : Settings leap.Scalar) (v : FrameState leap) (t : State)
    (m : FingerMouse leap) : Prop where
  kept : ClickKept m
  goesOn : t = oneFingerDragging → DragGoesOn settings v

/-- A result of a state other than the two. -/
theorem ClickKept.inside_of_silentResult (hclicking : s ≠ oneFingerClicking)
    (hdragging : s ≠ oneFingerDragging) (h : ClickKept m)
    {r : HandlerResult State (FingerMouse leap)} (hr : SilentResult m r) :
    ClickInside settings v s (netRequest r.requests) r.owner where
  kept := h.silent hr.silent
  clicking hs := absurd hs hclicking
  dragging hs := absurd hs hdragging
  goesOn hs := by
    rcases hs with hs | hrequest
    · exact absurd hs hdragging
    · exact absurd hrequest hr.request

theorem DragGoesOn.draggingFrame (h : DragGoesOn settings v) :
    draggingFrame env settings v m =
      done (moveCursorToPointable env v (drawClickingOrDraggingOverlay settings v m)) := by
  rw [FingerMouse.draggingFrame, h.1]
  simp [h.2]

/-- A frame of a drag that goes on. -/
theorem ClickKept.draggingFrame (h : ClickKept m) (hgoesOn : DragGoesOn settings v) :
    ClickInside settings v oneFingerDragging
      (netRequest (draggingFrame env settings v m).requests)
      (draggingFrame env settings v m).owner := by
  rw [hgoesOn.draggingFrame]
  exact ⟨h.silent silent_pointAndMove, by simp, by simp, fun _ ↦ hgoesOn⟩

/-- A frame of a click. It requests a drag only where the drag goes on. -/
theorem ClickKept.clickingFrame (h : ClickKept m)
    (hclick : m.deferClickUpForDrag = true ∨ ClickOpen m) :
    ClickInside settings v oneFingerClicking
      (netRequest (clickingFrame env settings v m).requests)
      (clickingFrame env settings v m).owner := by
  rw [FingerMouse.clickingFrame]
  split_ifs with hchange hzone
  · exact ⟨h, fun _ ↦ hclick, by simp, fun hrequest ↦
      absurd (hrequest.resolve_left (by simp)) silentResult_transitionToNFingers.request⟩
  · exact ⟨h, fun _ ↦ hclick, by simp, by simp⟩
  · have hdrawn : Silent m (drawClickingOrDraggingOverlay settings v m) :=
      silent_drawPointingOverlay
    have hkept := h.silent hdrawn
    simp only [holdClick]
    split_ifs with hdrag
    · exact ⟨⟨hkept.clicksMatch, le_refl _, by simp⟩, fun _ ↦ .inl rfl, by simp,
        fun _ ↦ ⟨eq_false_of_ne_true hchange, not_not.1 hzone⟩⟩
    · refine ⟨⟨hkept.clicksMatch, hkept.nonneg, hkept.le_three⟩, fun _ ↦ ?_, by simp, by simp⟩
      refine hclick.imp (fun hdefer ↦ ?_) fun hopen ↦ ?_
      · exact hdrawn.deferClickUpForDrag.trans hdefer
      · exact ⟨(hopen.silent hdrawn).openClick, (hopen.silent hdrawn).pos⟩

/-- **A frame** whose drag, if there is one, goes on. -/
theorem ClickKept.frame (h : ClickKept m)
    (hclicking : s = oneFingerClicking → m.deferClickUpForDrag = true ∨ ClickOpen m)
    (hgoesOn : s = oneFingerDragging → DragGoesOn settings v) :
    ClickInside settings v s
      (netRequest (handlers env settings v s (.user .processFrame) m).requests)
      (handlers env settings v s (.user .processFrame) m).owner := by
  by_cases hs : s = oneFingerClicking
  · subst hs
    exact h.clickingFrame (hclicking rfl)
  · by_cases hs' : s = oneFingerDragging
    · subst hs'
      exact h.draggingFrame (hgoesOn rfl)
    · exact h.inside_of_silentResult hs hs' (silentResult_frame hs hs' m)

/-- **A focus loss** outside a drag. -/
theorem ClickKept.lostFocus (h : ClickKept m)
    (hclicking : s = oneFingerClicking → m.deferClickUpForDrag = true ∨ ClickOpen m)
    (hs : s ≠ oneFingerDragging) :
    ClickInside settings v s
      (netRequest (handlers env settings v s (.user .lostFocus) m).requests)
      (handlers env settings v s (.user .lostFocus) m).owner := by
  have howner : (handlers env settings v s (.user .lostFocus) m).owner = m := by cases s <;> rfl
  have hrequest : netRequest (handlers env settings v s (.user .lostFocus) m).requests ≠
      some oneFingerDragging := by
    cases s <;> exact fun h ↦ by cases h
  rw [howner]
  exact ⟨h, hclicking, fun h ↦ absurd h hs, fun h ↦ absurd h (not_or.2 ⟨hs, hrequest⟩)⟩

/-- **The turns of the transition loop.** -/
theorem clickTurns (env : Environment leap) (settings : Settings leap.Scalar)
    (v : FrameState leap) :
    StateMachine.Turns (handlers env settings v) (ClickInside settings v)
      (ClickBetween settings v) where
  neverTransitionsOnExit := neverTransitionsOnExit
  exit s t m h := by
    refine ⟨?_, fun ht ↦ h.goesOn (.inr (congrArg some ht))⟩
    by_cases hclicking : s = oneFingerClicking
    · subst hclicking
      simp only [handlers, stateOneFingerClicking, owner_done]
      split_ifs with hdefer
      · exact h.kept.silent ⟨rfl, rfl, rfl⟩
      · have hopen : ClickOpen m := (h.clicking rfl).resolve_left hdefer
        exact (h.kept.clickUp hopen).silent ⟨rfl, rfl, rfl⟩
    · have hdragging : s ≠ oneFingerDragging := fun hs ↦ by
        have hnone := h.dragging hs
        cases hnone
      exact h.kept.silent (silent_exit hclicking hdragging m)
  enter t m h := by
    by_cases hclicking : t = oneFingerClicking
    · subst hclicking
      have hdrawn : ClickKept { m with drawOverlays := true } := h.kept.silent silent_drawOverlays
      have hpressed := hdrawn.pressButton env v
      refine ⟨hpressed.1, fun _ ↦ .inr hpressed.2, by simp, ?_⟩
      simp only [handlers, stateOneFingerClicking]
      split_ifs <;> simp [nFingers_ne_dragging]
    · by_cases hdragging : t = oneFingerDragging
      · subst hdragging
        exact (h.kept.silent silent_drawOverlays).draggingFrame (h.goesOn rfl)
      · exact h.kept.inside_of_silentResult hclicking hdragging
          (silentResult_enter hclicking hdragging m)

/-! ### Whole runs -/

variable {fuel : ℕ} {o o' : Object leap}

/-- What holds of the click between two calls of the object. -/
structure Clicked (o : Object leap) : Prop where
  kept : ClickKept o.machine.owner
  clicking : o.machine.currentState = some oneFingerClicking →
    o.machine.owner.deferClickUpForDrag = true ∨ ClickOpen o.machine.owner

theorem clicked_construct (memory : FingerMouse leap) : Clicked (Object.construct memory) :=
  ⟨⟨clicksMatch_nil, le_refl _, by simp [Object.construct, StateMachine.construct, construct]⟩,
    by simp [Object.construct, StateMachine.construct]⟩

theorem Clicked.of_inside (hs : o.machine.InState s)
    (h : ClickInside settings v s none o.machine.owner) : Clicked o :=
  ⟨h.kept, fun hcur ↦ h.clicking (hs.eq_of_current hcur)⟩

/-- The call does not end a drag. -/
def KeepsDrag (settings : Settings leap.Scalar) (o : Object leap) : ModeCall leap → Prop
  | .processFrame frame sinceFrame => o.machine.currentState = some oneFingerDragging →
      DragGoesOn settings (o.frame.processFrame (overrides leap) frame sinceFrame)
  | .stopActiveEvents => o.machine.currentState ≠ some oneFingerDragging

instance (settings : Settings leap.Scalar) (v : FrameState leap) :
    Decidable (DragGoesOn settings v) :=
  inferInstanceAs (Decidable (_ ∧ _))

instance (settings : Settings leap.Scalar) (o : Object leap) :
    ∀ call, Decidable (KeepsDrag settings o call)
  | .processFrame _ _ => inferInstanceAs (Decidable (_ → _))
  | .stopActiveEvents => inferInstanceAs (Decidable (_ ≠ _))

/-- **A frame** that ends no drag, -/
theorem Clicked.processFrame (h : Clicked o) {frame sinceFrame : leap.Frame}
    (hkeeps : KeepsDrag settings o (.processFrame frame sinceFrame))
    (hrun : processFrame env settings fuel o frame sinceFrame = some o') : Clicked o' := by
  simp only [FingerMouse.processFrame, processFrameInternal, Option.bind_eq_bind,
    Option.bind_eq_some_iff] at hrun
  obtain ⟨o₁, hinit, hinput⟩ := hrun
  obtain ⟨m₁, hentered, rfl⟩ := ModeObject.ensureInitialized_some hinit
  obtain ⟨m₂, hran, rfl⟩ := ModeObject.runCurrentState_some hinput
  set v := o.frame.processFrame (overrides leap) frame sinceFrame
  have hstart := (clickTurns env settings v).start fuel noFingersNoInteraction
    (m := o.machine) (i := Input.processFrame) (Q := fun _ ↦ True)
    (fun _ _ _ _ ↦ trivial) (fun _ _ _ ↦ trivial)
    (fun _ ↦ ⟨h.kept, fun ht ↦ by cases ht⟩)
    (fun s m hs ↦ ⟨trivial, by
      -- the first call: the machine has been in its state before the frame, or has just entered it
      rcases hs with ⟨hs, rfl⟩ | hinside
      · exact h.kept.frame (fun hclicking ↦ h.clicking (hclicking ▸ hs))
          fun hdragging ↦ hkeeps (hdragging ▸ hs)
      · exact hinside.kept.frame hinside.clicking fun hdragging ↦ hinside.goesOn (.inl hdragging)⟩)
  obtain ⟨s, hs, hinside⟩ := hstart.2 m₁ m₂ hentered hran
  exact .of_inside hs hinside

/-- a focus loss, -/
theorem Clicked.stopActiveEvents (h : Clicked o) (hkeeps : KeepsDrag settings o .stopActiveEvents)
    (hrun : stopActiveEvents env settings fuel o = some o') : Clicked o' := by
  obtain ⟨m, hran, rfl⟩ := ModeObject.runCurrentState_some hrun
  obtain ⟨s, hs, hinside⟩ := (clickTurns env settings o.frame).runCurrentState (fun s hs ↦
    h.kept.lostFocus (fun hclicking ↦ h.clicking (hclicking ▸ hs)) fun hdragging ↦
      hkeeps (hdragging ▸ hs)) hran
  exact .of_inside hs hinside

/-- and a destructor keep the clicks matched. -/
theorem Clicked.destruct (h : Clicked o) (hdrag : o.machine.currentState ≠ some oneFingerDragging)
    (hrun : destruct env settings fuel o = some o') : ClicksMatch o'.machine.owner.osCalls := by
  obtain ⟨m, hran, rfl⟩ := ModeObject.shutdown_some hrun
  cases hcur : o.machine.currentState with
  | none =>
    rw [StateMachine.shutdown_of_none hcur hran]
    exact h.kept.clicksMatch
  | some s =>
    show ClicksMatch m.owner.osCalls
    rw [StateMachine.owner_shutdown neverTransitionsOnExit hcur hran]
    have hdragging : s ≠ oneFingerDragging := fun hs ↦ hdrag (hs ▸ hcur)
    have hinside : ClickInside settings o.frame s (some noFingersNoInteraction) o.machine.owner :=
      ⟨h.kept, fun hs ↦ h.clicking (hs ▸ hcur), fun hs ↦ absurd hs hdragging, fun hs ↦
        absurd hs (not_or.2 ⟨hdragging, by simp⟩)⟩
    exact ((clickTurns env settings o.frame).exit s _ _ hinside).kept.clicksMatch

end

end FingerMouse

end Touchless
