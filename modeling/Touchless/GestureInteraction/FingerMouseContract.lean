import Touchless.GestureInteraction.FingerMouse

/-!
# What finger mouse sends

The contract of the states of `FingerMouse`: which gesture a state owns, and which states hold the
button. A click that turns into a drag hands the button over: the clicking state sets
`m_deferClickUpForDrag` and leaves `clickUp` to the dragging state, and the contract says that the
flag is set there exactly when the transition to the dragging state is pending.
-/

namespace Touchless

namespace FingerMouse

open State

variable {leap : Leap}

/-- Nothing has been sent that concerns the button or a gesture. -/
structure Quiet (m n : FingerMouse leap) : Prop where
  deferClickUpForDrag : n.deferClickUpForDrag = m.deferClickUpForDrag
  track : ∀ start : DriverStatus, start.track n.osCalls = start.track m.osCalls

namespace Quiet

variable {m n k : FingerMouse leap}

theorem refl (m : FingerMouse leap) : Quiet m m := ⟨rfl, fun _ ↦ rfl⟩

theorem trans (h : Quiet m n) (h' : Quiet n k) : Quiet m k :=
  ⟨h'.deferClickUpForDrag.trans h.deferClickUpForDrag,
    fun start ↦ (h'.track start).trans (h.track start)⟩

end Quiet

section

variable {env : Environment leap} {settings : Settings leap.Scalar} {v : FrameState leap}
  {m : FingerMouse leap} {start : DriverStatus} {p : Option State} {s t : State}

/-! ### Quiet helpers -/

/-- A method of the base class that sends nothing but cursor positions. -/
theorem quiet_base {f : Manager leap → Manager leap}
    (h : ∀ start : DriverStatus, start.track (f m.toManager).osCalls = start.track m.osCalls) :
    Quiet m (m.base f) :=
  ⟨rfl, h⟩

theorem quiet_drawPointingOverlay : Quiet m (drawPointingOverlay settings v m) := by
  rw [drawPointingOverlay]
  split_ifs
  · exact quiet_base fun _ ↦ by simp
  · exact .refl m

theorem quiet_drawGestureOverlay : Quiet m (drawGestureOverlay settings v m) := by
  rw [drawGestureOverlay]
  split_ifs
  · exact quiet_base fun _ ↦ by simp
  · exact .refl m

theorem quiet_moveCursorToPointable : Quiet m (moveCursorToPointable env v m) :=
  quiet_base fun _ ↦ by simp

theorem quiet_moveCursor : Quiet m (moveCursor env v m) := by
  refine quiet_base fun start ↦ ?_
  simp only
  split_ifs <;> simp

theorem quiet_moveCursorAlways : Quiet m (moveCursorAlways env settings v m) := by
  rw [moveCursorAlways]
  split_ifs
  · exact quiet_moveCursor
  · exact .refl m

/-- A cursor that moves after an overlay of a gesture. -/
theorem quiet_drawAndMove :
    Quiet m (moveCursorAlways env settings v (drawGestureOverlay settings v m)) :=
  quiet_drawGestureOverlay.trans quiet_moveCursorAlways

/-! ### The contract -/

/-- The gesture that a state owns. -/
def owned : State → Option GestureType
  | twoFingersRotating => some .rotate
  | twoFingersScrolling => some .scroll
  | twoFingersZooming => some .zoom
  | threePlusFingersSwipeVertical => some .desktopSwipeVertical
  | threePlusFingersSwipeHorizontal | palmSwipe => some .desktopSwipeHorizontal
  | _ => none

/-- Does a state hold the button? -/
def holds : State → Bool
  | oneFingerClicking | oneFingerDragging => true
  | _ => false

/-- In a state, with the request `p` pending. -/
structure Inside (start : DriverStatus) (s : State) (p : Option State) (m : FingerMouse leap) :
    Prop where
  track : start.track m.osCalls = some ⟨holds s, owned s⟩
  deferred : p = some oneFingerDragging ↔ s = oneFingerClicking ∧ m.deferClickUpForDrag = true

/-- Between two states: the button is down on the way to a drag. -/
structure Between (start : DriverStatus) (t : State) (m : FingerMouse leap) : Prop where
  track : start.track m.osCalls = some ⟨t = oneFingerDragging, none⟩

theorem Inside.quiet {n : FingerMouse leap} (h : Inside start s none m) (hq : Quiet m n)
    (hp : p ≠ some oneFingerDragging) : Inside start s p n where
  track := (hq.track start).trans h.track
  deferred := by
    have hkeeps := h.deferred
    rw [← hq.deferClickUpForDrag] at hkeeps
    simpa [hp] using hkeeps

theorem Between.quiet {n : FingerMouse leap} (h : Between start t m) (hq : Quiet m n) :
    Between start t n where
  track := (hq.track start).trans h.track

/-- Entering a state that neither presses the button nor begins a gesture. -/
theorem Between.inside (h : Between start t m) (hholds : holds t = decide (t = oneFingerDragging))
    (hfree : owned t = none) : Inside start t none m where
  track := by rw [hholds, hfree, h.track]
  deferred := by
    have hclicking : t ≠ oneFingerClicking := by
      rintro rfl
      cases hholds
    simp [hclicking]

/-- Leaving a state that neither holds the button nor owns a gesture. -/
theorem Inside.between (h : Inside start s (some t) m) (hholds : holds s = false)
    (hfree : owned s = none) : Between start t m where
  track := by
    have hdragging : t ≠ oneFingerDragging := by
      rintro rfl
      obtain ⟨rfl, -⟩ := h.deferred.1 rfl
      cases hholds
    rw [h.track, hholds, hfree, decide_eq_false hdragging]

/-- A call that belongs to the gesture of the state. -/
theorem Inside.emit (h : Inside start s none m) (call : OSCall leap.Scalar)
    (hcall : DriverStatus.step ⟨holds s, owned s⟩ call = some ⟨holds s, owned s⟩) :
    Inside start s none (m.emit call) where
  track := by
    show start.track (m.osCalls ++ [call]) = some ⟨holds s, owned s⟩
    rw [DriverStatus.track_concat, h.track, Option.bind_some, hcall]
  deferred := h.deferred

/-- Entering a state that owns a gesture. -/
theorem Between.beginGesture {g : GestureType} (h : Between start t m) (hg : owned t = some g)
    (hholds : holds t = false) : Inside start t none (m.emit (.beginGesture g)) where
  track := by
    have hdragging : t ≠ oneFingerDragging := by
      rintro rfl
      cases hg
    show start.track (m.osCalls ++ [.beginGesture g]) = some ⟨holds t, owned t⟩
    rw [DriverStatus.track_concat, h.track, decide_eq_false hdragging, Option.bind_some,
      DriverStatus.step_beginGesture, hg, hholds]
  deferred := by
    have hclicking : t ≠ oneFingerClicking := by
      rintro rfl
      cases hg
    simp [hclicking]

/-- Leaving it. -/
theorem Inside.endGesture {g : GestureType} (h : Inside start s (some t) m) (hg : owned s = some g)
    (hholds : holds s = false) : Between start t (m.emit .endGesture) where
  track := by
    have hdragging : t ≠ oneFingerDragging := by
      rintro rfl
      obtain ⟨rfl, -⟩ := h.deferred.1 rfl
      cases hg
    show start.track (m.osCalls ++ [.endGesture]) = some ⟨t = oneFingerDragging, none⟩
    rw [DriverStatus.track_concat, h.track, hholds, hg, Option.bind_some,
      DriverStatus.step_endGesture, decide_eq_false hdragging]

/-- Leaving a state that holds the button, by a request that is not for a drag. -/
theorem Inside.clickUp (h : Inside start s (some t) m) (hholds : holds s = true)
    (hfree : owned s = none) (ht : t ≠ oneFingerDragging) :
    Between start t (m.emit (.clickUp 0 m.clickNumber)) where
  track := by
    show start.track (m.osCalls ++ [.clickUp 0 m.clickNumber]) = some ⟨t = oneFingerDragging, none⟩
    rw [DriverStatus.track_concat, h.track, hholds, hfree, Option.bind_some,
      DriverStatus.step_clickUp, decide_eq_false ht]

/-! ### Frames -/

/-- A result that is quiet and does not request a drag. -/
structure QuietResult (m : FingerMouse leap) (r : HandlerResult State (FingerMouse leap)) :
    Prop where
  quiet : Quiet m r.owner
  request : netRequest r.requests ≠ some oneFingerDragging

theorem Inside.quietResult {r : HandlerResult State (FingerMouse leap)} (h : Inside start s none m)
    (hr : QuietResult m r) : Inside start s (netRequest r.requests) r.owner :=
  h.quiet hr.quiet hr.request

theorem QuietResult.done {n : FingerMouse leap} (h : Quiet m n) : QuietResult m (done n) :=
  ⟨h, by simp⟩

theorem QuietResult.goTo {n : FingerMouse leap} (h : Quiet m n) (ht : t ≠ oneFingerDragging) :
    QuietResult m (goTo t n) :=
  ⟨h, by simpa using ht⟩

/-- The dispatch never leads to a drag. -/
theorem nFingers_ne_dragging : nFingers settings v ≠ oneFingerDragging := by
  rw [nFingers]
  split_ifs
  · simp
  all_goals split <;> simp

theorem quietResult_transitionToNFingers : QuietResult m (transitionToNFingers settings v m) :=
  .goTo (.refl m) nFingers_ne_dragging

theorem quietResult_noFingersFrame : QuietResult m (noFingersFrame settings v m) := by
  rw [noFingersFrame]
  split_ifs
  · exact quietResult_transitionToNFingers
  · exact .done (.refl m)

theorem quietResult_oneFingerHoveringFrame :
    QuietResult m (oneFingerHoveringFrame env settings v m) := by
  rw [oneFingerHoveringFrame]
  split_ifs
  · exact quietResult_transitionToNFingers
  · exact .goTo (.refl m) (by simp)
  · exact .done (quiet_drawPointingOverlay.trans quiet_moveCursorToPointable)

theorem quietResult_draggingFrame : QuietResult m (draggingFrame env settings v m) := by
  rw [draggingFrame]
  split_ifs
  · exact quietResult_transitionToNFingers
  · exact .goTo (.refl m) (by simp)
  · exact .done (quiet_drawPointingOverlay.trans quiet_moveCursorToPointable)

theorem quietResult_twoFingersHoveringFrame :
    QuietResult m (twoFingersHoveringFrame env settings v m) := by
  rw [twoFingersHoveringFrame]
  split_ifs
  · exact quietResult_transitionToNFingers
  · exact .goTo (.refl m) (by simp)
  · exact .goTo (.refl m) (by simp)
  · exact .done (quiet_drawGestureOverlay.trans quiet_moveCursor)

/-- What is recognized is one of three gestures. -/
theorem recognizedGesture_eq_some (h : recognizedGesture v = some t) :
    t = twoFingersRotating ∨ t = twoFingersZooming ∨ t = twoFingersScrolling := by
  simp only [recognizedGesture] at h
  split at h
  · cases h
  · split_ifs at h
    · exact .inl (Option.some.inj h).symm
    · exact .inr (.inl (Option.some.inj h).symm)
    · exact .inr (.inr (Option.some.inj h).symm)

theorem quietResult_twoFingersGestureRecognitionFrame :
    QuietResult m (twoFingersGestureRecognitionFrame settings v m) := by
  simp only [twoFingersGestureRecognitionFrame]
  split_ifs
  · exact quietResult_transitionToNFingers
  · exact .goTo (.refl m) (by simp)
  · cases hgesture : recognizedGesture v with
    | none => exact .done quiet_drawGestureOverlay
    | some state =>
      refine .goTo quiet_drawGestureOverlay ?_
      rcases recognizedGesture_eq_some hgesture with rfl | rfl | rfl <;> simp

theorem quietResult_threePlusFingersFrame :
    QuietResult m (threePlusFingersFrame env settings v m) := by
  rw [threePlusFingersFrame]
  split_ifs
  · exact quietResult_transitionToNFingers
  · cases v.collectiveZone with
    | none => exact .done quiet_moveCursorAlways
    | hovering => exact .goTo (.refl m) (by simp)
    | touching => exact .goTo (.refl m) (by simp)

theorem quietResult_threePlusFingersHoveringFrame :
    QuietResult m (threePlusFingersHoveringFrame env settings v m) := by
  rw [threePlusFingersHoveringFrame]
  split_ifs with hchange hmove
  · exact quietResult_transitionToNFingers
  all_goals
    cases v.collectiveZone with
    | none => exact .goTo (.refl m) (by simp)
    | touching => exact .goTo (.refl m) (by simp)
    | hovering =>
      first
        | exact .done (quiet_drawGestureOverlay.trans quiet_moveCursor)
        | exact .done quiet_drawGestureOverlay

/-- What is recognized of three and more fingers is a swipe. -/
theorem recognizedSwipe_request (h : netRequest (recognizedSwipe v m) = some t) :
    t = threePlusFingersSwipeHorizontal ∨ t = threePlusFingersSwipeVertical := by
  simp only [recognizedSwipe] at h
  split_ifs at h
  · exact .inl (Option.some.inj h).symm
  · exact .inr (Option.some.inj h).symm
  · cases h
  · cases h

theorem quietResult_threePlusFingersGestureRecognitionFrame :
    QuietResult m (threePlusFingersGestureRecognitionFrame env settings v m) := by
  rw [threePlusFingersGestureRecognitionFrame]
  split_ifs
  · exact quietResult_transitionToNFingers
  · cases v.collectiveZone with
    | none => exact .goTo (.refl m) (by simp)
    | hovering => exact .goTo (.refl m) (by simp)
    | touching =>
      refine ⟨quiet_drawAndMove, fun h ↦ ?_⟩
      rcases recognizedSwipe_request h with h | h <;> cases h

theorem quietResult_palmGestureRecognitionFrame :
    QuietResult m (palmGestureRecognitionFrame settings v m) := by
  rw [palmGestureRecognitionFrame]
  split_ifs
  · exact quietResult_transitionToNFingers
  · cases v.palmHand with
    | none => exact quietResult_transitionToNFingers
    | some hand =>
      simp only
      split_ifs
      · exact quietResult_transitionToNFingers
      · exact ⟨quiet_drawGestureOverlay, by simp⟩
      · exact ⟨quiet_drawGestureOverlay, by simp⟩

/-- The frame of a click: the flag is set exactly when the drag is requested. -/
theorem clickingFrame_inside (h : Inside start oneFingerClicking none m) :
    Inside start oneFingerClicking (netRequest (clickingFrame env settings v m).requests)
      (clickingFrame env settings v m).owner := by
  rw [clickingFrame]
  split_ifs
  · exact h.quietResult quietResult_transitionToNFingers
  · exact h.quietResult (.goTo (.refl m) (by simp))
  · have hdrawn : Inside start oneFingerClicking none
        (drawClickingOrDraggingOverlay settings v m) :=
      h.quiet quiet_drawPointingOverlay (by simp)
    simp only [holdClick]
    split_ifs with hdrag
    · exact ⟨hdrawn.track, by simp⟩
    · exact ⟨hdrawn.track, hdrawn.deferred⟩

/-- The frame of a two-finger gesture applies its movement, or requests to leave. -/
theorem twoFingersGestureFrame_inside {goOn : FingerMouse leap → FingerMouse leap}
    (h : Inside start s none m) (hgoOn : Inside start s none (goOn m)) :
    Inside start s (netRequest (twoFingersGestureFrame settings v goOn m).requests)
      (twoFingersGestureFrame settings v goOn m).owner := by
  rw [twoFingersGestureFrame]
  split_ifs
  · exact h.quietResult quietResult_transitionToNFingers
  · exact h.quietResult (.goTo (.refl m) (by simp))
  · exact hgoOn

/-- A desktop swipe is applied in a state that owns one. -/
theorem Inside.swipe (h : Inside start s none m)
    (hs : owned s = some .desktopSwipeVertical ∨ owned s = some .desktopSwipeHorizontal)
    (currentFrame sinceFrame : leap.Frame) :
    Inside start s none (generateDesktopSwipeBetweenFrames currentFrame sinceFrame m) := by
  refine h.emit _ ?_
  rcases hs with hs | hs <;> rw [hs]
  · exact DriverStatus.step_applyDesktopSwipe_vertical _ _ _
  · exact DriverStatus.step_applyDesktopSwipe_horizontal _ _ _

theorem swipeVerticalFrame_inside (h : Inside start threePlusFingersSwipeVertical none m) :
    Inside start threePlusFingersSwipeVertical
      (netRequest (swipeVerticalFrame settings v m).requests)
      (swipeVerticalFrame settings v m).owner := by
  simp only [swipeVerticalFrame]
  split_ifs
  · exact h.quietResult quietResult_transitionToNFingers
  · exact h.quietResult (.goTo (.refl m) (by simp))
  · exact (h.swipe (.inl rfl) _ _).quiet quiet_drawGestureOverlay (by simp)
  · exact (h.swipe (.inl rfl) _ _).quiet quiet_drawGestureOverlay (by simp)

theorem swipeHorizontalFrame_inside (h : Inside start threePlusFingersSwipeHorizontal none m) :
    Inside start threePlusFingersSwipeHorizontal
      (netRequest (swipeHorizontalFrame settings v m).requests)
      (swipeHorizontalFrame settings v m).owner := by
  rw [swipeHorizontalFrame]
  split_ifs
  · exact h.quietResult quietResult_transitionToNFingers
  · exact h.quietResult (.goTo (.refl m) (by simp))
  · exact (h.swipe (.inr rfl) _ _).quiet quiet_drawGestureOverlay (by simp)

theorem contract_input (s : State) (i : Input) (m : FingerMouse leap) (h : Inside start s none m) :
    Inside start s (netRequest (handlers env settings v s (.user i) m).requests)
      (handlers env settings v s (.user i) m).owner := by
  cases i with
  | lostFocus =>
    cases s with
    | noFingersNoInteraction => exact h.quietResult (.done (.refl m))
    | _ => exact h.quietResult (.goTo (.refl m) (by simp))
  | processFrame =>
    cases s with
    | noFingersNoInteraction => exact h.quietResult quietResult_noFingersFrame
    | oneFingerHovering => exact h.quietResult quietResult_oneFingerHoveringFrame
    | oneFingerClicking => exact clickingFrame_inside h
    | oneFingerDragging => exact h.quietResult quietResult_draggingFrame
    | twoFingersHovering => exact h.quietResult quietResult_twoFingersHoveringFrame
    | twoFingersGestureRecognition =>
      exact h.quietResult quietResult_twoFingersGestureRecognitionFrame
    | twoFingersRotating =>
      exact twoFingersGestureFrame_inside h
        ((h.quiet quiet_drawAndMove (by simp)).emit _ (DriverStatus.step_applyRotation _ _))
    | twoFingersScrolling =>
      exact twoFingersGestureFrame_inside h
        ((h.emit _ (DriverStatus.step_applyScroll _ _ _ _)).quiet quiet_drawAndMove (by simp))
    | twoFingersZooming =>
      exact twoFingersGestureFrame_inside h
        ((h.quiet quiet_drawAndMove (by simp)).emit _ (DriverStatus.step_applyZoom _ _))
    | threePlusFingersNoInteraction => exact h.quietResult quietResult_threePlusFingersFrame
    | threePlusFingersHovering => exact h.quietResult quietResult_threePlusFingersHoveringFrame
    | threePlusFingersGestureRecognition =>
      exact h.quietResult quietResult_threePlusFingersGestureRecognitionFrame
    | threePlusFingersSwipeVertical => exact swipeVerticalFrame_inside h
    | threePlusFingersSwipeHorizontal => exact swipeHorizontalFrame_inside h
    | palmGestureRecognition => exact h.quietResult quietResult_palmGestureRecognitionFrame
    | palmSwipe =>
      simp only [handlers, statePalmSwipe]
      split_ifs
      · exact h.quietResult quietResult_transitionToNFingers
      · exact (h.quiet quiet_drawGestureOverlay (by simp)).swipe (.inr rfl) _ _

theorem contract_exit (s t : State) (m : FingerMouse leap) (h : Inside start s (some t) m) :
    Between start t (handlers env settings v s .exit m).owner := by
  cases s with
  | oneFingerClicking =>
    simp only [handlers, stateOneFingerClicking, owner_done]
    split_ifs with hdefer
    · -- the drag takes the button over
      obtain rfl := Option.some.inj (h.deferred.2 ⟨rfl, hdefer⟩)
      exact ⟨h.track⟩
    · have ht : t ≠ oneFingerDragging := by
        rintro rfl
        exact hdefer (h.deferred.1 rfl).2
      exact ⟨(h.clickUp rfl rfl ht).track⟩
  | oneFingerDragging =>
    have ht : t ≠ oneFingerDragging := by
      rintro rfl
      cases (h.deferred.1 rfl).1
    exact h.clickUp rfl rfl ht
  | twoFingersRotating => exact h.endGesture rfl rfl
  | twoFingersScrolling => exact h.endGesture rfl rfl
  | twoFingersZooming => exact h.endGesture rfl rfl
  | threePlusFingersSwipeVertical => exact h.endGesture rfl rfl
  | threePlusFingersSwipeHorizontal => exact h.endGesture rfl rfl
  | palmSwipe => exact h.endGesture rfl rfl
  | _ => exact h.between rfl rfl

/-- What most states do when they are entered. -/
theorem quiet_drawOverlays : Quiet m { m with drawOverlays := true } := ⟨rfl, fun _ ↦ rfl⟩

/-- What hovering states do when they are entered. -/
theorem quiet_resetFavorite :
    Quiet m ({ m with drawOverlays := true }.base (·.resetFavoritePointableId v)) :=
  ⟨rfl, fun _ ↦ rfl⟩

/-- Pressing the button, where it is up and stays with the click. -/
theorem Between.pressButton (h : Between start oneFingerClicking m)
    (hp : p ≠ some oneFingerDragging) :
    Inside start oneFingerClicking p (pressButton env v { m with drawOverlays := true }) where
  track := by
    have hquiet : Quiet m (moveCursorToPointable env v { m with drawOverlays := true }) :=
      quiet_drawOverlays.trans quiet_moveCursorToPointable
    have hmoved := (h.quiet hquiet).track
    simp [FingerMouse.pressButton, FingerMouse.emit, base, hmoved, holds, owned]
  deferred := by simp [hp, FingerMouse.pressButton]

theorem contract_enter (t : State) (m : FingerMouse leap) (h : Between start t m) :
    Inside start t (netRequest (handlers env settings v t .enter m).requests)
      (handlers env settings v t .enter m).owner := by
  cases t with
  | noFingersNoInteraction =>
    have hcleared : Quiet m ({ m with drawOverlays := true }.base (·.clearTracker)) :=
      ⟨rfl, fun _ ↦ rfl⟩
    exact ((h.quiet hcleared).inside rfl rfl).quietResult quietResult_noFingersFrame
  | oneFingerHovering =>
    exact ((h.quiet quiet_resetFavorite).inside rfl rfl).quietResult
      quietResult_oneFingerHoveringFrame
  | oneFingerClicking =>
    refine h.pressButton ?_
    simp only [handlers, stateOneFingerClicking]
    split_ifs
    · simpa using nFingers_ne_dragging
    · simp
  | oneFingerDragging =>
    exact ((h.quiet quiet_drawOverlays).inside rfl rfl).quietResult quietResult_draggingFrame
  | twoFingersHovering =>
    exact ((h.quiet quiet_resetFavorite).inside rfl rfl).quietResult
      quietResult_twoFingersHoveringFrame
  | twoFingersGestureRecognition =>
    have hstart : Quiet m { m with drawOverlays := true, gestureStart := v.currentFrame } :=
      ⟨rfl, fun _ ↦ rfl⟩
    exact ((h.quiet (hstart.trans quiet_moveCursor)).inside rfl rfl).quietResult
      quietResult_twoFingersGestureRecognitionFrame
  | twoFingersRotating =>
    exact ((h.quiet quiet_drawOverlays).beginGesture (g := .rotate) rfl rfl).emit _
      (DriverStatus.step_applyRotation _ _)
  | twoFingersScrolling =>
    exact ((h.quiet quiet_drawOverlays).beginGesture (g := .scroll) rfl rfl).emit _
      (DriverStatus.step_applyScroll _ _ _ _)
  | twoFingersZooming =>
    exact ((h.quiet quiet_drawOverlays).beginGesture (g := .zoom) rfl rfl).emit _
      (DriverStatus.step_applyZoom _ _)
  | threePlusFingersNoInteraction =>
    exact ((h.quiet quiet_resetFavorite).inside rfl rfl).quietResult
      quietResult_threePlusFingersFrame
  | threePlusFingersHovering => exact h.inside rfl rfl
  | threePlusFingersGestureRecognition =>
    have hstart : Quiet m { m with gestureStart := v.currentFrame } := ⟨rfl, fun _ ↦ rfl⟩
    exact ((h.quiet hstart).inside rfl rfl).quietResult
      quietResult_threePlusFingersGestureRecognitionFrame
  | threePlusFingersSwipeVertical => exact (h.quiet quiet_drawOverlays).beginGesture rfl rfl
  | threePlusFingersSwipeHorizontal => exact h.beginGesture rfl rfl
  | palmGestureRecognition =>
    have hstart : Quiet m { m with gestureStart := v.currentFrame } := ⟨rfl, fun _ ↦ rfl⟩
    exact ((h.quiet hstart).inside rfl rfl).quietResult quietResult_palmGestureRecognitionFrame
  | palmSwipe => exact h.beginGesture rfl rfl

theorem neverTransitionsOnExit :
    StateMachine.NeverTransitionsOnExit (handlers env settings v) := by
  intro s m
  cases s <;> rfl

/-- **The contract of the states.** -/
theorem contract (env : Environment leap) (settings : Settings leap.Scalar) (start : DriverStatus) :
    ModeObject.Contract (handlers env settings) (Inside start) (Between start)
      fun m ↦ start.track m.osCalls = some ⟨false, none⟩ := fun v ↦
  { neverTransitionsOnExit := neverTransitionsOnExit
    input := contract_input
    exit := contract_exit
    enter := contract_enter
    final := fun s m h ↦ by
      -- the destructor leaves the state as a transition would
      have hpending : Inside start s (some noFingersNoInteraction) m :=
        ⟨h.track, by simpa using h.deferred⟩
      exact (contract_exit s _ m hpending).track }

/-! ### Whole runs -/

variable {fuel : ℕ} {o o' : Object leap}

/-- The contract at the level of the object. -/
def Kept (start : DriverStatus) (o : Object leap) : Prop :=
  o.machine.Kept (Inside start) (Between start) noFingersNoInteraction

theorem kept_construct (memory : FingerMouse leap) : Kept .idle (Object.construct memory) :=
  StateMachine.Kept.construct ⟨rfl⟩

/-- Frames keep the contract, -/
theorem Kept.processFrame {frame sinceFrame : leap.Frame} (h : Kept start o)
    (hrun : processFrame env settings fuel o frame sinceFrame = some o') :
    o'.Holds (Inside start) := by
  simp only [FingerMouse.processFrame, processFrameInternal, Option.bind_eq_bind,
    Option.bind_eq_some_iff] at hrun
  obtain ⟨o₁, hinit, hrun⟩ := hrun
  have hframe : Kept start
      { o with frame := o.frame.processFrame (overrides leap) frame sinceFrame } := h
  have hentered : Kept start o₁ :=
    ((contract env settings start).ensureInitialized hframe hinit).kept
  exact (contract env settings start).runCurrentState hentered hrun

/-- focus losses do, -/
theorem Kept.stopActiveEvents (h : Kept start o)
    (hrun : stopActiveEvents env settings fuel o = some o') : o'.Holds (Inside start) :=
  (contract env settings start).runCurrentState h hrun

/-- and the destructor releases everything. -/
theorem Kept.destruct (h : Kept start o) (hrun : destruct env settings fuel o = some o') :
    start.track o'.machine.owner.osCalls = some ⟨false, none⟩ :=
  (contract env settings start).shutdown h (fun _ hm ↦ hm.track) hrun

end

end FingerMouse

end Touchless
