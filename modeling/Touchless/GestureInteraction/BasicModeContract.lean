import Touchless.GestureInteraction.BasicMode

/-!
# What basic mode sends

The contract of the states of `BasicMode`: which gesture a state owns, and where the button may be
down. Every handler keeps it for whatever frame it is given, so every run does (`Kept.run`), and
when the destructor returns everything has been released (`Kept.destruct`).

Most of what a handler does is `Quiet`: it sends nothing that concerns the button or a gesture.
-/

namespace Touchless

namespace BasicMode

open State

variable {leap : Leap}

/-- Nothing has been sent that concerns the button or a gesture. -/
structure Quiet (m n : BasicMode leap) : Prop where
  clickDown : n.clickDown = m.clickDown
  track : ∀ start : DriverStatus, start.track n.osCalls = start.track m.osCalls

namespace Quiet

variable {m n k : BasicMode leap}

theorem refl (m : BasicMode leap) : Quiet m m := ⟨rfl, fun _ ↦ rfl⟩

theorem trans (h : Quiet m n) (h' : Quiet n k) : Quiet m k :=
  ⟨h'.clickDown.trans h.clickDown, fun start ↦ (h'.track start).trans (h.track start)⟩

end Quiet

/-- Nothing has been sent, and the members of the click are as they were. -/
structure Idle (m n : BasicMode leap) : Prop where
  clickDown : n.clickDown = m.clickDown
  clickNumber : n.clickNumber = m.clickNumber
  osCalls : n.osCalls = m.osCalls

namespace Idle

variable {m n k : BasicMode leap}

theorem refl (m : BasicMode leap) : Idle m m := ⟨rfl, rfl, rfl⟩

theorem trans (h : Idle m n) (h' : Idle n k) : Idle m k :=
  ⟨h'.clickDown.trans h.clickDown, h'.clickNumber.trans h.clickNumber, h'.osCalls.trans h.osCalls⟩

/-- A method of the base class that sends nothing, if it is called. -/
theorem base {f : Manager leap → Manager leap} (h : (f m.toManager).osCalls = m.osCalls) :
    Idle m (m.base f) :=
  ⟨rfl, rfl, h⟩

theorem quiet (h : Idle m n) : Quiet m n := ⟨h.clickDown, fun start ↦ by rw [h.osCalls]⟩

end Idle
section

variable {env : Environment leap} {settings : Settings leap.Scalar} {v : FrameState leap}
  {m : BasicMode leap} {start : DriverStatus} {p : Option State} {u : State}

@[simp]
theorem clickDown_base (f : Manager leap → Manager leap) : (m.base f).clickDown = m.clickDown := rfl

@[simp]
theorem toManager_base (f : Manager leap → Manager leap) :
    (m.base f).toManager = f m.toManager := rfl

@[simp]
theorem favoriteHandId_base (f : Manager leap → Manager leap) :
    (m.base f).favoriteHandId = m.favoriteHandId := rfl

theorem quiet_charms : Quiet m (charms env v m) := by
  rw [charms]
  split_ifs
  · refine ⟨rfl, fun start ↦ ?_⟩
    cases h : start.track m.osCalls <;> simp [emit, h]
  · exact .refl m

theorem quiet_noPointablesFrame : Quiet m (noPointablesFrame settings v m).owner := by
  rw [noPointablesFrame]
  split_ifs
  · exact .refl m
  · exact ⟨rfl, fun _ ↦ rfl⟩

theorem quiet_setAbsoluteCursorPositionPointable :
    Quiet m (setAbsoluteCursorPositionPointable env v m) := by
  refine ⟨rfl, fun start ↦ ?_⟩
  simp only [setAbsoluteCursorPositionPointable, toManager_base]
  split_ifs <;> simp

/-- The overlay of the favorite pointable. -/
theorem quiet_draw :
    Quiet m (m.base fun b ↦ b.drawOverlayForPointable (b.favoritePointable v)) :=
  ⟨rfl, fun _ ↦ by simp⟩

/-- The touch point of a pointable. -/
theorem quiet_touchPoint {id : Manager leap → ℤ} {pointable : Manager leap → leap.Pointable}
    {touching deltaTracked : Bool} : Quiet m (m.base fun b ↦
      b.addTouchPointForPointable env v (id b) (pointable b) touching deltaTracked) :=
  ⟨rfl, fun _ ↦ by simp⟩

/-- The touch point of a hand. -/
theorem quiet_touchHand {hand : leap.Hand} {touching : Bool} :
    Quiet m (m.base (·.addTouchPointForHand env v hand touching)) :=
  ⟨rfl, fun _ ↦ by simp⟩

theorem quiet_setAbsoluteCursorPositionHand : Quiet m (setAbsoluteCursorPositionHand env v m) := by
  refine ⟨rfl, fun start ↦ ?_⟩
  simp only [setAbsoluteCursorPositionHand, toManager_base]
  split_ifs <;> simp

theorem quiet_touchDown : Quiet m (touchDown env v m) :=
  ⟨rfl, fun start ↦ by simp [touchDown]⟩

/-- The hand that the frame in `twoPlusPointablesHovering` ends with is that of a pointable in view,
unless it had one before. -/
def TakesHand (v : FrameState leap) (m n : BasicMode leap) : Prop :=
  0 ≤ n.favoriteHandId ∧ (m.favoriteHandId < 0 → ∃ id,
    leap.pointableIsValid (leap.pointable v.currentFrame id) = true ∧
      n.favoriteHandId = leap.handId (leap.handOf (leap.pointable v.currentFrame id)))

/-- What the frame in `twoPlusPointablesHovering` comes to. It sends nothing, goes to the dispatch
when the group changes or the favorite hand is not in view, to the scrolling state with a hand in
view, and stays otherwise. -/
inductive HoveringFrame (settings : Settings leap.Scalar) (v : FrameState leap)
    (m : BasicMode leap) : HandlerResult State (BasicMode leap) → Prop
  | dispatch (hgroup : groupChanges settings v (tooFewForScrolling settings) = true) :
    HoveringFrame settings v m (transitionToNPointables settings v m)
  | lost {n : BasicMode leap}
    (hgroup : groupChanges settings v (tooFewForScrolling settings) = false) (h : Idle m n)
    (hand : TakesHand v m n)
    (hinvalid : leap.handIsValid (leap.hand v.currentFrame n.favoriteHandId) = false) :
    HoveringFrame settings v m (transitionToNPointables settings v n)
  | scroll {n : BasicMode leap}
    (hgroup : groupChanges settings v (tooFewForScrolling settings) = false) (h : Idle m n)
    (hvalid : leap.handIsValid (leap.hand v.currentFrame n.favoriteHandId) = true) :
    HoveringFrame settings v m (goTo twoPlusPointablesScrolling n)
  | stay {n : BasicMode leap}
    (hgroup : groupChanges settings v (tooFewForScrolling settings) = false) (h : Idle m n) :
    HoveringFrame settings v m (done n)

theorem hoveringFrame (m : BasicMode leap) :
    HoveringFrame settings v m (twoPlusPointablesHoveringFrame env settings v m) := by
  rw [twoPlusPointablesHoveringFrame]
  by_cases hgroup : groupChanges settings v (tooFewForScrolling settings) = true
  · rw [if_pos hgroup]
    exact .dispatch hgroup
  rw [if_neg hgroup]
  replace hgroup := eq_false_of_ne_true hgroup
  -- `n` has its favorite pointable, and `k` its favorite hand too
  extract_lets n favoritePointable k pointed favoriteHand pointing
  have hn : Idle m n := .base (by simp)
  have hk : Idle n k := by
    show Idle n (if n.favoriteHandId < 0 then _ else n)
    split_ifs
    · exact ⟨rfl, rfl, rfl⟩
    · exact .refl n
  have hpointed : Idle k pointed := by
    show Idle k (if settings.useMouseOutput = true then k else _)
    split_ifs
    · exact .refl k
    · exact .base (by simp)
  have hpointing : Idle k pointing := by
    show Idle k (if settings.useMouseOutput = true then k else _)
    split_ifs
    · exact .refl k
    · exact .base (by simp)
  by_cases hlost : n.favoriteHandId < 0 ∧ leap.pointableIsValid favoritePointable = false
  · rw [if_pos hlost]
    exact .stay hgroup hn
  rw [if_neg hlost]
  by_cases hnone : k.favoriteHandId < 0
  · rw [if_pos hnone]
    exact .stay hgroup (((hn.trans hk).trans hpointed).trans (.base (by simp)))
  rw [if_neg hnone]
  by_cases hinvalid : leap.handIsValid favoriteHand = false
  · rw [if_pos hinvalid]
    refine .lost hgroup (hn.trans hk) ⟨not_lt.1 hnone, fun hfresh ↦ ?_⟩ hinvalid
    -- without a hand before, it is that of the favorite pointable, which is valid
    have hvalid : leap.pointableIsValid favoritePointable = true :=
      eq_true_of_ne_false fun hpointable ↦ hlost ⟨hfresh, hpointable⟩
    have hhand : k.favoriteHandId = leap.handId (leap.handOf favoritePointable) := by
      show BasicMode.favoriteHandId (if n.favoriteHandId < 0 then _ else n) = _
      rw [if_pos (show n.favoriteHandId < 0 from hfresh)]
    exact ⟨_, hvalid, hhand⟩
  rw [if_neg hinvalid]
  by_cases htouching : FrameState.hasFingersTouching favoriteHand = true
  · rw [if_pos htouching]
    exact .scroll hgroup (hn.trans hk) (eq_true_of_ne_false hinvalid)
  · rw [if_neg htouching]
    exact .stay hgroup (((hn.trans hk).trans hpointing).trans (.base (by simp)))

/-- It sends nothing. -/
theorem HoveringFrame.idle {result : HandlerResult State (BasicMode leap)}
    (h : HoveringFrame settings v m result) : Idle m result.owner := by
  cases h with
  | dispatch hgroup => exact .refl m
  | lost hgroup h hand hinvalid => exact h
  | scroll hgroup h hvalid => exact h
  | stay hgroup h => exact h

theorem quiet_twoPlusPointablesHoveringFrame :
    Quiet m (twoPlusPointablesHoveringFrame env settings v m).owner :=
  (hoveringFrame m).idle.quiet

theorem quiet_twoHandsHoveringFrame :
    Quiet m (twoHandsHoveringFrame env settings v m).owner := by
  rw [twoHandsHoveringFrame]
  cases multiHand v with
  | none => exact .refl m
  | some ids =>
    simp only
    split_ifs <;> exact ⟨rfl, fun start ↦ by simp⟩

theorem quiet_twoHandsGestureRecognitionFrame :
    Quiet m (twoHandsGestureRecognitionFrame settings v m).owner := by
  simp only [twoHandsGestureRecognitionFrame]
  split_ifs <;> exact .refl m

theorem quiet_twoHandsTouchFrame : Quiet m (twoHandsTouchFrame env settings v m).owner := by
  rw [twoHandsTouchFrame]
  cases multiHand v with
  | none => exact .refl m
  | some ids => exact ⟨rfl, fun start ↦ by simp⟩

/-- The gesture that a state owns. -/
def owned (settings : Settings leap.Scalar) : State → Option GestureType
  | twoPlusPointablesScrolling => if settings.useMouseOutput then some .scroll else none
  | twoHandsRotating => some .rotate
  | twoHandsZooming => some .zoom
  | palmSwipe => some .desktopSwipeHorizontal
  | _ => none

/-- In a state, with the request `p` pending: the state's own gesture is open, and `m_clickDown`
tells whether the button is down. It can be down in the cooldown state and on the way there. -/
structure Inside (settings : Settings leap.Scalar) (start : DriverStatus) (s : State)
    (p : Option State) (m : BasicMode leap) : Prop where
  track : start.track m.osCalls = some ⟨m.clickDown, owned settings s⟩
  held : m.clickDown = true → settings.useMouseOutput = true ∧
    (s = onePointableClickCooldown ∨
      s = onePointableHovering ∧ p = some onePointableClickCooldown)

/-- Between two states. -/
structure Between (settings : Settings leap.Scalar) (start : DriverStatus) (t : State)
    (m : BasicMode leap) : Prop where
  track : start.track m.osCalls = some ⟨m.clickDown, none⟩
  held : m.clickDown = true → settings.useMouseOutput = true ∧ t = onePointableClickCooldown

theorem Inside.quiet {s : State} {n : BasicMode leap}
    (h : Inside settings start s none m) (hq : Quiet m n) : Inside settings start s p n where
  track := by rw [hq.track, hq.clickDown, h.track]
  held hdown := by
    obtain ⟨hmouse, hs⟩ := h.held (hq.clickDown ▸ hdown)
    exact ⟨hmouse, .inl (by simpa using hs)⟩

theorem Between.quiet {t : State} {n : BasicMode leap} (h : Between settings start t m)
    (hq : Quiet m n) : Between settings start t n where
  track := by rw [hq.track, hq.clickDown, h.track]
  held hdown := h.held (hq.clickDown ▸ hdown)

theorem Between.inside {t : State} (h : Between settings start t m)
    (hfree : owned settings t = none) : Inside settings start t none m where
  track := hfree ▸ h.track
  held hdown := (h.held hdown).imp_right .inl

theorem Inside.up {s : State} (h : Inside settings start s none m)
    (hs : s ≠ onePointableClickCooldown) : m.clickDown = false := by
  by_contra hdown
  exact hs (by simpa using (h.held (by simpa using hdown)).2)

theorem Between.up {t : State} (h : Between settings start t m)
    (ht : t ≠ onePointableClickCooldown) : m.clickDown = false := by
  by_contra hdown
  exact ht (h.held (by simpa using hdown)).2

theorem Inside.between {s t : State} (h : Inside settings start s (some t) m)
    (hfree : owned settings s = none) (hs : s ≠ onePointableClickCooldown) :
    Between settings start t m where
  track := hfree ▸ h.track
  held hdown := by
    rcases h.held hdown with ⟨hmouse, hcooldown | ⟨-, ht⟩⟩
    · exact absurd hcooldown hs
    · exact ⟨hmouse, Option.some.inj ht⟩

/-- A call that belongs to the gesture of the state. -/
theorem Inside.emit {s : State} (h : Inside settings start s none m)
    (call : OSCall leap.Scalar)
    (hcall : ∀ down, DriverStatus.step ⟨down, owned settings s⟩ call =
      some ⟨down, owned settings s⟩) : Inside settings start s p (m.emit call) where
  track := by
    show start.track (m.osCalls ++ [call]) = some ⟨m.clickDown, owned settings s⟩
    rw [DriverStatus.track_concat, h.track, Option.bind_some, hcall]
  held hdown := (h.quiet (.refl m)).held hdown

/-- Entering a state that owns a gesture. -/
theorem Between.beginGesture {t : State} {g : GestureType} (h : Between settings start t m)
    (hg : owned settings t = some g) :
    Inside settings start t none (m.emit (.beginGesture g)) where
  track := by
    show start.track (m.osCalls ++ [.beginGesture g]) = some ⟨m.clickDown, owned settings t⟩
    rw [DriverStatus.track_concat, h.track, Option.bind_some, DriverStatus.step_beginGesture, hg]
  held hdown := (h.held hdown).imp_right .inl

/-- Leaving it. -/
theorem Inside.endGesture {s t : State} {g : GestureType} (h : Inside settings start s (some t) m)
    (hg : owned settings s = some g) (hs : s ≠ onePointableClickCooldown)
    (hs' : s ≠ onePointableHovering) : Between settings start t (m.emit .endGesture) where
  track := by
    show start.track (m.osCalls ++ [.endGesture]) = some ⟨m.clickDown, none⟩
    rw [DriverStatus.track_concat, h.track, Option.bind_some, hg, DriverStatus.step_endGesture]
  held hdown := by
    rcases h.held hdown with ⟨-, hcooldown | ⟨hhovering, -⟩⟩
    · exact absurd hcooldown hs
    · exact absurd hhovering hs'

theorem Inside.of_request {s : State} (h : Inside settings start s none m) :
    Inside settings start s p m := h.quiet (.refl m)

/-! ### The click -/

theorem pressButton_inside (hmouse : settings.useMouseOutput = true)
    (h : start.track m.osCalls = some ⟨false, none⟩) :
    Inside settings start onePointableHovering (some onePointableClickCooldown)
      (pressButton env v m) where
  track := by
    have htrack : start.track (setAbsoluteCursorPositionPointable env v m).osCalls =
        some ⟨false, none⟩ := by rw [quiet_setAbsoluteCursorPositionPointable.track, h]
    simp [pressButton, BasicMode.emit, htrack, owned]
  held _ := ⟨hmouse, .inr ⟨rfl, rfl⟩⟩

theorem onePointableHoveringFrame_inside
    (h : Inside settings start onePointableHovering none m) :
    Inside settings start onePointableHovering
      (netRequest (onePointableHoveringFrame env settings v m).requests)
      (onePointableHoveringFrame env settings v m).owner := by
  have hrefresh : Quiet m (m.base (·.refreshFavoritePointableId v)) := ⟨rfl, fun _ ↦ by simp⟩
  have hm := h.quiet (p := none) hrefresh
  rw [onePointableHoveringFrame]
  set n := m.base (·.refreshFavoritePointableId v)
  clear_value n
  have hup := hm.up (by simp)
  simp only
  split_ifs with hgroup htouching hmouse hmouse
  · exact hm.of_request
  · exact pressButton_inside hmouse (by rw [hm.track, hup]; rfl)
  · exact hm.quiet quiet_touchDown
  · exact hm.quiet ((quiet_setAbsoluteCursorPositionPointable.trans quiet_charms).trans quiet_draw)
  · exact hm.quiet ((quiet_touchPoint.trans quiet_charms).trans quiet_draw)

theorem releaseClick_of_up (hup : m.clickDown = false) : releaseClick env settings v m = m := by
  rw [releaseClick, hup]
  rfl

theorem releaseClick_of_down (hmouse : settings.useMouseOutput = true)
    (hdown : m.clickDown = true) :
    releaseClick env settings v m =
      { m with clickDown := false }.emit (.clickUp 0 m.clickNumber) := by
  rw [releaseClick, hdown, hmouse]
  rfl

/-- Releasing the button where it is down. -/
theorem releaseClick_track (h : Inside settings start onePointableClickCooldown p m) :
    start.track (releaseClick env settings v m).osCalls = some ⟨false, none⟩ ∧
      (releaseClick env settings v m).clickDown = false := by
  have htrack := h.track
  cases hdown : m.clickDown with
  | false =>
    rw [releaseClick_of_up hdown, htrack, hdown]
    exact ⟨rfl, rfl⟩
  | true =>
    rw [releaseClick_of_down (h.held hdown).1 hdown]
    rw [hdown] at htrack
    exact ⟨by simp [BasicMode.emit, htrack, owned], rfl⟩

theorem Inside.releaseClickInPlace (h : Inside settings start onePointableClickCooldown none m) :
    Inside settings start onePointableClickCooldown none
      (releaseClickInPlace env settings v m) := by
  rw [BasicMode.releaseClickInPlace]
  split_ifs with hdown
  · exact ⟨(releaseClick_track h).1, by simp⟩
  · exact h

theorem Inside.holdClick (h : Inside settings start onePointableClickCooldown none m) :
    Inside settings start onePointableClickCooldown none (holdClick env settings v m) := by
  rw [BasicMode.holdClick]
  split_ifs with hlong hmouse hmouse
  · exact h.releaseClickInPlace.quiet quiet_setAbsoluteCursorPositionPointable
  · exact h.releaseClickInPlace
  · exact h
  · exact h.quiet quiet_touchPoint

theorem clickCooldownFrame_inside
    (h : Inside settings start onePointableClickCooldown none m) :
    Inside settings start onePointableClickCooldown
      (netRequest (clickCooldownFrame env settings v m).requests)
      (clickCooldownFrame env settings v m).owner := by
  rw [clickCooldownFrame]
  split_ifs with hgroup htouching
  · exact h.of_request
  · exact h.of_request
  · have hm := h.quiet (p := none) (n := { m with clickDuration := v.now - m.lastClickTime }.base
      (·.refreshFavoritePointableId v)) ⟨rfl, fun _ ↦ by simp⟩
    exact hm.holdClick.quiet quiet_draw

/-! ### The other frames -/

theorem scrollingFrame_inside (h : Inside settings start twoPlusPointablesScrolling none m) :
    Inside settings start twoPlusPointablesScrolling
      (netRequest (scrollingFrame env settings v m).requests)
      (scrollingFrame env settings v m).owner := by
  rw [scrollingFrame]
  simp only
  split_ifs with hgroup hvalid htouching hmouse
  · exact h.of_request
  · exact h.of_request
  · exact h.of_request
  · have hscroll : Inside settings start twoPlusPointablesScrolling none
        (generateScrollBetweenFrames settings v.currentFrame v.sinceFrame m) :=
      h.emit _ fun down ↦ by simp [owned, hmouse]
    exact hscroll.quiet ⟨rfl, fun _ ↦ by simp⟩
  · exact h.quiet ⟨rfl, fun _ ↦ by simp⟩

theorem twoHandsGestureFrame_inside {s : State} {movement : OSCall leap.Scalar}
    (h : Inside settings start s none m)
    (hmovement : ∀ down, DriverStatus.step ⟨down, owned settings s⟩ movement =
      some ⟨down, owned settings s⟩) :
    Inside settings start s (netRequest (twoHandsGestureFrame settings v movement m).requests)
      (twoHandsGestureFrame settings v movement m).owner := by
  rw [twoHandsGestureFrame]
  split_ifs
  · exact h.of_request
  · exact h.of_request
  · exact h.emit movement hmovement

theorem contract_input (s : State) (i : Input) (m : BasicMode leap)
    (h : Inside settings start s none m) :
    Inside settings start s (netRequest (handlers env settings v s (.user i) m).requests)
      (handlers env settings v s (.user i) m).owner := by
  cases i with
  | lostFocus => cases s <;> exact h.of_request
  | processFrame =>
    cases s with
    | noPointablesNoInteraction => exact h.quiet quiet_noPointablesFrame
    | onePointableHovering => exact onePointableHoveringFrame_inside h
    | onePointableClickCooldown => exact clickCooldownFrame_inside h
    | twoPlusPointablesHovering => exact h.quiet quiet_twoPlusPointablesHoveringFrame
    | twoPlusPointablesScrolling => exact scrollingFrame_inside h
    | twoHandsHovering => exact h.quiet quiet_twoHandsHoveringFrame
    | twoHandsGestureRecognition => exact h.quiet quiet_twoHandsGestureRecognitionFrame
    | twoHandsRotating =>
      exact twoHandsGestureFrame_inside h fun down ↦ DriverStatus.step_applyRotation down _
    | twoHandsZooming =>
      exact twoHandsGestureFrame_inside h fun down ↦ DriverStatus.step_applyZoom down _
    | twoHandsTouch => exact h.quiet quiet_twoHandsTouchFrame
    | palmGestureRecognition => exact h.of_request
    | palmSwipe =>
      exact h.emit _ fun down ↦ DriverStatus.step_applyDesktopSwipe_horizontal down _ _

theorem contract_exit (s t : State) (m : BasicMode leap)
    (h : Inside settings start s (some t) m) :
    Between settings start t (handlers env settings v s .exit m).owner := by
  cases s with
  | onePointableClickCooldown =>
    obtain ⟨htrack, hup⟩ :
        start.track (releaseClick env settings v m).osCalls = some ⟨false, none⟩ ∧
        (releaseClick env settings v m).clickDown = false := releaseClick_track h
    refine ⟨?_, fun hdown ↦ ?_⟩
    · exact htrack.trans (by rw [← hup]; rfl)
    · exact absurd (hup.symm.trans hdown) (by simp)
  | twoPlusPointablesScrolling =>
    cases hmouse : settings.useMouseOutput with
    | true =>
      have hend := h.endGesture (g := .scroll) (by simp [owned, hmouse]) (by simp) (by simp)
      simpa [handlers, stateTwoPlusPointablesScrolling, hmouse] using hend
    | false =>
      have hquiet := h.between (by simp [owned, hmouse]) (by simp)
      refine ⟨?_, ?_⟩
      · simpa [handlers, stateTwoPlusPointablesScrolling, hmouse] using hquiet.track
      · simpa [handlers, stateTwoPlusPointablesScrolling, hmouse] using hquiet.held
  | twoHandsRotating => exact h.endGesture rfl (by simp) (by simp)
  | twoHandsZooming => exact h.endGesture rfl (by simp) (by simp)
  | palmSwipe => exact h.endGesture rfl (by simp) (by simp)
  | _ => exact h.between rfl (by simp)

/-- What most states do when they are entered. -/
theorem quiet_updateCursor : Quiet m { m with updateCursor := true } := ⟨rfl, fun _ ↦ rfl⟩

theorem contract_enter (t : State) (m : BasicMode leap) (h : Between settings start t m) :
    Inside settings start t (netRequest (handlers env settings v t .enter m).requests)
      (handlers env settings v t .enter m).owner := by
  cases t with
  | noPointablesNoInteraction =>
    exact (h.inside rfl).quiet (quiet_updateCursor.trans quiet_noPointablesFrame)
  | onePointableHovering =>
    exact onePointableHoveringFrame_inside ((h.inside rfl).quiet ⟨rfl, fun _ ↦ rfl⟩)
  | onePointableClickCooldown => exact clickCooldownFrame_inside (h.inside rfl)
  | twoPlusPointablesHovering =>
    have hreset : Quiet m ({ m with favoriteHandId := -1 }.base fun b ↦
        (b.resetFavoritePointableId v).refreshFavoritePointableId v) := ⟨rfl, fun _ ↦ by simp⟩
    simp only [handlers, stateTwoPlusPointablesHovering]
    split_ifs
    · exact (h.inside rfl).quiet hreset
    · exact (h.inside rfl).quiet (hreset.trans quiet_twoPlusPointablesHoveringFrame)
  | twoPlusPointablesScrolling =>
    cases hmouse : settings.useMouseOutput with
    | true =>
      have hcursor : Quiet m (setAbsoluteCursorPositionHand env v m) :=
        quiet_setAbsoluteCursorPositionHand
      have hbegin := (h.quiet hcursor).beginGesture (g := .scroll) (by simp [owned, hmouse])
      simpa [handlers, stateTwoPlusPointablesScrolling, hmouse] using hbegin
    | false =>
      have htouch : Quiet m (m.base (·.addTouchPointForHand env v
          (leap.hand v.currentFrame m.favoriteHandId) true)) := quiet_touchHand
      have hinside := (h.inside (by simp [owned, hmouse])).quiet (p := none) htouch
      simpa [handlers, stateTwoPlusPointablesScrolling, hmouse] using hinside
  | twoHandsHovering =>
    exact (h.inside rfl).quiet
      (Quiet.trans (n := { m with updateCursor := true }.base (·.resetFavoritePointableId v))
        ⟨rfl, fun _ ↦ rfl⟩ quiet_twoHandsHoveringFrame)
  | twoHandsGestureRecognition =>
    exact (h.inside rfl).quiet
      (Quiet.trans (n := { m with updateCursor := true, gestureStart := v.currentFrame })
        ⟨rfl, fun _ ↦ rfl⟩ quiet_twoHandsGestureRecognitionFrame)
  | twoHandsRotating =>
    exact ((h.quiet quiet_updateCursor).beginGesture (g := .rotate) rfl).emit _ fun down ↦
      DriverStatus.step_applyRotation down _
  | twoHandsZooming =>
    exact ((h.quiet quiet_updateCursor).beginGesture (g := .zoom) rfl).emit _ fun down ↦
      DriverStatus.step_applyZoom down _
  | twoHandsTouch =>
    exact (h.inside rfl).quiet (quiet_updateCursor.trans quiet_twoHandsTouchFrame)
  | palmGestureRecognition => exact (h.inside rfl).quiet ⟨rfl, fun _ ↦ rfl⟩
  | palmSwipe => exact h.beginGesture rfl

theorem neverTransitionsOnExit :
    StateMachine.NeverTransitionsOnExit (handlers env settings v) := by
  intro s m
  cases s <;> rfl

/-- **The contract of the states.** -/
theorem contract (env : Environment leap) (settings : Settings leap.Scalar) (start : DriverStatus) :
    ModeObject.Contract (handlers env settings) (Inside settings start) (Between settings start)
      fun m ↦ start.track m.osCalls = some ⟨false, none⟩ := fun v ↦
  { neverTransitionsOnExit := neverTransitionsOnExit
    input := contract_input
    exit := contract_exit
    enter := contract_enter
    final := fun s m h ↦ by
      have hexit : Between settings start noPointablesNoInteraction
          (handlers env settings v s .exit m).owner := contract_exit s _ m h.of_request
      rw [hexit.track, hexit.up (by simp)] }

/-! ### Whole runs -/

variable {fuel : ℕ} {o o' : Object leap}

/-- The end of a frame: in touch mode the touch event is sent. -/
def sendTouches (settings : Settings leap.Scalar) (o : Object leap) : Object leap :=
  if settings.useMouseOutput then o else o.mapOwner (·.base (·.emitTouchEvent))

/-- A frame is `Initialize` where needed, an input, and in touch mode the touch event. -/
theorem processFrame_eq (env : Environment leap) (settings : Settings leap.Scalar) (fuel : ℕ)
    (o : Object leap) (frame sinceFrame : leap.Frame) :
    processFrame env settings fuel o frame sinceFrame = (do
      let o ← ModeObject.ensureInitialized (handlers env settings) fuel
        ⟨o.frame.processFrame (overrides leap) frame sinceFrame, o.machine⟩
          noPointablesNoInteraction
      let o ← o.runCurrentState (handlers env settings) fuel .processFrame
      return sendTouches settings o) := by
  simp only [processFrame, processFrameInternal, ModeObject.ensureInitialized,
    ModeObject.runCurrentState, sendTouches, ModeObject.mapOwner, Option.bind_eq_bind,
    Option.pure_def, Option.bind_assoc, Option.bind_some]
  cases settings.useMouseOutput <;> rfl

theorem processFrame_some {frame sinceFrame : leap.Frame}
    (h : processFrame env settings fuel o frame sinceFrame = some o') :
    ∃ o₁ o₂, ModeObject.ensureInitialized (handlers env settings) fuel
        ⟨o.frame.processFrame (overrides leap) frame sinceFrame, o.machine⟩
          noPointablesNoInteraction = some o₁ ∧
      o₁.runCurrentState (handlers env settings) fuel .processFrame = some o₂ ∧
      o' = sendTouches settings o₂ := by
  simp only [processFrame_eq, Option.bind_eq_bind, Option.bind_eq_some_iff, Option.pure_def,
    Option.some.injEq] at h
  obtain ⟨o₁, hinit, o₂, hrun, rfl⟩ := h
  exact ⟨o₁, o₂, hinit, hrun, rfl⟩

theorem currentState_sendTouches :
    (sendTouches settings o).machine.currentState = o.machine.currentState := by
  rw [sendTouches]
  split_ifs <;> rfl

theorem frame_sendTouches : (sendTouches settings o).frame = o.frame := by
  rw [sendTouches]
  split_ifs <;> rfl

/-- **A contract that holds whatever the last frame was** is kept by frames. -/
theorem holds_processFrame {In : State → Option State → BasicMode leap → Prop}
    {Enters : State → BasicMode leap → Prop} {Leaves : BasicMode leap → Prop}
    (hcontract : ModeObject.Contract (handlers env settings) In Enters Leaves)
    (htouch : ∀ s m, In s none m → In s none (m.base (·.emitTouchEvent)))
    (h : o.machine.Kept In Enters noPointablesNoInteraction) {frame sinceFrame : leap.Frame}
    (hrun : processFrame env settings fuel o frame sinceFrame = some o') : o'.Holds In := by
  obtain ⟨o₁, o₂, hinit, hinput, rfl⟩ := processFrame_some hrun
  have hshown : (ModeObject.machine
      ⟨o.frame.processFrame (overrides leap) frame sinceFrame, o.machine⟩).Kept In Enters
        noPointablesNoInteraction := h
  have hentered : o₁.machine.Kept In Enters noPointablesNoInteraction :=
    (hcontract.ensureInitialized hshown hinit).kept
  have hframe := hcontract.runCurrentState hentered hinput
  rw [sendTouches]
  split_ifs
  · exact hframe
  · exact hframe.mapOwner htouch

/-- The contract at the level of the object. -/
def Kept (settings : Settings leap.Scalar) (start : DriverStatus) (o : Object leap) : Prop :=
  o.machine.Kept (Inside settings start) (Between settings start) noPointablesNoInteraction

theorem kept_construct (settings : Settings leap.Scalar) (memory : BasicMode leap) :
    Kept settings .idle (Object.construct memory) :=
  StateMachine.Kept.construct ⟨rfl, by simp [construct]⟩

/-- Frames keep the contract, -/
theorem Kept.processFrame {frame sinceFrame : leap.Frame} (h : Kept settings start o)
    (hrun : processFrame env settings fuel o frame sinceFrame = some o') :
    o'.Holds (Inside settings start) :=
  holds_processFrame (contract env settings start) (fun _ _ hm ↦ hm.quiet ⟨rfl, fun _ ↦ by simp⟩)
    h hrun

/-- focus losses do, -/
theorem Kept.stopActiveEvents (h : Kept settings start o)
    (hrun : stopActiveEvents env settings fuel o = some o') : o'.Holds (Inside settings start) :=
  (contract env settings start).runCurrentState h hrun

/-- and the destructor releases everything. -/
theorem Kept.destruct (h : Kept settings start o)
    (hrun : destruct env settings fuel o = some o') :
    start.track o'.machine.owner.osCalls = some ⟨false, none⟩ :=
  (contract env settings start).shutdown h (fun m hm ↦ by rw [hm.track, hm.up (by simp)]) hrun

end

end BasicMode

end Touchless
