import Touchless.Foundations.Walk
import Touchless.OSInteraction.LPGestureTimer

/-!
# The events of gestures on the Mac

What `LPGesture` posts on the Mac is read by other programs, which see a stream of events and not
the calls. `Posting.Next` is the protocol of this stream: gestures do not overlap; the movements of
one carry the phases began, changed and ended in this order; each scroll is posted twice, as a
gesture event and as a wheel event with the same distance and phase; and wheel events with a
momentum phase come only after the end of a scroll and before anything else, began, changed and
ended in this order.

Every sequence of operations posts a stream that obeys the protocol, and the members tell how far it
has come (`run_posts`). Of the arithmetic it is only assumed that a distance of zero counts as slow,
for `begin` ends a momentum by scrolling by nothing.
-/

namespace Touchless

namespace LPGesture

variable {F : Type}

/-- How far the stream of events has come. -/
inductive Posting (F : Type) where
  /-- nothing is open; was the last event that of a scroll? -/
  | idle (afterScroll : Bool)
  /-- after wheel events of a momentum -/
  | momentum
  /-- after `gestureBegan`; has there been a movement? -/
  | opened (subtype : EventType) (begun : Bool)
  /-- after a scroll, whose wheel event is missing -/
  | wheelDue (phase : EventPhase) (px py : F)
  /-- after the last movement of a zoom or a rotation -/
  | released (subtype : EventType)
  /-- after `gestureEnded` of a scroll, whose last scroll is missing -/
  | closing
  /-- after the last scroll, whose wheel event is missing -/
  | lastWheelDue (px py : F)
  /-- after movements of a desktop swipe -/
  | swiping (motion : GestureMotion)

/-- The protocol of the stream. -/
inductive Posting.Next : Posting F → GestureEvent F → Posting F → Prop
  | gestureBegan (afterScroll : Bool) {subtype : EventType}
    (h : subtype = .scroll ∨ subtype = .zoom ∨ subtype = .rotation) :
    Next (.idle afterScroll) (.gestureBegan subtype) (.opened subtype false)
  | zoomBegan (zoom : F) : Next (.opened .zoom false) (.zoom .began zoom) (.opened .zoom true)
  | zoomChanged (zoom : F) : Next (.opened .zoom true) (.zoom .changed zoom) (.opened .zoom true)
  | zoomEnded (zoom : F) : Next (.opened .zoom true) (.zoom .ended zoom) (.released .zoom)
  | rotationBegan (rotation : F) :
    Next (.opened .rotation false) (.rotation .began rotation) (.opened .rotation true)
  | rotationChanged (rotation : F) :
    Next (.opened .rotation true) (.rotation .changed rotation) (.opened .rotation true)
  | rotationEnded (rotation : F) :
    Next (.opened .rotation true) (.rotation .ended rotation) (.released .rotation)
  | gestureEnded (subtype : EventType) :
    Next (.released subtype) (.gestureEnded subtype .none) (.idle false)
  | scrollBegan (px py : F) :
    Next (.opened .scroll false) (.scroll .began px py) (.wheelDue .began px py)
  | scrollChanged (px py : F) :
    Next (.opened .scroll true) (.scroll .changed px py) (.wheelDue .changed px py)
  | scrollWheel (phase : EventPhase) (px py : F) (ilx ily : ℤ) :
    Next (.wheelDue phase px py) (.scrollWheel phase .undefined px py ilx ily)
      (.opened .scroll true)
  | scrollReleased (begun : Bool) :
    Next (.opened .scroll begun) (.gestureEnded .scroll .none) .closing
  | scrollEnded (px py : F) : Next .closing (.scroll .ended px py) (.lastWheelDue px py)
  | lastScrollWheel (px py : F) (ilx ily : ℤ) :
    Next (.lastWheelDue px py) (.scrollWheel .ended .undefined px py ilx ily) (.idle true)
  | momentumBegan (px py : F) (ilx ily : ℤ) :
    Next (.idle true) (.scrollWheel .undefined .began px py ilx ily) .momentum
  | momentumChanged (px py : F) (ilx ily : ℤ) :
    Next .momentum (.scrollWheel .undefined .changed px py ilx ily) .momentum
  | momentumEnded (px py : F) (ilx ily : ℤ) :
    Next .momentum (.scrollWheel .undefined .ended px py ilx ily) (.idle false)
  | swipeBegan (afterScroll : Bool) (motion : GestureMotion) (swipe : SwipeMask)
    (distance dx dy : F) :
    Next (.idle afterScroll) (.dockSwipe .began motion swipe distance dx dy) (.swiping motion)
  | swipeChanged (motion : GestureMotion) (swipe : SwipeMask) (distance dx dy : F) :
    Next (.swiping motion) (.dockSwipe .changed motion swipe distance dx dy) (.swiping motion)
  | swipeEnded (motion : GestureMotion) {phase : EventPhase}
    (h : phase = .ended ∨ phase = .cancelled) (distance : F) :
    Next (.swiping motion) (.dockSwipeEnded phase motion distance) (.idle false)
  /-- a desktop swipe that has not moved -/
  | swipeAbandoned (afterScroll : Bool) (motion : GestureMotion) {phase : EventPhase}
    (h : phase = .ended ∨ phase = .cancelled) (distance : F) :
    Next (.idle afterScroll) (.dockSwipeEnded phase motion distance) (.idle false)

/-- The motion of a desktop swipe of a type. -/
def motionOf (type : GestureType) : GestureMotion :=
  if type = .desktopSwipeVertical then .verticalY else .horizontalX

/-- What the members say of the stream. -/
inductive Control.Stands : Control → Posting F → Prop
  | closed (timer afterScroll : Bool) : Stands ⟨.none, .undefined, .undefined, timer⟩
      (.idle afterScroll)
  /-- a momentum that has not scrolled -/
  | coasting (timer : Bool) : Stands ⟨.none, .undefined, .began, timer⟩ (.idle true)
  | momentum (timer : Bool) : Stands ⟨.none, .undefined, .changed, timer⟩ .momentum
  | scrollBegan (timer : Bool) : Stands ⟨.scroll, .began, .undefined, timer⟩ (.opened .scroll false)
  | scrolling (timer : Bool) : Stands ⟨.scroll, .changed, .undefined, timer⟩ (.opened .scroll true)
  | zooming (timer : Bool) : Stands ⟨.zoom, .changed, .undefined, timer⟩ (.opened .zoom true)
  | rotating (timer : Bool) : Stands ⟨.rotate, .changed, .undefined, timer⟩
      (.opened .rotation true)
  /-- a desktop swipe that has not moved -/
  | swipeBegan {type : GestureType} (h : type.isDesktopSwipe = true) (timer afterScroll : Bool) :
      Stands ⟨type, .began, .undefined, timer⟩ (.idle afterScroll)
  | swiping {type : GestureType} (h : type.isDesktopSwipe = true) (timer : Bool) :
      Stands ⟨type, .changed, .undefined, timer⟩ (.swiping (motionOf type))

namespace Control.Stands

variable {c : Control} {p : Posting F}

/-- What the timer does is no part of it. -/
theorem timer (h : c.Stands p) (timer : Bool) :
    { c with momentumTimer := timer }.Stands p := by
  cases h with
  | closed _ afterScroll => exact .closed timer afterScroll
  | coasting => exact .coasting timer
  | momentum => exact .momentum timer
  | scrollBegan => exact .scrollBegan timer
  | scrolling => exact .scrolling timer
  | zooming => exact .zooming timer
  | rotating => exact .rotating timer
  | swipeBegan hswipe _ afterScroll => exact .swipeBegan hswipe timer afterScroll
  | swiping hswipe => exact .swiping hswipe timer

/-- Closed and without a momentum, the stream is complete. -/
theorem idle (h : c.Stands p) (htype : c.type = .none) (hmomentum : c.momentumPhase = .undefined) :
    ∃ afterScroll, p = .idle afterScroll := by
  cases h with
  | closed timer afterScroll => exact ⟨afterScroll, rfl⟩
  | coasting => exact ⟨true, rfl⟩
  | momentum => cases hmomentum
  | swipeBegan hswipe timer afterScroll => exact ⟨afterScroll, rfl⟩
  | swiping hswipe =>
    obtain rfl : _ = GestureType.none := htype
    cases hswipe
  | _ => cases htype

end Control.Stands

section Operations

variable {g g' : LPGesture F}

/-- The operation adds to the stream what the protocol allows. -/
def Posts (g g' : LPGesture F) : Prop :=
  Walk.Grows Posting.Next events (fun g p ↦ g.control.Stands p) g g'

theorem Posts.refl (g : LPGesture F) : g.Posts g := Walk.Grows.refl g

/-- It is enough to look at where the members say that the stream stands. -/
theorem posts_intro (h : ∀ c p, g.control = c → c.Stands p →
    ∃ events p', g'.events = g.events ++ events ∧ Walk Posting.Next p events p' ∧
      g'.control.Stands p') : g.Posts g' :=
  fun p hstands ↦ h g.control p rfl hstands

/-- The members, read off the control members. -/
theorem of_control {type : GestureType} {phase : EventPhase} {momentumPhase : MomentumPhase}
    {timer : Bool} (h : g.control = ⟨type, phase, momentumPhase, timer⟩) :
    g.type = type ∧ g.phase = phase ∧ g.momentumPhase = momentumPhase :=
  ⟨congrArg Control.type h, congrArg Control.phase h, congrArg Control.momentumPhase h⟩

variable [Arithmetic F] [Rounding F]

/-! ### Scrolls -/

omit [Rounding F] in
theorem events_prepareScroll (dx dy : F) (timeDiff : ℤ) :
    (g.prepareScroll dx dy timeDiff).1.events = g.events := by
  simp only [prepareScroll, decayMomentum, recordMomentum]
  split_ifs <;> rfl

/-- The events of a scroll by whole pixels and lines. -/
def scrollEvents (phase : EventPhase) (momentumPhase : MomentumPhase) (px py : F) (ilx ily : ℤ) :
    List (GestureEvent F) :=
  (if phase = .undefined then [] else [.scroll phase px py]) ++
    [.scrollWheel phase momentumPhase px py ilx ily]

theorem events_scrollBy (g : LPGesture F) (px py lx ly : F) (timeDiff : ℤ) :
    (g.scrollBy .mac px py lx ly timeDiff).events =
      g.events ++ scrollEvents g.phase g.momentumPhase
        (g.takeWhole .mac px py lx ly timeDiff).2.1.x
        (g.takeWhole .mac px py lx ly timeDiff).2.1.y
        (g.takeWhole .mac px py lx ly timeDiff).2.2.x
        (g.takeWhole .mac px py lx ly timeDiff).2.2.y := by
  have hadvance : ∀ g : LPGesture F, g.advancePhases.events = g.events := by
    intro g
    rw [advancePhases]
    split_ifs <;> rfl
  rw [scrollBy_eq, hadvance, scrollEvents]
  simp only [postScroll]
  by_cases hphase : g.phase = .undefined
  · have hphase' : (g.takeWhole .mac px py lx ly timeDiff).1.phase = .undefined := hphase
    rw [if_neg (not_not_intro hphase'), if_pos hphase]
    rfl
  · have hphase' : (g.takeWhole .mac px py lx ly timeDiff).1.phase ≠ .undefined := hphase
    rw [if_pos hphase', if_neg hphase, post, post, List.append_assoc]
    rfl

/-- **What a scroll posts**, once it has been prepared. -/
theorem events_applyScroll (hscrolls : g.type = .scroll ∨ g.momentumPhase ≠ .undefined)
    (dx dy : F) (timeDiff : ℤ) : ∃ px py ilx ily,
    (g.applyScroll .mac dx dy timeDiff).1.events =
      g.events ++ if (g.prepareScroll dx dy timeDiff).2 then
        scrollEvents (g.prepareScroll dx dy timeDiff).1.control.phase
          (g.prepareScroll dx dy timeDiff).1.control.momentumPhase px py ilx ily else [] := by
  rw [applyScroll_eq, if_pos hscrolls]
  cases hgoesOn : (g.prepareScroll dx dy timeDiff).2 with
  | false =>
    refine ⟨lit 0, lit 0, 0, 0, ?_⟩
    rw [if_neg Bool.false_ne_true, if_neg Bool.false_ne_true, List.append_nil]
    exact events_prepareScroll dx dy timeDiff
  | true =>
    have hby := events_scrollBy (g.prepareScroll dx dy timeDiff).1 (dx * pixelsPerMillimeter F)
      (dy * pixelsPerMillimeter F) (dx * pixelsPerMillimeter F / g.horizontalPixelsPerLine)
      (dy * pixelsPerMillimeter F / g.verticalPixelsPerLine) timeDiff
    rw [events_prepareScroll] at hby
    exact ⟨_, _, _, _, hby⟩

/-- A scroll without a scrolling gesture or a momentum does nothing. -/
theorem applyScroll_refused (htype : g.type ≠ .scroll) (hmomentum : g.momentumPhase = .undefined)
    (dx dy : F) (timeDiff : ℤ) : g.applyScroll .mac dx dy timeDiff = (g, false) := by
  rw [applyScroll_eq, if_neg (not_or.2 ⟨htype, not_not_intro hmomentum⟩)]

omit [Rounding F] in
/-- Without a momentum, preparing a scroll leaves the phases alone. -/
theorem control_prepareScroll (hmomentum : g.momentumPhase = .undefined) (dx dy : F)
    (timeDiff : ℤ) : (g.prepareScroll dx dy timeDiff).1.control = g.control := by
  rw [prepareScroll, if_neg (not_not_intro hmomentum)]
  split_ifs
  · exact control_recordMomentum dx dy timeDiff
  · rfl

/-- **A scroll with a momentum** goes on with it or ends it. -/
theorem posts_applyScroll_momentum {c : Control} {p : Posting F} (hstands : c.Stands p)
    (hcontrol : g.control = c) (hmomentum : c.momentumPhase ≠ .undefined) (dx dy : F)
    (timeDiff : ℤ) :
    ∃ events p', (g.applyScroll .mac dx dy timeDiff).1.events = g.events ++ events ∧
      Walk Posting.Next p events p' ∧ (g.applyScroll .mac dx dy timeDiff).1.control.Stands p' ∧
      (isSlow dx dy = true →
        (g.applyScroll .mac dx dy timeDiff).1.control.momentumPhase = .undefined) := by
  have hmomentum' : g.momentumPhase ≠ .undefined := by
    rwa [show g.momentumPhase = c.momentumPhase from congrArg Control.momentumPhase hcontrol]
  obtain ⟨px, py, ilx, ily, hevents⟩ := events_applyScroll (.inr hmomentum') dx dy timeDiff
  obtain ⟨-, hafter⟩ := applyScroll_inertia .mac (.inr hmomentum') dx dy timeDiff
  rw [hevents, hafter]
  cases hslow : isSlow dx dy with
  | true =>
    obtain ⟨-, hgoesOn, hprepared⟩ := prepareScroll_slow hmomentum' hslow timeDiff
    cases hstands with
    | coasting timer =>
      obtain ⟨-, hphase, hbegan⟩ := of_control hcontrol
      rw [hgoesOn, hprepared, if_pos hbegan, hbegan, hphase, hcontrol]
      exact ⟨[], .idle true, rfl, .nil _, .closed timer true, fun _ ↦ rfl⟩
    | momentum timer =>
      obtain ⟨-, -, hchanged⟩ := of_control hcontrol
      rw [hgoesOn, hprepared, hchanged, hcontrol]
      exact ⟨_, .idle false, rfl, .single (.momentumEnded px py ilx ily), .closed false false,
        fun _ ↦ rfl⟩
    | _ => exact absurd rfl hmomentum
  | false =>
    obtain ⟨-, hgoesOn, hprepared⟩ := prepareScroll_decays hmomentum' hslow timeDiff
    rw [hgoesOn, hprepared, hcontrol]
    cases hstands with
    | coasting timer =>
      exact ⟨_, .momentum, rfl, .single (.momentumBegan px py ilx ily), .momentum timer, nofun⟩
    | momentum timer =>
      exact ⟨_, .momentum, rfl, .single (.momentumChanged px py ilx ily), .momentum timer, nofun⟩
    | _ => exact absurd rfl hmomentum

/-- **A scroll** posts its two events, if it is not too small. -/
theorem posts_applyScroll (dx dy : F) (timeDiff : ℤ) :
    g.Posts (g.applyScroll .mac dx dy timeDiff).1 := by
  refine posts_intro fun c p hcontrol hstands ↦ ?_
  by_cases hmomentum : c.momentumPhase = .undefined
  · have hmomentum' : g.momentumPhase = .undefined := by
      rwa [show g.momentumPhase = c.momentumPhase from congrArg Control.momentumPhase hcontrol]
    by_cases htype : g.type = .scroll
    · obtain ⟨px, py, ilx, ily, hevents⟩ := events_applyScroll (.inl htype) dx dy timeDiff
      obtain ⟨-, hafter⟩ := applyScroll_inertia .mac (.inl htype) dx dy timeDiff
      rw [control_prepareScroll hmomentum', hcontrol] at hevents hafter
      rw [hevents, hafter]
      cases (g.prepareScroll dx dy timeDiff).2 with
      | false => exact ⟨[], p, rfl, .nil p, hstands⟩
      | true =>
        have hscroll : c.type = .scroll := by
          rw [← hcontrol]
          exact htype
        cases hstands with
        | scrollBegan timer =>
          exact ⟨_, _, rfl, .pair (.scrollBegan px py) (.scrollWheel _ px py ilx ily),
            .scrolling timer⟩
        | scrolling timer =>
          exact ⟨_, _, rfl, .pair (.scrollChanged px py) (.scrollWheel _ px py ilx ily),
            .scrolling timer⟩
        | swipeBegan hswipe | swiping hswipe =>
          obtain rfl : _ = GestureType.scroll := hscroll
          cases hswipe
        | _ => cases hscroll
    · rw [applyScroll_refused htype hmomentum']
      exact ⟨[], p, (List.append_nil _).symm, .nil p, hcontrol ▸ hstands⟩
  · obtain ⟨events, p', hevents, hwalk, hstands', -⟩ :=
      posts_applyScroll_momentum hstands hcontrol hmomentum dx dy timeDiff
    exact ⟨events, p', hevents, hwalk, hstands'⟩

theorem posts_applyMomentum : g.Posts (g.applyMomentum .mac) := by
  rw [applyMomentum]
  split_ifs
  · exact posts_applyScroll _ _ _
  · exact .refl g

/-! ### Zooms, rotations and swipes -/

omit [Arithmetic F] [Rounding F] in
theorem events_changePhase : g.changePhase.events = g.events := by
  rw [changePhase]
  split_ifs <;> rfl

omit [Arithmetic F] [Rounding F] in
theorem events_applyZoom (htype : g.type = .zoom) (zoom : F) :
    (g.applyZoom .mac zoom).1.events = g.events ++ [.zoom g.phase zoom] := by
  rw [applyZoom, if_pos htype, events_changePhase, postMac, if_pos rfl, post]

omit [Arithmetic F] [Rounding F] in
theorem events_applyRotation (htype : g.type = .rotate) (rotation : F) :
    (g.applyRotation .mac rotation).1.events = g.events ++ [.rotation g.phase rotation] := by
  rw [applyRotation, if_pos htype, events_changePhase, postMac, if_pos rfl, post]

omit [Rounding F] in
theorem events_applyDesktopSwipe (htype : g.type.isDesktopSwipe = true) (dx dy : F) :
    ∃ swipe distance dx' dy', (g.applyDesktopSwipe .mac dx dy).1.events =
      g.events ++ [.dockSwipe g.phase (motionOf g.type) swipe distance dx' dy'] := by
  rw [applyDesktopSwipe, if_pos htype, if_pos rfl, events_changePhase]
  exact ⟨_, _, _, _, rfl⟩

omit [Arithmetic F] [Rounding F] in
/-- A zoom that is open has begun when it was opened. -/
theorem posts_applyZoom (zoom : F) : g.Posts (g.applyZoom .mac zoom).1 := by
  by_cases htype : g.type = .zoom
  · refine posts_intro fun c p hcontrol hstands ↦ ?_
    rw [events_applyZoom htype, control_applyZoom, if_pos htype, hcontrol,
      show g.phase = c.phase from congrArg Control.phase hcontrol]
    have hzoom : c.type = .zoom := by
      rw [← hcontrol]
      exact htype
    cases hstands with
    | zooming timer => exact ⟨_, _, rfl, .single (.zoomChanged zoom), .zooming timer⟩
    | swipeBegan hswipe | swiping hswipe =>
      obtain rfl : _ = GestureType.zoom := hzoom
      cases hswipe
    | _ => cases hzoom
  · rw [applyZoom, if_neg htype]
    exact .refl g

omit [Arithmetic F] [Rounding F] in
theorem posts_applyRotation (rotation : F) : g.Posts (g.applyRotation .mac rotation).1 := by
  by_cases htype : g.type = .rotate
  · refine posts_intro fun c p hcontrol hstands ↦ ?_
    rw [events_applyRotation htype, control_applyRotation, if_pos htype, hcontrol,
      show g.phase = c.phase from congrArg Control.phase hcontrol]
    have hrotate : c.type = .rotate := by
      rw [← hcontrol]
      exact htype
    cases hstands with
    | rotating timer => exact ⟨_, _, rfl, .single (.rotationChanged rotation), .rotating timer⟩
    | swipeBegan hswipe | swiping hswipe =>
      obtain rfl : _ = GestureType.rotate := hrotate
      cases hswipe
    | _ => cases hrotate
  · rw [applyRotation, if_neg htype]
    exact .refl g

omit [Rounding F] in
theorem posts_applyDesktopSwipe (dx dy : F) : g.Posts (g.applyDesktopSwipe .mac dx dy).1 := by
  by_cases htype : g.type.isDesktopSwipe = true
  · obtain ⟨swipe, distance, dx', dy', hevents⟩ := events_applyDesktopSwipe htype dx dy
    refine posts_intro fun c p hcontrol hstands ↦ ?_
    rw [hevents, control_applyDesktopSwipe, if_pos htype, hcontrol,
      show g.phase = c.phase from congrArg Control.phase hcontrol,
      show g.type = c.type from congrArg Control.type hcontrol]
    have hswipe : c.type.isDesktopSwipe = true := by
      rw [← hcontrol]
      exact htype
    cases hstands with
    | swipeBegan _ timer afterScroll =>
      exact ⟨_, _, rfl, .single (.swipeBegan afterScroll _ swipe distance dx' dy'),
        .swiping hswipe timer⟩
    | swiping _ timer =>
      exact ⟨_, _, rfl, .single (.swipeChanged _ swipe distance dx' dy'), .swiping hswipe timer⟩
    | _ => cases hswipe
  · rw [applyDesktopSwipe, if_neg htype]
    exact .refl g

/-! ### Beginning and ending -/

/-- The members `begin` has set, and what it posts then. -/
def opening (g : LPGesture F) (gestureType : GestureType) : LPGesture F :=
  let g := g.restart .mac gestureType
  let g := if gestureType.isDesktopSwipe then g
    else g.postMac .mac (.gestureBegan gestureType.eventType)
  g.applyNothing .mac

omit [Rounding F] in
theorem opening_stands (g : LPGesture F) {gestureType : GestureType} (h : gestureType ≠ .none)
    (afterScroll : Bool) :
    ∃ events p', (g.opening gestureType).events = g.events ++ events ∧
      Walk Posting.Next (.idle afterScroll) events p' ∧
      (g.opening gestureType).control.Stands p' := by
  cases gestureType with
  | none => exact absurd rfl h
  | scroll =>
    exact ⟨_, _, rfl, .single (.gestureBegan afterScroll (.inl rfl)), .scrollBegan g.momentumTimer⟩
  | zoom =>
    refine ⟨[.gestureBegan .zoom, .zoom .began (lit 0)], _, ?_,
      .pair (.gestureBegan afterScroll (.inr (.inl rfl))) (.zoomBegan (lit 0)),
      .zooming g.momentumTimer⟩
    exact List.append_assoc g.events _ _
  | rotate =>
    refine ⟨[.gestureBegan .rotation, .rotation .began (lit 0)], _, ?_,
      .pair (.gestureBegan afterScroll (.inr (.inr rfl))) (.rotationBegan (lit 0)),
      .rotating g.momentumTimer⟩
    exact List.append_assoc g.events _ _
  | desktopSwipeHorizontal =>
    exact ⟨[], _, (List.append_nil _).symm, .nil _, .swipeBegan rfl g.momentumTimer afterScroll⟩
  | desktopSwipeVertical =>
    exact ⟨[], _, (List.append_nil _).symm, .nil _, .swipeBegan rfl g.momentumTimer afterScroll⟩

/-- **`begin`** ends a momentum, so that what it opens begins after a complete stream. -/
theorem posts_beginGesture (hzero : isSlow (lit 0 : F) (lit 0) = true) (number : ℕ) :
    g.Posts (g.beginGesture .mac number).1 := by
  by_cases hopens : g.type = .none ∧ GestureType.ofNumber number ≠ .none
  · refine posts_intro fun c p hcontrol hstands ↦ ?_
    have htype : c.type = .none := by
      rw [← hcontrol]
      exact hopens.1
    have hopens' : g.type = .none ∧ (GestureType.ofNumber number).eventType ≠ .null :=
      ⟨hopens.1, by simpa using hopens.2⟩
    simp only [beginGesture, if_pos hopens']
    generalize hstopped : ite (g.momentumPhase ≠ .undefined) _ g = stopped
    have hidle : ∃ events afterScroll, stopped.events = g.events ++ events ∧
        Walk Posting.Next p events (.idle afterScroll) := by
      by_cases hmomentum : c.momentumPhase = .undefined
      · obtain ⟨afterScroll, rfl⟩ := hstands.idle htype hmomentum
        refine ⟨[], afterScroll, ?_, .nil _⟩
        rw [← hstopped, if_neg (not_not_intro (by rw [← hmomentum, ← hcontrol]; rfl)),
          List.append_nil]
      · have hstopping : ({ g with momentumTimer := false } : LPGesture F).control =
            { c with momentumTimer := false } := by
          rw [← hcontrol]
          rfl
        obtain ⟨events, p', hevents, hwalk, hstands', hslow⟩ := posts_applyScroll_momentum
          (hstands.timer false) hstopping hmomentum (lit 0) (lit 0) 0
        have htype' : ({ g with momentumTimer := false }.applyScroll .mac (lit 0) (lit 0)
            0).1.control.type = .none := (continues_applyScroll _ _ _).type.trans hopens.1
        obtain ⟨afterScroll, rfl⟩ := hstands'.idle htype' (hslow hzero)
        refine ⟨events, afterScroll, ?_, hwalk⟩
        rw [← hstopped, if_pos (by
          rw [show g.momentumPhase = c.momentumPhase from congrArg Control.momentumPhase hcontrol]
          exact hmomentum)]
        exact hevents
    obtain ⟨events, afterScroll, hevents, hwalk⟩ := hidle
    obtain ⟨events', p', hevents', hwalk', hstands'⟩ :=
      stopped.opening_stands hopens.2 afterScroll
    refine ⟨events ++ events', p', ?_, hwalk.append hwalk', hstands'⟩
    rw [← List.append_assoc, ← hevents]
    exact hevents'
  · rw [beginGesture_refused (by rwa [not_and_or, not_not] at hopens)]
    exact .refl g

omit [Rounding F] in
theorem events_endingScroll (htype : g.type = .scroll) :
    (g.endingScroll .mac).events = g.events ++ [.gestureEnded .scroll .none] := by
  have hnothing : ({ g with phase := .ended } : LPGesture F).applyNothing .mac =
      { g with phase := .ended } := by
    rw [applyNothing, if_neg (by simp [htype]), if_neg (by simp [htype])]
  rw [endingScroll, hnothing, if_pos rfl, endMac,
    if_neg (by simp [GestureType.isDesktopSwipe, htype])]
  show g.events ++ [.gestureEnded g.type.eventType .none] = _
  rw [htype]
  rfl

/-- The momentum starts without posting anything. -/
theorem events_startMomentum : (g.startMomentum .mac).events =
    ({ g with momentumTimer := false }.applyScroll .mac (lit 0) (lit 0) 0).1.events := by
  simp only [startMomentum]
  split_ifs <;> rfl

theorem events_endGesture_scroll (hsettled : g.control.Settled) (htype : g.type = .scroll) :
    (g.endGesture .mac).1.events =
      ((g.endingScroll .mac).applyScroll .mac (lit 0) (lit 0) 0).1.events := by
  have hopen : g.type ≠ .none ∧ (g.phase = .began ∨ g.phase = .changed) := by
    have hne : g.type ≠ .none := by simp [htype]
    exact ⟨hne, (hsettled.opened hne).1⟩
  have hcontrol := (endingScroll_inertia .mac htype).2
  simp only [endGesture, if_pos hopen, if_true]
  generalize hended : endMac (F := F) _ = ended
  have hending : g.endingScroll .mac = { ended with momentumTimer := false } := by
    rw [← hended]
    rfl
  rw [hending] at hcontrol ⊢
  have hscroll : ended.type = .scroll := congrArg Control.type hcontrol
  rw [if_pos hscroll]
  exact events_startMomentum

/-- **The end of a scroll** posts the last scroll after `gestureEnded`. -/
theorem posts_endGesture_scroll (hsettled : g.control.Settled) (htype : g.type = .scroll) :
    g.Posts (g.endGesture .mac).1 := by
  refine posts_intro fun c p hcontrol hstands ↦ ?_
  obtain ⟨-, hmomentum⟩ := hsettled.opened (by
    rw [show g.control.type = .scroll from htype]
    decide)
  -- the scroll by nothing at the end goes on without being prepared
  have hending : (g.endingScroll .mac).control = ⟨.scroll, .ended, .undefined, false⟩ := by
    rw [(endingScroll_inertia .mac htype).2, show g.momentumPhase = .undefined from hmomentum]
  obtain ⟨hscroll, hended, hnone⟩ := of_control hending
  have hprepare : (g.endingScroll .mac).prepareScroll (lit 0) (lit 0) 0 =
      (g.endingScroll .mac, true) := by
    rw [prepareScroll, if_neg (not_not_intro hnone), if_neg (not_not_intro hended)]
  obtain ⟨px, py, ilx, ily, hevents⟩ := events_applyScroll (.inl hscroll) (lit 0) (lit 0) 0
  rw [hprepare, if_pos rfl, hending, events_endingScroll htype, List.append_assoc,
    ← events_endGesture_scroll hsettled htype] at hevents
  have hclosed : (g.endGesture .mac).1.control.Stands (.idle true : Posting F) := by
    rw [(endGesture_inertia .mac hsettled htype).1]
    split_ifs
    · exact .coasting true
    · exact .closed false true
  suffices hfirst : Walk Posting.Next p [GestureEvent.gestureEnded .scroll .none] .closing from
    ⟨_, _, hevents, hfirst.append (.pair (.scrollEnded px py) (.lastScrollWheel px py ilx ily)),
      hclosed⟩
  have hscroll' : c.type = .scroll := by
    rw [← hcontrol]
    exact htype
  cases hstands with
  | scrollBegan => exact .single (.scrollReleased false)
  | scrolling => exact .single (.scrollReleased true)
  | swipeBegan hswipe | swiping hswipe =>
    obtain rfl : _ = GestureType.scroll := hscroll'
    cases hswipe
  | _ => cases hscroll'

/-- **The end of another gesture** posts something, and nothing is left. -/
theorem endGesture_other (hsettled : g.control.Settled) (htype : g.type ≠ .none)
    (hscroll : g.type ≠ .scroll) :
    (g.endGesture .mac).1.events =
        (({ g with phase := .ended } : LPGesture F).applyNothing .mac).endMac.events ∧
      ∃ timer, (g.endGesture .mac).1.control = ⟨.none, .undefined, .undefined, timer⟩ := by
  obtain ⟨hphase, hmomentum⟩ := hsettled.opened htype
  have hopen : g.type ≠ .none ∧ (g.phase = .began ∨ g.phase = .changed) := ⟨htype, hphase⟩
  obtain ⟨hsame, -⟩ := applyNothing_timer .mac (g := { g with phase := .ended })
  have htype' : ({ g with phase := .ended }.applyNothing .mac).type = g.type :=
    (continues_applyNothing (g := { g with phase := .ended })).type
  simp only [endGesture, if_pos hopen, if_true]
  generalize LPGesture.applyNothing (F := F) _ _ = posted at *
  obtain ⟨hendType, hendPhase, -⟩ := posted.endMac_timer
  rw [if_neg (by rwa [hendType, htype'])]
  refine ⟨rfl, posted.endMac.momentumTimer, ?_⟩
  have hnone : posted.endMac.momentumPhase = .undefined :=
    hendPhase.trans (hsame.trans hmomentum)
  rw [← hnone]
  rfl

omit [Rounding F] in
/-- What a zoom or a rotation posts at its end, -/
theorem events_endMac_released (htype : g.type = .zoom ∨ g.type = .rotate) :
    (({ g with phase := .ended } : LPGesture F).applyNothing .mac).endMac.events =
      g.events ++ [if g.type = .zoom then .zoom .ended (lit 0) else .rotation .ended (lit 0),
        .gestureEnded g.type.eventType .none] := by
  have hkeeps : (({ g with phase := .ended } : LPGesture F).applyNothing .mac).type = g.type :=
    (continues_applyNothing (g := { g with phase := .ended })).type
  have hevents : (({ g with phase := .ended } : LPGesture F).applyNothing .mac).events =
      g.events ++ [if g.type = .zoom then .zoom .ended (lit 0) else .rotation .ended (lit 0)] := by
    rw [applyNothing]
    rcases htype with hzoom | hrotate
    · rw [if_pos hzoom, if_pos hzoom]
      exact events_applyZoom (g := { g with phase := .ended }) hzoom (lit 0)
    · have hzoom : g.type ≠ .zoom := by simp [hrotate]
      rw [if_neg hzoom, if_pos hrotate, if_neg hzoom]
      exact events_applyRotation (g := { g with phase := .ended }) hrotate (lit 0)
  rw [endMac, if_neg (by rw [hkeeps]; rcases htype with h | h <;> rw [h] <;> decide), post, hkeeps,
    hevents, List.append_assoc]
  rfl

omit [Rounding F] in
/-- and a desktop swipe. -/
theorem events_endMac_swipe (hswipe : g.type.isDesktopSwipe = true) :
    ∃ phase distance, (phase = .ended ∨ phase = .cancelled) ∧
      (({ g with phase := .ended } : LPGesture F).applyNothing .mac).endMac.events =
        g.events ++ [.dockSwipeEnded phase (motionOf g.type) distance] := by
  have hother : g.type ≠ .zoom ∧ g.type ≠ .rotate := by
    constructor <;> intro h <;> rw [h] at hswipe <;> cases hswipe
  rw [applyNothing, if_neg hother.1, if_neg hother.2, endMac, if_pos hswipe]
  dsimp only
  split_ifs
  · exact ⟨_, _, .inr rfl, rfl⟩
  · exact ⟨_, _, .inl rfl, rfl⟩

/-- **`end`** completes the stream of the gesture. -/
theorem posts_endGesture (hsettled : g.control.Settled) : g.Posts (g.endGesture .mac).1 := by
  by_cases htype : g.type = .none
  · rw [endGesture_refused htype]
    exact .refl g
  by_cases hscroll : g.type = .scroll
  · exact posts_endGesture_scroll hsettled hscroll
  obtain ⟨hevents, timer, hclosed⟩ := endGesture_other hsettled htype hscroll
  refine posts_intro fun c p hcontrol hstands ↦ ?_
  rw [hevents, hclosed]
  obtain ⟨htype', -, -⟩ : g.type = c.type ∧ _ ∧ _ := of_control hcontrol
  cases hstands with
  | zooming =>
    rw [events_endMac_released (.inl htype'), if_pos htype', htype']
    exact ⟨_, _, rfl, .pair (.zoomEnded _) (.gestureEnded .zoom), .closed timer false⟩
  | rotating =>
    rw [events_endMac_released (.inr htype'), if_neg (by simp [htype']), htype']
    exact ⟨_, _, rfl, .pair (.rotationEnded _) (.gestureEnded .rotation), .closed timer false⟩
  | @swipeBegan type hswipe _ afterScroll =>
    have hswipe' : g.type.isDesktopSwipe = true := by rwa [show g.type = type from htype']
    obtain ⟨phase, distance, hphase, hevents'⟩ := events_endMac_swipe hswipe'
    exact ⟨_, _, hevents', .single (.swipeAbandoned afterScroll _ hphase distance),
      .closed timer false⟩
  | @swiping type hswipe =>
    obtain rfl : g.type = type := htype'
    obtain ⟨phase, distance, hphase, hevents'⟩ := events_endMac_swipe hswipe
    exact ⟨_, _, hevents', .single (.swipeEnded _ hphase distance), .closed timer false⟩
  | scrollBegan | scrolling => exact absurd htype' hscroll
  | _ => exact absurd htype' htype

/-! ### Sequences of operations -/

/-- **Every operation** posts what the protocol allows. -/
theorem posts_exec (hzero : isSlow (lit 0 : F) (lit 0) = true) (hsettled : g.control.Settled)
    (operation : Operation F) : g.Posts (g.exec .mac operation) := by
  cases operation with
  | beginGesture number => exact posts_beginGesture hzero number
  | endGesture => exact posts_endGesture hsettled
  | applyZoom zoom => exact posts_applyZoom zoom
  | applyRotation rotation => exact posts_applyRotation rotation
  | applyDesktopSwipe dx dy => exact posts_applyDesktopSwipe dx dy
  | applyScroll dx dy timeDiff => exact posts_applyScroll dx dy timeDiff
  | applyMomentum => exact posts_applyMomentum

/-- **On the Mac**, every sequence of operations posts a stream of events that obeys the protocol,
and the members say how far it has come: once no gesture is open and no momentum goes on, every
gesture, movement and momentum of the stream has ended. -/
theorem run_posts (hzero : isSlow (lit 0 : F) (lit 0) = true)
    (memory : Vector (GesturePoint F) 11) (operations : List (Operation F)) :
    let g := (construct memory).run .mac operations
    ∃ p, Walk Posting.Next (.idle false) g.events p ∧ g.control.Stands p ∧
      (g.type = .none → g.momentumPhase = .undefined → ∃ afterScroll, p = .idle afterScroll) := by
  have hsettled : ∀ {g : LPGesture F}, g.control.Settled → ∀ operation : Operation F,
      (g.exec .mac operation).control.Settled := settled_exec
  have hgrows : (construct memory).Posts ((construct memory).run .mac operations) :=
    Walk.Grows.foldl hsettled (posts_exec hzero) operations (settled_construct memory)
  obtain ⟨p, hwalk, hstands⟩ := hgrows.walk ⟨_, .nil _, .closed false false⟩
  exact ⟨p, hwalk, hstands, fun htype hmomentum ↦ hstands.idle htype hmomentum⟩

/-- A zoom is begun during the momentum of a scroll, which it ends. -/
theorem run_posts_interrupted :
    letI : Arithmetic ℚ := rationalArithmetic id
    letI : Rounding ℚ := rationalRounding
    let g : LPGesture ℚ := (construct (.replicate 11 .zero)).run .mac
      [.beginGesture GestureType.scroll.number, .applyScroll 0 1 8000, .endGesture, .applyMomentum,
        .beginGesture GestureType.zoom.number]
    g.events.length = 10 ∧ g.momentumPhase = .undefined ∧
      ∃ p, Walk Posting.Next (.idle false) g.events p ∧ g.control.Stands p ∧
        (g.type = .none → g.momentumPhase = .undefined → ∃ afterScroll, p = .idle afterScroll) := by
  let : Arithmetic ℚ := rationalArithmetic id
  let : Rounding ℚ := rationalRounding
  exact ⟨by decide +kernel, by decide +kernel,
    run_posts (by decide +kernel) (.replicate 11 .zero) _⟩

end Operations

end LPGesture

end Touchless
