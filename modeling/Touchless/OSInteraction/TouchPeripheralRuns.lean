import Touchless.OSInteraction.TouchPeripheral

/-!
# What the touch peripheral reports

In a frame of the touch peripheral the loop over the pointables adds touch points to an event, which
is sent at the end of the frame. A pointable becomes a touch point where it passes five tests, two
of them in the helper of the base class (`isTouchPoint`), and of several with one id the first one
counts, since the event is a set.

Over a whole run there is one event for each frame, in their order, and the event of a frame has the
touch points of that frame and no others, whatever came before (`run_touchEvents`).
-/

namespace Touchless

namespace TouchEvent

variable {F : Type}

theorem find?_insertNew (event : TouchEvent F) (touch : Touch F) (id : ℕ) :
    (event.insertNew touch).find? id =
      (event.find? id).or (if touch.id = id then some touch else none) := by
  rw [insertNew]
  split_ifs with hthere hid hid
  · subst hid
    obtain ⟨old, hold⟩ := Option.isSome_iff_exists.1 hthere
    rw [hold, Option.some_or]
  · rw [Option.or_none]
  · subst hid
    rw [OrderedMap.find?_insert_self, Option.not_isSome_iff_eq_none.1 hthere, Option.none_or]
  · rw [OrderedMap.find?_insert_of_ne _ (Ne.symm hid), Option.or_none]

/-- **Of several touches with one id**, the first that is inserted counts. -/
theorem find?_foldl_insertNew (touches : List (Touch F)) (event : TouchEvent F) (id : ℕ) :
    (touches.foldl insertNew event).find? id =
      (event.find? id).or (touches.find? fun touch ↦ touch.id = id) := by
  induction touches generalizing event with
  | nil => rw [List.foldl_nil, List.find?_nil, Option.or_none]
  | cons touch touches ih =>
    rw [List.foldl_cons, ih, find?_insertNew, Option.or_assoc, List.find?_cons]
    by_cases hid : touch.id = id
    · rw [if_pos hid, decide_eq_true hid, Option.some_or]
    · rw [if_neg hid, decide_eq_false hid, Option.none_or]

end TouchEvent

/-- The touch events among the calls. -/
def OSCall.touchEvents {F : Type} (calls : List (OSCall F)) : List (TouchEvent F) :=
  calls.filterMap fun
    | emitTouchEvent event => some event
    | _ => none

namespace TouchPeripheral

variable {leap : Leap}

section Frame

variable (env : Environment leap) (v : FrameState leap)

/-- The tests of the loop: the id, the zone, and the distance from the screen. -/
def isClose (p : leap.Pointable) : Prop :=
  leap.pointableId p ≥ 0 ∧ leap.touchZone p ≠ .none ∧
    Arithmetic.le (env.normalizedToAspect
      (v.normalizePoint (leap.stabilizedTipPosition p) false)).clampVec.magnitude
        env.acceptableClampDistance = true

instance (p : leap.Pointable) : Decidable (isClose env v p) := inferInstanceAs (Decidable (_ ∧ _))

/-- The tests of the base class: the pointable is valid, and its position has not been clamped. -/
def isOnScreen (p : leap.Pointable) : Prop :=
  leap.pointableIsValid p = true ∧
    Arithmetic.eq (env.normalizedToScreen
      (v.normalizePoint (leap.stabilizedTipPosition p) true)).clampVec.magnitudeSquared
        (lit 0) = true

instance (p : leap.Pointable) : Decidable (isOnScreen env v p) :=
  inferInstanceAs (Decidable (_ ∧ _))

/-- The tests that a pointable passes on its way into the event. -/
def isTouchPoint (p : leap.Pointable) : Bool := decide (isClose env v p ∧ isOnScreen env v p)

/-- The touch point of a pointable. -/
def touchOf (p : leap.Pointable) : Touch leap.Scalar :=
  let screen := env.normalizedToScreen (v.normalizePoint (leap.stabilizedTipPosition p) true)
  ⟨Manager.toUInt32 (leap.pointableId p), Manager.toUInt32 (leap.pointableFrameId p),
    screen.output.x, screen.output.y, leap.touchZone p = .touching⟩

/-- The touch points of a frame, in the order of the pointables. -/
def touchPoints : List (Touch leap.Scalar) :=
  (v.relevantPointables.filter (isTouchPoint env v)).map (touchOf env v)

variable {env v}

theorem touchEvent_charms (aspectNormalized : Vector3 leap.Scalar) (p : leap.Pointable)
    (m : TouchPeripheral leap) :
    (charms env v aspectNormalized p m).touchEvent = m.touchEvent := by
  rw [charms]
  split_ifs <;> rfl

theorem touchEvents_charms (aspectNormalized : Vector3 leap.Scalar) (p : leap.Pointable)
    (m : TouchPeripheral leap) :
    OSCall.touchEvents (charms env v aspectNormalized p m).osCalls =
      OSCall.touchEvents m.osCalls := by
  rw [charms]
  split_ifs
  · show OSCall.touchEvents (m.osCalls ++ [.applyCharms _ _ _]) = OSCall.touchEvents m.osCalls
    simp [OSCall.touchEvents]
  · rfl
  · rfl

theorem touchEvent_addTouchPointForPointable (m : Manager leap) (p : leap.Pointable) :
    (m.addTouchPointForPointable env v (leap.pointableId p) p (leap.touchZone p = .touching)
      false).touchEvent =
      if isOnScreen env v p then m.touchEvent.insertNew (touchOf env v p) else m.touchEvent := by
  rw [Manager.addTouchPointForPointable]
  by_cases hvalid : leap.pointableIsValid p = true
  · rw [if_pos hvalid]
    simp only [Bool.false_eq_true, if_false, Manager.addTouchPoint, isOnScreen, hvalid, true_and]
    split_ifs <;> rfl
  · rw [if_neg hvalid, if_neg fun h : isOnScreen env v p ↦ hvalid h.1]

/-- **One turn of the loop** adds the touch point of its pointable, if it has one. -/
theorem touchEvent_visitPointable (m : TouchPeripheral leap) (p : leap.Pointable) :
    (visitPointable env v m p).touchEvent =
      if isTouchPoint env v p then m.touchEvent.insertNew (touchOf env v p) else m.touchEvent := by
  simp only [visitPointable, isTouchPoint, decide_eq_true_eq]
  by_cases hclose : isClose env v p
  · have htests := hclose
    rw [isClose] at htests
    rw [if_pos htests]
    show (Manager.addTouchPointForPointable env v _ _ _ _ _).touchEvent = _
    rw [touchEvent_addTouchPointForPointable, touchEvent_charms]
    exact if_congr (iff_of_eq (by simp only [hclose, true_and])) rfl rfl
  · have htests := hclose
    rw [isClose] at htests
    rw [if_neg htests, if_neg fun h ↦ hclose h.1]

/-- Until the end of the frame nothing is reported. -/
theorem touchEvents_visitPointable (m : TouchPeripheral leap) (p : leap.Pointable) :
    OSCall.touchEvents (visitPointable env v m p).osCalls = OSCall.touchEvents m.osCalls := by
  simp only [visitPointable]
  split_ifs
  · rw [Manager.osCalls_addTouchPointForPointable]
    exact touchEvents_charms _ p m
  · rfl

/-- **The loop** adds the touch points of the frame. -/
theorem touchEvent_loop (pointables : List leap.Pointable) (m : TouchPeripheral leap) :
    (pointables.foldl (visitPointable env v) m).touchEvent =
      ((pointables.filter (isTouchPoint env v)).map (touchOf env v)).foldl TouchEvent.insertNew
        m.touchEvent := by
  induction pointables generalizing m with
  | nil => rfl
  | cons p pointables ih =>
    rw [List.foldl_cons, ih, touchEvent_visitPointable]
    by_cases htouch : isTouchPoint env v p = true
    · rw [if_pos htouch, List.filter_cons_of_pos htouch, List.map_cons, List.foldl_cons]
    · rw [if_neg htouch, List.filter_cons_of_neg htouch]

theorem touchEvents_loop (pointables : List leap.Pointable) (m : TouchPeripheral leap) :
    OSCall.touchEvents (pointables.foldl (visitPointable env v) m).osCalls =
      OSCall.touchEvents m.osCalls := by
  induction pointables generalizing m with
  | nil => rfl
  | cons p pointables ih => rw [List.foldl_cons, ih, touchEvents_visitPointable]

/-- **A frame** reports its touch points in one event, and nothing waits afterwards. -/
theorem processFrameInternal_touches (htouch : env.touchAvailable = true)
    (m : TouchPeripheral leap) (hempty : m.touchEvent = OrderedMap.empty) :
    (processFrameInternal env v m).touchEvent = OrderedMap.empty ∧
      OSCall.touchEvents (processFrameInternal env v m).osCalls =
        OSCall.touchEvents m.osCalls ++
          [(touchPoints env v).foldl TouchEvent.insertNew OrderedMap.empty] := by
  obtain ⟨n, hn, hcalls, hevent⟩ : ∃ n : TouchPeripheral leap,
      n = (if v.relevantPointables.isEmpty then { m with charmsMode := -1 } else m) ∧
      n.osCalls = m.osCalls ∧ n.touchEvent = m.touchEvent := by
    refine ⟨_, rfl, ?_, ?_⟩ <;> split_ifs <;> rfl
  rw [processFrameInternal, if_pos htouch, ← hn]
  refine ⟨rfl, ?_⟩
  show OSCall.touchEvents ((v.relevantPointables.foldl (visitPointable env v) n).osCalls ++
    [.emitTouchEvent (v.relevantPointables.foldl (visitPointable env v) n).touchEvent]) = _
  rw [OSCall.touchEvents, List.filterMap_append, ← OSCall.touchEvents, touchEvents_loop, hcalls,
    touchEvent_loop, hevent, hempty]
  rfl

end Frame

/-! ### Runs -/

/-- A sequence of frames, each with the one before it. -/
def run (env : Environment leap) (o : Object leap) (frames : List (leap.Frame × leap.Frame)) :
    Object leap :=
  frames.foldl (fun o frame ↦ processFrame env o frame.1 frame.2) o

/-- What the base class makes of each frame. -/
def frameStates (v : FrameState leap) : List (leap.Frame × leap.Frame) → List (FrameState leap)
  | [] => []
  | frame :: frames =>
    let shown := v.processFrame (overrides leap) frame.1 frame.2
    shown :: frameStates shown frames

/-- The event has exactly the touch points of the frame, the first one of each id. -/
def Reports (env : Environment leap) (v : FrameState leap) (event : TouchEvent leap.Scalar) :
    Prop :=
  ∀ id, event.find? id = (touchPoints env v).find? fun touch ↦ touch.id = id

theorem reports_foldl (env : Environment leap) (v : FrameState leap) :
    Reports env v ((touchPoints env v).foldl TouchEvent.insertNew OrderedMap.empty) := by
  intro id
  rw [TouchEvent.find?_foldl_insertNew, OrderedMap.find?_empty, Option.none_or]

/-- From any object with an empty event. -/
theorem run_reports {env : Environment leap} (htouch : env.touchAvailable = true)
    (frames : List (leap.Frame × leap.Frame)) (o : Object leap)
    (hempty : o.members.touchEvent = OrderedMap.empty) :
    (run env o frames).members.touchEvent = OrderedMap.empty ∧
      ∃ events, OSCall.touchEvents (run env o frames).members.osCalls =
          OSCall.touchEvents o.members.osCalls ++ events ∧
        List.Forall₂ (Reports env) (frameStates o.frame frames) events := by
  induction frames generalizing o with
  | nil => exact ⟨hempty, [], (List.append_nil _).symm, .nil⟩
  | cons frame frames ih =>
    obtain ⟨hempty', hcalls⟩ := processFrameInternal_touches htouch
      (v := o.frame.processFrame (overrides leap) frame.1 frame.2) o.members hempty
    obtain ⟨hrest, events, hevents, hreports⟩ :=
      ih (processFrame env o frame.1 frame.2) hempty'
    refine ⟨hrest, _ :: events, ?_, .cons (reports_foldl env _) hreports⟩
    rw [run, List.foldl_cons, ← run, hevents, processFrame, hcalls, List.append_assoc,
      List.singleton_append]

/-- Without touch nothing is sent. -/
theorem run_of_not_touchAvailable {env : Environment leap} (htouch : env.touchAvailable = false)
    (frames : List (leap.Frame × leap.Frame)) (o : Object leap) :
    (run env o frames).members = o.members := by
  induction frames generalizing o with
  | nil => rfl
  | cons frame frames ih =>
    rw [run, List.foldl_cons, ← run, ih, processFrame, processFrameInternal]
    simp [htouch]

/-- **The events of a run.** Where there is touch, a run of the touch peripheral sends one event for
each frame, in the order of the frames, and the event of a frame has exactly the touch points of
that frame. Without touch it sends nothing. -/
theorem run_touchEvents (env : Environment leap) (frames : List (leap.Frame × leap.Frame)) :
    (env.touchAvailable = true →
      List.Forall₂ (Reports env) (frameStates (.construct leap) frames)
        (OSCall.touchEvents (run env (.construct leap) frames).members.osCalls)) ∧
      (env.touchAvailable = false → (run env (.construct leap) frames).members.osCalls = []) := by
  constructor
  · intro htouch
    obtain ⟨-, events, hevents, hreports⟩ := run_reports htouch frames (.construct leap) rfl
    rw [hevents]
    exact hreports
  · intro htouch
    rw [run_of_not_touchAvailable htouch]
    rfl

/-- A screen with touch. -/
def touchEnvironment : Environment fingerLeap :=
  { Environment.plain fingerLeap with touchAvailable := true }

/-- A finger touches for a frame, and is gone in the next one. -/
theorem run_touchEvents_finger :
    let frames := [(fingerFrame 1 1, fingerFrame 0 1), (fingerFrame 2 0, fingerFrame 1 1)]
    let events := OSCall.touchEvents (run touchEnvironment (.construct fingerLeap)
      frames).members.osCalls
    List.Forall₂ (Reports touchEnvironment) (frameStates (.construct fingerLeap) frames) events ∧
      events.map (·.keys) = [[0], []] := by
  intro frames events
  exact ⟨(run_touchEvents touchEnvironment frames).1 rfl, by decide +kernel⟩

end TouchPeripheral

end Touchless
