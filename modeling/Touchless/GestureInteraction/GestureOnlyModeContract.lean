import Touchless.GestureInteraction.GestureOnlyMode

/-!
# What gesture-only mode sends and where it goes

The contract of the states of `GestureOnlyMode`, which never press the button: which gesture a state
owns. Only the swipes of three and more fingers request a transition when they are entered, for the
cooldown, which is entered at rest; so every transition loop ends after two turns. Losing the focus
always leads back to the recognition of gestures.
-/

namespace Touchless

namespace GestureOnlyMode

open State

variable {leap : Leap}

/-- Nothing has been sent that concerns the button or a gesture. -/
def Quiet (m n : GestureOnlyMode leap) : Prop :=
  ∀ start : DriverStatus, start.track n.osCalls = start.track m.osCalls

section

variable {env : Environment leap} {v : FrameState leap} {m n : GestureOnlyMode leap}
  {start : DriverStatus} {p : Option State} {s t : State}

theorem Quiet.refl (m : GestureOnlyMode leap) : Quiet m m := fun _ ↦ rfl

/-! ### The contract -/

/-- The gesture that a state owns. -/
def owned : State → Option GestureType
  | twoFingersScrolling => some .scroll
  | threePlusFingersSwipeVertical => some .desktopSwipeVertical
  | threePlusFingersSwipeHorizontal | palmSwipe => some .desktopSwipeHorizontal
  | _ => none

/-- In a state, whatever request is pending. -/
def Inside (start : DriverStatus) (s : State) (_ : Option State) (m : GestureOnlyMode leap) :
    Prop :=
  start.track m.osCalls = some ⟨false, owned s⟩

/-- Between two states. -/
def Between (start : DriverStatus) (_ : State) (m : GestureOnlyMode leap) : Prop :=
  start.track m.osCalls = some ⟨false, none⟩

theorem Inside.quiet (h : Inside start s none m) (hq : Quiet m n) : Inside start s p n :=
  (hq start).trans h

theorem Between.quiet (h : Between start t m) (hq : Quiet m n) : Between start t n :=
  (hq start).trans h

theorem Between.inside (h : Between start t m) (hfree : owned t = none) : Inside start t p m := by
  rw [Inside, hfree, h]

theorem Inside.between (h : Inside start s p m) (hfree : owned s = none) : Between start t m := by
  rw [Between, ← hfree, h]

/-- A call that belongs to the gesture of the state. -/
theorem Inside.emit (h : Inside start s none m) (call : OSCall leap.Scalar)
    (hcall : DriverStatus.step ⟨false, owned s⟩ call = some ⟨false, owned s⟩) :
    Inside start s p (m.emit call) := by
  show start.track (m.osCalls ++ [call]) = some ⟨false, owned s⟩
  rw [DriverStatus.track_concat, h, Option.bind_some, hcall]

/-- Entering a state that owns a gesture. -/
theorem Between.beginGesture {g : GestureType} (h : Between start t m) (hg : owned t = some g) :
    Inside start t p (m.emit (.beginGesture g)) := by
  show start.track (m.osCalls ++ [.beginGesture g]) = some ⟨false, owned t⟩
  rw [DriverStatus.track_concat, h, Option.bind_some, DriverStatus.step_beginGesture, hg]

/-- Leaving it. -/
theorem Inside.endGesture {g : GestureType} (h : Inside start s p m) (hg : owned s = some g) :
    Between start t (m.emit .endGesture) := by
  show start.track (m.osCalls ++ [.endGesture]) = some ⟨false, none⟩
  rw [DriverStatus.track_concat, h, hg, Option.bind_some, DriverStatus.step_endGesture]

/-- A desktop swipe is applied in a state that owns one. -/
theorem Inside.swipe (h : Inside start s none m)
    (hs : owned s = some .desktopSwipeVertical ∨ owned s = some .desktopSwipeHorizontal)
    (currentFrame sinceFrame : leap.Frame) :
    Inside start s p (generateDesktopSwipeBetweenFrames currentFrame sinceFrame m) := by
  refine h.emit _ ?_
  rcases hs with hs | hs <;> rw [hs]
  · exact DriverStatus.step_applyDesktopSwipe_vertical _ _ _
  · exact DriverStatus.step_applyDesktopSwipe_horizontal _ _ _

/-! ### Frames -/

/-- The recognition of gestures only clears members, whatever its input. -/
theorem quiet_stateGestureRecognition (input : StateMachineInput Input) :
    Quiet m (stateGestureRecognition v input m).owner := by
  simp only [stateGestureRecognition]
  split
  · exact fun _ ↦ rfl
  · split <;> exact fun _ ↦ rfl

theorem quiet_cooldownFrame : Quiet m (cooldownFrame v m).owner := by
  rw [cooldownFrame]
  split_ifs <;> exact .refl m

theorem quiet_twoFingersHoveringFrame : Quiet m (twoFingersHoveringFrame v m).owner := by
  intro start
  simp only [twoFingersHoveringFrame]
  split_ifs <;> simp [base]

theorem quiet_moveCursor : Quiet m (moveCursor env v m) := by
  intro start
  simp only [moveCursor]
  split_ifs <;> simp [base]

theorem Inside.swipeFrame (h : Inside start s none m)
    (hs : owned s = some .desktopSwipeVertical ∨ owned s = some .desktopSwipeHorizontal) :
    Inside start s p (swipeFrame v m).owner := by
  rw [GestureOnlyMode.swipeFrame]
  split
  · exact h.swipe hs _ _
  · exact h

theorem Inside.scrollingFrame (h : Inside start twoFingersScrolling none m) :
    Inside start twoFingersScrolling p (scrollingFrame v m).owner := by
  have hscrolled : Inside start twoFingersScrolling none
      (generateScrollBetweenFrames v.currentFrame v.sinceFrame
        (m.base (·.refreshFavoritePointableId v))) := by
    have hrefresh : Quiet m (m.base (·.refreshFavoritePointableId v)) := fun _ ↦ by simp [base]
    exact (h.quiet hrefresh).emit _ (DriverStatus.step_applyScroll _ _ _ _)
  simp only [GestureOnlyMode.scrollingFrame]
  split_ifs <;> exact hscrolled

theorem Inside.palmSwipe (h : Inside start palmSwipe p m) :
    Inside start State.palmSwipe p (applyPalmSwipe v m) := by
  rw [applyPalmSwipe]
  split
  · exact Inside.swipe h (.inr rfl) _ _
  · exact h

theorem contract_input (s : State) (i : Input) (m : GestureOnlyMode leap)
    (h : Inside start s none m) :
    Inside start s (netRequest (handlers env v s (.user i) m).requests)
      (handlers env v s (.user i) m).owner := by
  cases s with
  | gestureRecognition => exact h.quiet (quiet_stateGestureRecognition _)
  | cooldown =>
    cases i with
    | processFrame => exact h.quiet quiet_cooldownFrame
    | _ => exact h
  | twoFingersHovering =>
    cases i with
    | processFrame => exact h.quiet quiet_twoFingersHoveringFrame
    | _ => exact h
  | twoFingersScrolling =>
    cases i with
    | processFrame => exact h.scrollingFrame
    | _ => exact h
  | threePlusFingersSwipeVertical =>
    cases i with
    | processFrame => exact h.swipeFrame (.inl rfl)
    | _ => exact h
  | threePlusFingersSwipeHorizontal =>
    cases i with
    | processFrame => exact h.swipeFrame (.inr rfl)
    | _ => exact h
  | palmSwipe => cases i <;> exact h

theorem contract_exit (s t : State) (m : GestureOnlyMode leap) (h : Inside start s p m) :
    Between start t (handlers env v s .exit m).owner := by
  cases s with
  | gestureRecognition =>
    exact Between.quiet (Inside.between h rfl) (quiet_stateGestureRecognition _)
  | cooldown => exact Inside.between h rfl
  | twoFingersHovering => exact Inside.between h rfl
  | twoFingersScrolling => exact Inside.endGesture h rfl
  | threePlusFingersSwipeVertical => exact Inside.endGesture h rfl
  | threePlusFingersSwipeHorizontal => exact Inside.endGesture h rfl
  | palmSwipe => exact Inside.endGesture (Inside.palmSwipe h) rfl

theorem contract_enter (t : State) (m : GestureOnlyMode leap) (h : Between start t m) :
    Inside start t p (handlers env v t .enter m).owner := by
  cases t with
  | gestureRecognition => exact (h.quiet (quiet_stateGestureRecognition _)).inside rfl
  | cooldown =>
    have hstart : Quiet m { m with cooldownStartTime := v.now } := fun _ ↦ rfl
    exact ((h.quiet hstart).quiet quiet_cooldownFrame).inside rfl
  | twoFingersHovering =>
    have hreset : Quiet m (m.base fun b ↦
        (b.resetFavoritePointableId v).refreshFavoritePointableId v) := fun _ ↦ by simp [base]
    exact Between.inside (p := p) (h.quiet hreset) rfl
  | twoFingersScrolling =>
    have hscrolled : Quiet m { m with justScrolled := true } := fun _ ↦ rfl
    exact ((h.quiet hscrolled).quiet quiet_moveCursor).beginGesture rfl
  | threePlusFingersSwipeVertical => exact (h.beginGesture rfl).swipeFrame (.inl rfl)
  | threePlusFingersSwipeHorizontal => exact (h.beginGesture rfl).swipeFrame (.inr rfl)
  | palmSwipe => exact h.beginGesture rfl

theorem neverTransitionsOnExit : StateMachine.NeverTransitionsOnExit (handlers env v) := by
  intro s m
  cases s with
  | gestureRecognition =>
    simp only [handlers, stateGestureRecognition]
    split <;> rfl
  | _ => rfl

/-- **The contract of the states.** -/
theorem contract (env : Environment leap) (start : DriverStatus) :
    ModeObject.Contract (handlers env) (Inside start) (Between start)
      fun m ↦ start.track m.osCalls = some ⟨false, none⟩ := fun v ↦
  { neverTransitionsOnExit := neverTransitionsOnExit
    input := contract_input
    exit := fun s t m h ↦ contract_exit s t m h
    enter := fun t m h ↦ contract_enter t m h
    final := fun s m h ↦
      have hfinal : Between start gestureRecognition (handlers env v s .exit m).owner :=
        contract_exit s gestureRecognition m h
      hfinal }

/-! ### Whole runs -/

variable {fuel : ℕ} {o o' : Object leap}

/-- The contract at the level of the object. -/
def Kept (start : DriverStatus) (o : Object leap) : Prop :=
  o.machine.Kept (Inside start) (Between start) gestureRecognition

theorem kept_construct (memory : GestureOnlyMode leap) : Kept .idle (Object.construct memory) :=
  StateMachine.Kept.construct rfl

theorem quiet_refreshForTouch : Quiet m (refreshForTouch v m) := by
  rw [refreshForTouch]
  split_ifs
  · exact fun _ ↦ by simp [base]
  · exact .refl m

/-- The steps of a frame: the count, the initialization, and up to three inputs. -/
theorem processFrame_some {frame sinceFrame : leap.Frame}
    (h : processFrame env fuel o frame sinceFrame = some o') :
    ∃ o₀ o₁ o₂ o₃ : Object leap,
      o₀ = ⟨o.frame.processFrame (overrides leap) frame sinceFrame, o.machine⟩ ∧
      (o₀.mapOwner (addCategory o₀.frame)).ensureInitialized
        (handlers env) fuel gestureRecognition =
        some o₁ ∧
      o₁.runInput (handlers env) fuel (countInput o₁.machine.owner) = some o₂ ∧
      (o₂.mapOwner (refreshForTouch o₂.frame)).runInput (handlers env) fuel
        (touchInput o₂.frame (refreshForTouch o₂.frame o₂.machine.owner)) = some o₃ ∧
      o₃.runCurrentState (handlers env) fuel .processFrame = some o' := by
  simp only [processFrame, processFrameInternal, Option.bind_eq_bind, Option.bind_eq_some_iff] at h
  obtain ⟨o₁, hinit, o₂, hcount, o₃, htouch, hframe⟩ := h
  exact ⟨_, o₁, o₂, o₃, rfl, hinit, hcount, htouch, hframe⟩

/-- Frames keep the contract, -/
theorem Kept.processFrame {frame sinceFrame : leap.Frame} (h : Kept start o)
    (hrun : processFrame env fuel o frame sinceFrame = some o') : o'.Holds (Inside start) := by
  obtain ⟨o₀, o₁, o₂, o₃, rfl, hinit, hcount, htouch, hframe⟩ := processFrame_some hrun
  have hcounted : Kept start (ModeObject.mapOwner
      ⟨o.frame.processFrame (overrides leap) frame sinceFrame, o.machine⟩
      (addCategory (o.frame.processFrame (overrides leap) frame sinceFrame))) :=
    ModeObject.kept_mapOwner h (fun _ h ↦ h) fun _ _ h ↦ h
  have h₁ := (contract env start).ensureInitialized hcounted hinit
  have h₂ := (contract env start).runInput h₁ hcount
  have h₃ := (contract env start).runInput
    (h₂.mapOwner fun s m h ↦ Inside.quiet h quiet_refreshForTouch) htouch
  have hkept : Kept start o₃ := h₃.kept
  exact (contract env start).runCurrentState hkept hframe

/-- focus losses do, -/
theorem Kept.stopActiveEvents (h : Kept start o)
    (hrun : stopActiveEvents env fuel o = some o') : o'.Holds (Inside start) :=
  (contract env start).runCurrentState h hrun

/-- and the destructor releases everything. -/
theorem Kept.destruct (h : Kept start o) (hrun : destruct env fuel o = some o') :
    start.track o'.machine.owner.osCalls = some ⟨false, none⟩ :=
  (contract env start).shutdown h (fun _ hm ↦ hm) hrun

/-! ### Termination -/

/-- How many transitions may follow the entry of a state. -/
def rank : State → ℕ
  | threePlusFingersSwipeVertical | threePlusFingersSwipeHorizontal => 1
  | _ => 0

/-- A cooldown takes longer than the frame in which it starts. -/
theorem cooldownFrame_start (h : m.cooldownStartTime = v.now) :
    (cooldownFrame v m).requests = [] := by
  have hnow : ¬v.now - m.cooldownStartTime ≥ 500 * MILLISECONDS := by simp [h, MILLISECONDS]
  rw [cooldownFrame, if_neg hnow]
  rfl

/-- A swipe leads to the cooldown. -/
theorem swipeFrame_request (h : netRequest (swipeFrame v m).requests = some t) : t = cooldown := by
  rw [swipeFrame] at h
  split at h
  · exact (Option.some.inj h).symm
  · cases h

theorem gestureRecognition_request {input : StateMachineInput Input}
    (h : input = .enter ∨ input = .user .lostFocus ∨ input = .user .processFrame) :
    (stateGestureRecognition v input m).requests = [] := by
  simp only [stateGestureRecognition]
  split
  · rfl
  · rcases h with rfl | rfl | rfl <;> rfl

/-- **Entering a state lowers the rank** of the state that is requested. -/
theorem lowers_rank (env : Environment leap) (v : FrameState leap) :
    StateMachine.Lowers (handlers env v) rank := by
  intro t m u h
  cases t with
  | gestureRecognition =>
    simp only [handlers, gestureRecognition_request (.inl rfl)] at h
    cases h
  | cooldown =>
    have hnone : (handlers env v cooldown .enter m).requests = [] := cooldownFrame_start rfl
    rw [hnone] at h
    cases h
  | threePlusFingersSwipeVertical =>
    obtain rfl := swipeFrame_request h
    exact Nat.zero_lt_one
  | threePlusFingersSwipeHorizontal =>
    obtain rfl := swipeFrame_request h
    exact Nat.zero_lt_one
  | _ => cases h

theorem terminates (env : Environment leap) (hfuel : 1 < fuel) :
    ModeObject.Terminates (handlers env) fuel where
  neverTransitionsOnExit _ := neverTransitionsOnExit
  lowers v := ⟨rank, lowers_rank env v, fun s ↦ by cases s <;> simp only [rank] <;> omega⟩

/-! ### Losing the focus -/

/-- The recognition of gestures is never left when it is entered. -/
theorem gate (env : Environment leap) :
    ModeObject.Gate (handlers env) gestureRecognition .lostFocus fun _ ↦ false where
  neverTransitionsOnExit _ := neverTransitionsOnExit
  enter v m := by simp [handlers, gestureRecognition_request (.inl rfl)]
  stays v m := by simp [handlers, gestureRecognition_request (.inr (.inl rfl))]
  leaves v s m hs := by
    cases s with
    | gestureRecognition => exact absurd rfl hs
    | _ => rfl

/-- In the recognition of gestures nothing is held. -/
theorem Kept.atRest (h : Kept .idle o) (hcur : o.machine.currentState = some gestureRecognition) :
    o.AtRest (·.osCalls) gestureRecognition :=
  ⟨hcur, (h.inside _ hcur).2⟩

/-- **Losing the focus** always ends in the recognition of gestures. -/
theorem lostFocus_atRest (hkept : Kept .idle o)
    (hrun : stopActiveEvents env fuel o = some o') :
    o'.AtRest (·.osCalls) gestureRecognition :=
  Kept.atRest (hkept.stopActiveEvents hrun).kept
    (((gate env).lostFocus_iff (fun _ ↦ rfl) hrun).2 rfl)

/-! ### Frames and focus losses return -/

theorem processFrame_returns (env : Environment leap) (hfuel : 1 < fuel) (hkept : Kept start o)
    (frame sinceFrame : leap.Frame) :
    ∃ o', processFrame env fuel o frame sinceFrame = some o' ∧ o'.Holds (Inside start) := by
  have hterminates := terminates env hfuel
  set v := o.frame.processFrame (overrides leap) frame sinceFrame with hv
  have hcounted : Kept start (ModeObject.mapOwner ⟨v, o.machine⟩ (addCategory v)) :=
    ModeObject.kept_mapOwner hkept (fun _ h ↦ h) fun _ _ h ↦ h
  obtain ⟨o₁, hinit⟩ := hterminates.ensureInitialized
    (ModeObject.mapOwner ⟨v, o.machine⟩ (addCategory v)) gestureRecognition
  have h₁ := (contract env start).ensureInitialized hcounted hinit
  obtain ⟨o₂, hcount⟩ := hterminates.runInput h₁.started (countInput o₁.machine.owner)
  have h₂ := ((contract env start).runInput h₁ hcount).mapOwner
    fun s m h ↦ Inside.quiet h (quiet_refreshForTouch (v := o₂.frame))
  obtain ⟨o₃, htouch⟩ := hterminates.runInput h₂.started
    (touchInput o₂.frame (refreshForTouch o₂.frame o₂.machine.owner))
  have h₃ := (contract env start).runInput h₂ htouch
  obtain ⟨o', hframe⟩ := hterminates.runCurrentState h₃.started .processFrame
  have hprocess : processFrame env fuel o frame sinceFrame = some o' := by
    simp only [processFrame, processFrameInternal, ← hv, hinit, hcount, Option.bind_eq_bind,
      Option.bind_some]
    exact (congrArg (Option.bind · _) htouch).trans hframe
  exact ⟨o', hprocess, hkept.processFrame hprocess⟩

theorem stopActiveEvents_returns (env : Environment leap) (hfuel : 1 < fuel)
    (hholds : o.Holds (Inside start)) :
    ∃ o', stopActiveEvents env fuel o = some o' ∧ o'.Holds (Inside start) := by
  obtain ⟨o', hrun⟩ := (terminates env hfuel).runCurrentState hholds.started Input.lostFocus
  exact ⟨o', hrun, Kept.stopActiveEvents hholds.kept hrun⟩

theorem destruct_returns (env : Environment leap) (fuel : ℕ) (o : Object leap) :
    ∃ o', destruct env fuel o = some o' :=
  ModeObject.shutdown_returns (fun _ ↦ neverTransitionsOnExit) fuel o

end

end GestureOnlyMode

end Touchless
