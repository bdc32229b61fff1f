import Touchless.GestureInteraction.BasicModeContract

/-!
# Where basic mode goes

Which states the handlers of `BasicMode` request. Entering a state lowers a rank (`lowers_rank`), so
every transition loop ends. Losing the focus leads to the no-interaction state exactly where the
last frame has nothing to interact with (`lostFocus_atRest_iff`), and so does a frame without
pointables (`emptyFrame_atRest`), whose conditions every state tests in its own way.
-/

namespace Touchless

namespace BasicMode

open State

variable {leap : Leap}

section

variable {env : Environment leap} {settings : Settings leap.Scalar} {v : FrameState leap}
  {m : BasicMode leap} {start : DriverStatus} {p : Option State} {u : State}

/-! ### Termination -/

/-- Does the group of a state change, for the states that test it when they are entered? -/
def leavesGroup (settings : Settings leap.Scalar) (v : FrameState leap) : State → Bool
  | noPointablesNoInteraction => groupChanges settings v (0 < ·)
  | onePointableHovering | onePointableClickCooldown => groupChanges settings v (· ≠ 1)
  | twoPlusPointablesHovering => groupChanges settings v (tooFewForScrolling settings)
  | twoHandsHovering | twoHandsGestureRecognition | twoHandsTouch => !shouldBeInMultiHandMode v
  | palmGestureRecognition => !shouldBeInPalmSwipeMode settings v
  | _ => false

/-- Can a state that is entered request another one of its group? -/
def changesZone (v : FrameState leap) : State → Bool
  | onePointableHovering | twoHandsHovering => v.collectiveZone = .touching
  | onePointableClickCooldown | twoHandsTouch => v.collectiveZone ≠ .touching
  | twoPlusPointablesHovering => true
  | twoHandsGestureRecognition => noLongerTouching v
  | _ => false

/-- How many transitions may follow the entry of a state. -/
def rank (settings : Settings leap.Scalar) (v : FrameState leap) (s : State) : ℕ :=
  if leavesGroup settings v s then 2 else if changesZone v s then 1 else 0

theorem rank_le (settings : Settings leap.Scalar) (v : FrameState leap) (s : State) :
    rank settings v s ≤ 2 := by
  rw [rank]
  split_ifs <;> omega

theorem groupChanges_eq_countIs (hmulti : shouldBeInMultiHandMode v = false)
    (hpalm : shouldBeInPalmSwipeMode settings v = false) (test : ℕ → Bool) :
    groupChanges settings v test = v.countIs test := by
  simp [groupChanges, hmulti, hpalm]

/-- **The dispatch** leads to a state of the present group. -/
theorem leavesGroup_nPointables : leavesGroup settings v (nPointables settings v) = false := by
  rw [nPointables]
  split_ifs with hmulti hpalm hclicking
  · simp [leavesGroup, hmulti]
  · simp [leavesGroup, hpalm]
  all_goals
    rw [Bool.not_eq_true] at hmulti hpalm
    cases hcount : v.filteredPointableCount.filteredCategory with
    | none =>
      simp [leavesGroup, groupChanges_eq_countIs hmulti hpalm, FrameState.countIs_none hcount]
    | some count =>
      match count with
      | 0 | 1 | count + 2 =>
        simp [leavesGroup, groupChanges_eq_countIs hmulti hpalm, FrameState.countIs_some hcount,
          tooFewForScrolling, hclicking]

theorem onePointableHovering_request
    (h : netRequest (onePointableHoveringFrame env settings v m).requests = some u) :
    leavesGroup settings v onePointableHovering = true ∧ u = nPointables settings v ∨
      leavesGroup settings v onePointableHovering = false ∧ v.collectiveZone = .touching ∧
        u = onePointableClickCooldown := by
  simp only [onePointableHoveringFrame] at h
  split_ifs at h with hgroup htouching
  · exact .inl ⟨hgroup, (Option.some.inj h).symm⟩
  · exact .inr ⟨eq_false_of_ne_true hgroup, htouching, (Option.some.inj h).symm⟩
  · exact .inr ⟨eq_false_of_ne_true hgroup, htouching, (Option.some.inj h).symm⟩
  · cases h
  · cases h

theorem twoPlusPointablesHovering_request (hlaw : leap.HandsOfPointablesExist)
    (hreset : m.favoriteHandId = -1)
    (h : netRequest (twoPlusPointablesHoveringFrame env settings v m).requests = some u) :
    leavesGroup settings v twoPlusPointablesHovering = true ∧ u = nPointables settings v ∨
      leavesGroup settings v twoPlusPointablesHovering = false ∧
        u = twoPlusPointablesScrolling := by
  generalize hresult : twoPlusPointablesHoveringFrame env settings v m = result at h
  have hframe : HoveringFrame settings v m result := hresult ▸ hoveringFrame m
  cases hframe with
  | dispatch hgroup => exact .inl ⟨hgroup, (Option.some.inj h).symm⟩
  | lost hgroup hidle hand hinvalid =>
    -- the hand of a pointable is in view
    obtain ⟨id, hpointable, hhand⟩ := hand.2 (by rw [hreset]; decide)
    have hexists := hlaw v.currentFrame id hpointable (hhand ▸ hand.1)
    rw [← hhand, hinvalid] at hexists
    cases hexists
  | scroll hgroup hidle hvalid => exact .inr ⟨hgroup, (Option.some.inj h).symm⟩
  | stay hgroup hidle => cases h

theorem twoHandsHovering_request
    (h : netRequest (twoHandsHoveringFrame env settings v m).requests = some u) :
    leavesGroup settings v twoHandsHovering = true ∧ u = nPointables settings v ∨
      leavesGroup settings v twoHandsHovering = false ∧ v.collectiveZone = .touching ∧
        (u = twoHandsGestureRecognition ∨ u = twoHandsTouch) := by
  rw [twoHandsHoveringFrame] at h
  cases hmulti : multiHand v with
  | none =>
    rw [hmulti] at h
    exact .inl ⟨by simp [leavesGroup, shouldBeInMultiHandMode, hmulti], (Option.some.inj h).symm⟩
  | some ids =>
    have hstays : leavesGroup settings v twoHandsHovering = false := by
      simp [leavesGroup, shouldBeInMultiHandMode, hmulti]
    rw [hmulti] at h
    simp only at h
    split_ifs at h with htouching hmouse hmouse
    · exact .inr ⟨hstays, htouching, .inl (Option.some.inj h).symm⟩
    · exact .inr ⟨hstays, htouching, .inr (Option.some.inj h).symm⟩
    · cases h
    · cases h

/-- The states that a state requests by name, rather than through the dispatch. -/
def others : State → List State
  | noPointablesNoInteraction | twoPlusPointablesScrolling | palmSwipe => []
  | onePointableHovering => [onePointableClickCooldown]
  | onePointableClickCooldown => [onePointableHovering]
  | twoPlusPointablesHovering => [twoPlusPointablesScrolling]
  | twoHandsHovering => [twoHandsGestureRecognition, twoHandsTouch]
  | twoHandsGestureRecognition => [twoHandsHovering, twoHandsRotating, twoHandsZooming]
  | twoHandsRotating | twoHandsZooming | twoHandsTouch => [twoHandsHovering]
  | palmGestureRecognition => [palmSwipe]

/-- Requests of a frame: none, the dispatch, or one of the others. -/
def Expected (settings : Settings leap.Scalar) (v : FrameState leap) (s : State)
    (requests : List (Option State)) : Prop :=
  ∀ u, netRequest requests = some u → u = nPointables settings v ∨ u ∈ others s

theorem expected_none {s : State} : Expected settings v s [] := fun _ h ↦ by cases h

theorem expected_nPointables {s : State} : Expected settings v s [some (nPointables settings v)] :=
  fun _ h ↦ .inl (Option.some.inj h).symm

theorem expected_other {s : State} (h : u ∈ others s) : Expected settings v s [some u] :=
  fun _ hw ↦ .inr (Option.some.inj hw ▸ h)

theorem frame_expected (s : State) (m : BasicMode leap) :
    Expected settings v s (handlers env settings v s (.user .processFrame) m).requests := by
  cases s with
  | noPointablesNoInteraction =>
    simp only [handlers, stateNoPointablesNoInteraction, noPointablesFrame]
    split_ifs
    · exact expected_nPointables
    · exact expected_none
  | onePointableHovering =>
    intro u hu
    rcases onePointableHovering_request hu with ⟨-, rfl⟩ | ⟨-, -, rfl⟩
    · exact .inl rfl
    · exact .inr (by simp [others])
  | onePointableClickCooldown =>
    simp only [handlers, stateOnePointableClickCooldown, clickCooldownFrame]
    split_ifs
    · exact expected_nPointables
    · exact expected_other (by simp [others])
    · exact expected_none
  | twoPlusPointablesHovering =>
    show Expected settings v _ (twoPlusPointablesHoveringFrame env settings v m).requests
    generalize hresult : twoPlusPointablesHoveringFrame env settings v m = result
    have hframe : HoveringFrame settings v m result := hresult ▸ hoveringFrame m
    cases hframe with
    | dispatch hgroup => exact expected_nPointables
    | lost hgroup h hand hinvalid => exact expected_nPointables
    | scroll hgroup h hvalid => exact expected_other (by simp [others])
    | stay hgroup h => exact expected_none
  | twoPlusPointablesScrolling =>
    simp only [handlers, stateTwoPlusPointablesScrolling, scrollingFrame]
    split_ifs
    all_goals first
      | exact expected_nPointables
      | exact expected_none
  | twoHandsHovering =>
    intro u hu
    rcases twoHandsHovering_request hu with ⟨-, rfl⟩ | ⟨-, -, rfl | rfl⟩
    · exact .inl rfl
    · exact .inr (by simp [others])
    · exact .inr (by simp [others])
  | twoHandsGestureRecognition =>
    simp only [handlers, stateTwoHandsGestureRecognition, twoHandsGestureRecognitionFrame]
    split_ifs
    all_goals first
      | exact expected_nPointables
      | exact expected_none
      | exact expected_other (by simp [others])
  | twoHandsRotating | twoHandsZooming =>
    simp only [handlers, stateTwoHandsRotating, stateTwoHandsZooming, twoHandsGestureFrame]
    split_ifs
    · exact expected_nPointables
    · exact expected_other (by simp [others])
    · exact expected_none
  | twoHandsTouch =>
    simp only [handlers, stateTwoHandsTouch, twoHandsTouchFrame]
    split
    · exact expected_nPointables
    · split_ifs
      · exact expected_other (by simp [others])
      · exact expected_none
  | palmGestureRecognition =>
    simp only [handlers, statePalmGestureRecognition, palmGestureRecognitionFrame]
    split_ifs
    · exact expected_other (by simp [others])
    · exact expected_none
    · -- both requests are made, and the last one counts
      exact fun _ h ↦ .inr (Option.some.inj h ▸ by simp [others])
    · exact expected_nPointables
  | palmSwipe =>
    simp only [handlers, statePalmSwipe]
    split_ifs
    · exact expected_none
    · exact expected_nPointables

/-- **What a state requests**, whatever its input. -/
theorem request_cases {s : State} {input : StateMachineInput Input}
    (h : netRequest (handlers env settings v s input m).requests = some u) :
    u = nPointables settings v ∨ u ∈ others s ∨
      input = .user .lostFocus ∧ u = noPointablesNoInteraction := by
  have hframe : ∀ m, Expected settings v s
      (handlers env settings v s (.user .processFrame) m).requests := frame_expected s
  cases input with
  | user i =>
    cases i with
    | processFrame => exact (hframe m u h).imp_right .inl
    | lostFocus =>
      refine .inr (.inr ⟨rfl, ?_⟩)
      cases s with
      | noPointablesNoInteraction => cases h
      | _ => exact (Option.some.inj h).symm
  | exit => rw [neverTransitionsOnExit s m] at h; cases h
  | enter =>
    -- all states but those of a gesture process the frame when they are entered
    cases s with
    | twoPlusPointablesHovering =>
      simp only [handlers, stateTwoPlusPointablesHovering] at h
      split_ifs at h
      · cases h
      · exact (hframe _ u h).imp_right .inl
    | twoPlusPointablesScrolling | twoHandsRotating | twoHandsZooming | palmSwipe => cases h
    | _ => exact (hframe _ u h).imp_right .inl

/-- **What entering a state requests**: the dispatch's state when the group changes, and else at
most a state of the same group that is left at rest. -/
theorem enter_request (hlaw : leap.HandsOfPointablesExist) {t : State}
    (h : netRequest (handlers env settings v t .enter m).requests = some u) :
    leavesGroup settings v t = true ∧ u = nPointables settings v ∨
      leavesGroup settings v t = false ∧ changesZone v t = true ∧
        leavesGroup settings v u = false ∧ changesZone v u = false := by
  cases t with
  | noPointablesNoInteraction =>
    simp only [handlers, stateNoPointablesNoInteraction, noPointablesFrame] at h
    split_ifs at h with hgroup
    · exact .inl ⟨hgroup, (Option.some.inj h).symm⟩
    · cases h
  | onePointableHovering =>
    rcases onePointableHovering_request h with hleaves | ⟨hstays, htouching, rfl⟩
    · exact .inl hleaves
    · exact .inr ⟨hstays, by simp [changesZone, htouching], hstays,
        by simp [changesZone, htouching]⟩
  | onePointableClickCooldown =>
    simp only [handlers, stateOnePointableClickCooldown, clickCooldownFrame] at h
    split_ifs at h with hgroup htouching
    · exact .inl ⟨hgroup, (Option.some.inj h).symm⟩
    · obtain rfl := Option.some.inj h
      have hstays := eq_false_of_ne_true hgroup
      exact .inr ⟨hstays, by simp [changesZone, htouching], hstays,
        by simp [changesZone, htouching]⟩
    · cases h
  | twoPlusPointablesHovering =>
    simp only [handlers, stateTwoPlusPointablesHovering] at h
    split_ifs at h with hnone
    · cases h
    · rcases twoPlusPointablesHovering_request hlaw rfl h with hleaves | ⟨hstays, rfl⟩
      · exact .inl hleaves
      · exact .inr ⟨hstays, rfl, rfl, rfl⟩
  | twoPlusPointablesScrolling => cases h
  | twoHandsHovering =>
    rcases twoHandsHovering_request h with hleaves | ⟨hstays, htouching, hu⟩
    · exact .inl hleaves
    · refine .inr ⟨hstays, by simp [changesZone, htouching], ?_⟩
      rcases hu with rfl | rfl
      · exact ⟨hstays, by simp [changesZone, noLongerTouching, htouching]⟩
      · exact ⟨hstays, by simp [changesZone, htouching]⟩
  | twoHandsGestureRecognition =>
    have hnow : ¬ v.now - leap.timestamp v.currentFrame ≥ 20 * MILLISECONDS := by
      simp [FrameState.now, MILLISECONDS]
    simp only [handlers, stateTwoHandsGestureRecognition, twoHandsGestureRecognitionFrame, hnow,
      false_and, if_false] at h
    split_ifs at h with hmulti htouching
    · exact .inl ⟨by simp [leavesGroup, hmulti], (Option.some.inj h).symm⟩
    · obtain rfl := Option.some.inj h
      have hzone : v.collectiveZone ≠ .touching := by
        simpa using (Bool.and_eq_true_iff.1 htouching).2
      have hstays : leavesGroup settings v twoHandsGestureRecognition = false := by
        simpa [leavesGroup] using hmulti
      exact .inr ⟨hstays, htouching, hstays, by simp [changesZone, hzone]⟩
    · cases h
  | twoHandsRotating => cases h
  | twoHandsZooming => cases h
  | twoHandsTouch =>
    simp only [handlers, stateTwoHandsTouch, twoHandsTouchFrame] at h
    cases hmulti : multiHand v with
    | none =>
      rw [hmulti] at h
      exact .inl ⟨by simp [leavesGroup, shouldBeInMultiHandMode, hmulti], (Option.some.inj h).symm⟩
    | some ids =>
      rw [hmulti] at h
      simp only at h
      split_ifs at h with htouching
      · obtain rfl := Option.some.inj h
        have hstays : leavesGroup settings v twoHandsTouch = false := by
          simp [leavesGroup, shouldBeInMultiHandMode, hmulti]
        exact .inr ⟨hstays, by simp [changesZone, htouching], hstays,
          by simp [changesZone, htouching]⟩
      · cases h
  | palmGestureRecognition =>
    have hnow : ¬ v.now - leap.timestamp v.currentFrame ≥ 100 * MILLISECONDS := by
      simp [FrameState.now, MILLISECONDS]
    simp only [handlers, statePalmGestureRecognition, palmGestureRecognitionFrame, hnow,
      false_and, if_false, List.append_nil] at h
    split_ifs at h with hpalm
    · cases h
    · exact .inl ⟨by simp [leavesGroup, hpalm], (Option.some.inj h).symm⟩
  | palmSwipe => cases h

/-- **Entering a state lowers the rank** of the state that is requested. -/
theorem lowers_rank (env : Environment leap) (settings : Settings leap.Scalar) (v : FrameState leap)
    (hlaw : leap.HandsOfPointablesExist) :
    StateMachine.Lowers (handlers env settings v) (rank settings v) := by
  intro t m u h
  rcases enter_request hlaw h with ⟨hleaves, rfl⟩ | ⟨hstays, hzone, hstays', hzone'⟩
  · simp only [rank, hleaves, leavesGroup_nPointables, Bool.false_eq_true, if_false, if_true]
    split_ifs <;> omega
  · simp [rank, hstays, hzone, hstays', hzone']

theorem terminates (env : Environment leap) (settings : Settings leap.Scalar)
    (hlaw : leap.HandsOfPointablesExist) {fuel : ℕ} (hfuel : 2 < fuel) :
    ModeObject.Terminates (handlers env settings) fuel where
  neverTransitionsOnExit _ := neverTransitionsOnExit
  lowers v := ⟨rank settings v, lowers_rank env settings v hlaw, fun s ↦ by
    have hle := rank_le settings v s
    omega⟩

variable {fuel : ℕ} {o o' : Object leap}

/-! ### Losing the focus -/

/-- Does a frame have something to interact with? -/
def interacts (settings : Settings leap.Scalar) (v : FrameState leap) : Bool :=
  groupChanges settings v (0 < ·)

theorem gate (env : Environment leap) (settings : Settings leap.Scalar) :
    ModeObject.Gate (handlers env settings) noPointablesNoInteraction .lostFocus
      (interacts settings) where
  neverTransitionsOnExit _ := neverTransitionsOnExit
  enter v m := by
    simp only [handlers, stateNoPointablesNoInteraction, noPointablesFrame, interacts]
    split_ifs with hgroup <;> simp [transitionToNPointables, hgroup]
  stays _ _ := rfl
  leaves v s m hs := by
    cases s with
    | noPointablesNoInteraction => exact absurd rfl hs
    | _ => rfl

/-- In the no-interaction state the last frame has nothing to interact with. -/
abbrev Rests (settings : Settings leap.Scalar) (o : Object leap) : Prop :=
  ModeObject.Rests noPointablesNoInteraction (interacts settings) o

theorem rests_construct (settings : Settings leap.Scalar) (memory : BasicMode leap) :
    Rests settings (Object.construct memory) := by
  simp [ModeObject.Rests, Object.construct, StateMachine.construct]

theorem rests_processFrame {frame sinceFrame : leap.Frame}
    (hrun : processFrame env settings fuel o frame sinceFrame = some o') : Rests settings o' := by
  obtain ⟨o₁, o₂, -, hinput, rfl⟩ := processFrame_some hrun
  have hrests : Rests settings o₂ :=
    (gate env settings).rests_runCurrentState (fun v m hguard ↦ by
      simp only [interacts] at hguard
      simp [handlers, stateNoPointablesNoInteraction, noPointablesFrame, hguard,
        transitionToNPointables]) hinput
  intro hcur
  rw [currentState_sendTouches] at hcur
  rw [frame_sendTouches]
  exact hrests hcur

/-- In the no-interaction state nothing is held. -/
theorem Kept.atRest (h : Kept settings .idle o)
    (hcur : o.machine.currentState = some noPointablesNoInteraction) :
    o.AtRest (·.osCalls) noPointablesNoInteraction := by
  have hinside := (h.inside _ hcur).2
  refine ⟨hcur, ?_⟩
  rw [hinside.track, hinside.up (by simp)]
  rfl

/-- **Losing the focus** ends in the no-interaction state exactly where the last frame has nothing
to interact with. -/
theorem lostFocus_atRest_iff (hkept : Kept settings .idle o) (hrests : Rests settings o)
    (hrun : stopActiveEvents env settings fuel o = some o') :
    o'.AtRest (·.osCalls) noPointablesNoInteraction ↔ interacts settings o.frame = false := by
  have hiff := (gate env settings).lostFocus_iff hrests hrun
  exact ⟨fun h ↦ hiff.1 h.state,
    fun hguard ↦ Kept.atRest (hkept.stopActiveEvents hrun).kept (hiff.2 hguard)⟩

/-! ### A frame without pointables -/

/-- A state that is not one of a palm. -/
def IsPalmFree (s : State) : Prop := s ≠ palmGestureRecognition ∧ s ≠ palmSwipe

/-- The dispatch leads to a palm only if there is one. -/
theorem isPalmFree_dispatch (hpalm : shouldBeInPalmSwipeMode settings v = false) :
    IsPalmFree (nPointables settings v) := by
  rw [nPointables, hpalm]
  simp only [Bool.false_eq_true, if_false]
  split_ifs
  · simp [IsPalmFree]
  all_goals split <;> simp [IsPalmFree]

/-- While the palm swipe is disabled, it never does. -/
theorem isPalmFree_nPointables (hdisabled : settings.disablePalmSwipe = true) :
    IsPalmFree (nPointables settings v) :=
  isPalmFree_dispatch (by simp [shouldBeInPalmSwipeMode, hdisabled])

/-- The frame without pointables, hands in multi-hand mode, or palm. -/
structure NoInteraction (settings : Settings leap.Scalar) (v : FrameState leap) : Prop where
  count : v.filteredPointableCount.filteredCategory = some 0
  multiHand : shouldBeInMultiHandMode v = false
  palm : shouldBeInPalmSwipeMode settings v = false

instance : Decidable (NoInteraction settings v) :=
  decidable_of_iff (v.filteredPointableCount.filteredCategory = some 0 ∧
    shouldBeInMultiHandMode v = false ∧ shouldBeInPalmSwipeMode settings v = false)
    ⟨fun ⟨hcount, hmulti, hpalm⟩ ↦ ⟨hcount, hmulti, hpalm⟩, fun ⟨hcount, hmulti, hpalm⟩ ↦
      ⟨hcount, hmulti, hpalm⟩⟩

theorem NoInteraction.groupChanges (h : NoInteraction settings v) (test : ℕ → Bool) :
    BasicMode.groupChanges settings v test = test 0 := by
  rw [groupChanges_eq_countIs h.multiHand h.palm, FrameState.countIs_some h.count]

theorem NoInteraction.nPointables (h : NoInteraction settings v) :
    BasicMode.nPointables settings v = noPointablesNoInteraction := by
  simp [BasicMode.nPointables, h.multiHand, h.palm, h.count]

theorem NoInteraction.multiHand_eq (h : NoInteraction settings v) :
    BasicMode.multiHand v = none := by
  simpa [shouldBeInMultiHandMode] using h.multiHand

theorem NoInteraction.request (h : NoInteraction settings v) {s : State}
    (hs : IsPalmFree s) (hne : s ≠ noPointablesNoInteraction) :
    netRequest (handlers env settings v s (.user .processFrame) m).requests =
      some noPointablesNoInteraction := by
  cases s with
  | noPointablesNoInteraction => exact absurd rfl hne
  | onePointableHovering =>
    simp [handlers, stateOnePointableHovering, onePointableHoveringFrame, transitionToNPointables,
      h.groupChanges, h.nPointables]
  | onePointableClickCooldown =>
    simp [handlers, stateOnePointableClickCooldown, clickCooldownFrame, transitionToNPointables,
      h.groupChanges, h.nPointables]
  | twoPlusPointablesHovering =>
    simp [handlers, stateTwoPlusPointablesHovering, twoPlusPointablesHoveringFrame,
      transitionToNPointables, h.groupChanges, h.nPointables, tooFewForScrolling]
  | twoPlusPointablesScrolling =>
    simp [handlers, stateTwoPlusPointablesScrolling, scrollingFrame, transitionToNPointables,
      h.groupChanges, h.nPointables]
  | twoHandsHovering =>
    simp [handlers, stateTwoHandsHovering, twoHandsHoveringFrame, transitionToNPointables,
      h.multiHand_eq, h.nPointables]
  | twoHandsGestureRecognition =>
    simp [handlers, stateTwoHandsGestureRecognition, twoHandsGestureRecognitionFrame,
      transitionToNPointables, h.multiHand, h.nPointables]
  | twoHandsRotating =>
    simp [handlers, stateTwoHandsRotating, twoHandsGestureFrame, transitionToNPointables,
      h.multiHand, h.nPointables]
  | twoHandsZooming =>
    simp [handlers, stateTwoHandsZooming, twoHandsGestureFrame, transitionToNPointables,
      h.multiHand, h.nPointables]
  | twoHandsTouch =>
    simp [handlers, stateTwoHandsTouch, twoHandsTouchFrame, transitionToNPointables,
      h.multiHand_eq, h.nPointables]
  | palmGestureRecognition => exact absurd rfl hs.1
  | palmSwipe => exact absurd rfl hs.2

/-- A request is allowed: there is none, or it is for a palm-free state. -/
def RequestsPalmFree (requests : List (Option State)) : Prop :=
  ∀ u, netRequest requests = some u → IsPalmFree u

/-- While the palm swipe is disabled, no request leads from a palm-free state to a state of a
palm. -/
theorem requestsPalmFree (hdisabled : settings.disablePalmSwipe = true) {s : State}
    (hs : IsPalmFree s) (input : StateMachineInput Input) (m : BasicMode leap) :
    RequestsPalmFree (handlers env settings v s input m).requests := by
  intro u h
  rcases request_cases h with rfl | hother | ⟨-, rfl⟩
  · exact isPalmFree_nPointables hdisabled
  · cases s with
    | palmGestureRecognition => exact absurd rfl hs.1
    | palmSwipe => exact absurd rfl hs.2
    | _ => exact ⟨by rintro rfl; simp [others] at hother, by rintro rfl; simp [others] at hother⟩
  · simp [IsPalmFree]

/-- What a palm-free machine keeps. -/
def InsidePalmFree (s : State) (p : Option State) (_ : BasicMode leap) : Prop :=
  IsPalmFree s ∧ ∀ u, p = some u → IsPalmFree u

theorem palmFreeContract (env : Environment leap) (hdisabled : settings.disablePalmSwipe = true) :
    ModeObject.Contract (handlers env settings) InsidePalmFree (fun t _ ↦ IsPalmFree t)
      fun _ ↦ True := fun _ ↦
  { neverTransitionsOnExit := neverTransitionsOnExit
    input := fun _ i m h ↦ ⟨h.1, requestsPalmFree hdisabled h.1 (.user i) m⟩
    exit := fun _ t _ h ↦ h.2 t rfl
    enter := fun _ m h ↦ ⟨h, requestsPalmFree hdisabled h .enter m⟩
    final := fun _ _ _ ↦ trivial }

/-- While the palm swipe is disabled, the object is in a palm-free state. -/
def KeptPalmFree (o : Object leap) : Prop :=
  o.machine.Kept InsidePalmFree (fun t _ ↦ IsPalmFree t) noPointablesNoInteraction

theorem keptPalmFree_construct (memory : BasicMode leap) : KeptPalmFree (Object.construct memory) :=
  StateMachine.Kept.construct (by simp [IsPalmFree])

theorem KeptPalmFree.processFrame (hdisabled : settings.disablePalmSwipe = true)
    (h : KeptPalmFree o) {frame sinceFrame : leap.Frame}
    (hrun : processFrame env settings fuel o frame sinceFrame = some o') : KeptPalmFree o' :=
  (holds_processFrame (palmFreeContract env hdisabled) (fun _ _ h ↦ h) h hrun).kept

theorem KeptPalmFree.stopActiveEvents (hdisabled : settings.disablePalmSwipe = true)
    (h : KeptPalmFree o) (hrun : stopActiveEvents env settings fuel o = some o') :
    KeptPalmFree o' :=
  ((palmFreeContract env hdisabled).runCurrentState h hrun).kept

/-- **A frame without interaction** is processed and leads to the no-interaction state. -/
theorem emptyFrame_atRest (hkept : Kept settings .idle o) (hpalmFree : KeptPalmFree o)
    {frame sinceFrame : leap.Frame}
    (h : NoInteraction settings (o.frame.processFrame (overrides leap) frame sinceFrame))
    (hfuel : 0 < fuel) :
    ∃ o', processFrame env settings fuel o frame sinceFrame = some o' ∧
      o'.AtRest (·.osCalls) noPointablesNoInteraction := by
  set shown : Object leap :=
    ⟨o.frame.processFrame (overrides leap) frame sinceFrame, o.machine⟩ with hshown
  have hguard : interacts settings shown.frame = false := h.groupChanges _
  have hstays : ∀ m, netRequest (handlers env settings shown.frame noPointablesNoInteraction
      (.user .processFrame) m).requests = none := fun m ↦ by
    simp only [interacts] at hguard
    simp [handlers, stateNoPointablesNoInteraction, noPointablesFrame, hguard]
  obtain ⟨o₁, o₂, hinit, hrun, hcur⟩ := (gate env settings).reaches_rest hfuel hguard hstays
    fun s m hs hne ↦ h.request (hpalmFree.inside s hs).2.1 hne
  have hprocess : processFrame env settings fuel o frame sinceFrame =
      some (sendTouches settings o₂) := by
    simp only [processFrame_eq, ← hshown, hinit, hrun, Option.bind_eq_bind, Option.bind_some,
      Option.pure_def]
  exact ⟨_, hprocess, Kept.atRest (hkept.processFrame hprocess).kept
    (currentState_sendTouches.trans hcur)⟩

/-! ### Frames and focus losses return -/

theorem processFrame_returns (env : Environment leap) (hlaw : leap.HandsOfPointablesExist)
    (hfuel : 2 < fuel) (hkept : Kept settings start o) (frame sinceFrame : leap.Frame) :
    ∃ o', processFrame env settings fuel o frame sinceFrame = some o' ∧
      o'.Holds (Inside settings start) := by
  set shown : Object leap :=
    ⟨o.frame.processFrame (overrides leap) frame sinceFrame, o.machine⟩ with hshown
  have hkept' : Kept settings start shown := hkept
  obtain ⟨o₁, hinit⟩ := (terminates env settings hlaw hfuel).ensureInitialized shown
    noPointablesNoInteraction
  have hentered := (contract env settings start).ensureInitialized hkept' hinit
  obtain ⟨o₂, hrun⟩ := (terminates env settings hlaw hfuel).runCurrentState hentered.started
    Input.processFrame
  have hprocess : processFrame env settings fuel o frame sinceFrame =
      some (sendTouches settings o₂) := by
    simp only [processFrame_eq, ← hshown, hinit, hrun, Option.bind_eq_bind, Option.bind_some,
      Option.pure_def]
  exact ⟨_, hprocess, hkept.processFrame hprocess⟩

theorem stopActiveEvents_returns (env : Environment leap) (hlaw : leap.HandsOfPointablesExist)
    (hfuel : 2 < fuel) (hholds : o.Holds (Inside settings start)) :
    ∃ o', stopActiveEvents env settings fuel o = some o' ∧ o'.Holds (Inside settings start) := by
  obtain ⟨o', hrun⟩ := (terminates env settings hlaw hfuel).runCurrentState hholds.started
    Input.lostFocus
  exact ⟨o', hrun, Kept.stopActiveEvents hholds.kept hrun⟩

theorem destruct_returns (env : Environment leap) (settings : Settings leap.Scalar) (fuel : ℕ)
    (o : Object leap) : ∃ o', destruct env settings fuel o = some o' :=
  ModeObject.shutdown_returns (fun _ ↦ neverTransitionsOnExit) fuel o

end

end BasicMode

end Touchless
