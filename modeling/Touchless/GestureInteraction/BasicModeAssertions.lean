import Touchless.GestureInteraction.BasicModeCalls
import Touchless.GestureInteraction.BasicModeTransitions

/-!
# The assertions of basic mode

In touch mode `twoPlusPointablesScrolling` asserts on `SM_ENTER` and on `SM_EXIT` that the favorite
hand is valid in the current frame. It is entered from `twoPlusPointablesHovering` only, which has
just tested the hand, and a focus loss or the destructor finds the frame for which it was entered or
kept. But a frame in which the hand has gone leads out of the state, and then the assertion on
`SM_EXIT` fails (`run_assertions_iff`).
-/

namespace Touchless

namespace BasicMode

open State

variable {leap : Leap}

section

variable {env : Environment leap} {settings : Settings leap.Scalar} {v : FrameState leap}
  {m : BasicMode leap} {p : Option State} {u : State}

/-- The favorite hand is in view. -/
def HandInView (v : FrameState leap) (m : BasicMode leap) : Prop :=
  leap.handIsValid (leap.hand v.currentFrame m.favoriteHandId) = true

instance (v : FrameState leap) (m : BasicMode leap) : Decidable (HandInView v m) :=
  inferInstanceAs (Decidable (_ = _))

/-- The assertions `favoriteHand.isValid()` of the scrolling state. In mouse mode there is none on
`SM_EXIT`. -/
def assertionHolds (settings : Settings leap.Scalar) (v : FrameState leap) :
    HandlerCall State Input (BasicMode leap) → Prop
  | ⟨twoPlusPointablesScrolling, .enter, m⟩ => HandInView v m
  | ⟨twoPlusPointablesScrolling, .exit, m⟩ => settings.useMouseOutput = false → HandInView v m
  | _ => True

/-! ### What leads to the scrolling state -/

theorem nPointables_ne_scrolling : nPointables settings v ≠ twoPlusPointablesScrolling := by
  rw [nPointables]
  split_ifs
  · simp
  · simp
  all_goals split <;> simp

/-- The frame in `twoPlusPointablesHovering` requests the scrolling state for a hand in view. -/
theorem twoPlusPointablesHoveringFrame_scrolling
    (h : netRequest (twoPlusPointablesHoveringFrame env settings v m).requests =
      some twoPlusPointablesScrolling) :
    HandInView v (twoPlusPointablesHoveringFrame env settings v m).owner := by
  generalize hresult : twoPlusPointablesHoveringFrame env settings v m = result at h
  have hframe : HoveringFrame settings v m result := hresult ▸ hoveringFrame m
  cases hframe with
  | dispatch hgroup => exact absurd (Option.some.inj h) nPointables_ne_scrolling
  | lost hgroup hidle hand hinvalid => exact absurd (Option.some.inj h) nPointables_ne_scrolling
  | scroll hgroup hidle hvalid => exact hvalid
  | stay hgroup hidle => cases h

/-- **The scrolling state is requested** for a hand in view only. -/
theorem handInView_of_request {s : State} {input : StateMachineInput Input}
    (h : netRequest (handlers env settings v s input m).requests =
      some twoPlusPointablesScrolling) :
    HandInView v (handlers env settings v s input m).owner := by
  rcases request_cases h with hdispatch | hother | ⟨-, hrest⟩
  · exact absurd hdispatch.symm nPointables_ne_scrolling
  · cases s with
    | twoPlusPointablesHovering =>
      cases input with
      | user i =>
        cases i with
        | processFrame => exact twoPlusPointablesHoveringFrame_scrolling h
        | lostFocus => cases h
      | exit => cases h
      | enter =>
        simp only [handlers, stateTwoPlusPointablesHovering] at h ⊢
        split_ifs at h ⊢
        · cases h
        · exact twoPlusPointablesHoveringFrame_scrolling h
    | _ => simp [others] at hother
  · cases hrest

/-- Leaving a state does not change the favorite hand. -/
theorem favoriteHandId_exit (s : State) (m : BasicMode leap) :
    (handlers env settings v s .exit m).owner.favoriteHandId = m.favoriteHandId := by
  cases s with
  | onePointableClickCooldown =>
    simp only [handlers, stateOnePointableClickCooldown, releaseClick, owner_done]
    split_ifs <;> rfl
  | twoPlusPointablesScrolling =>
    simp only [handlers, stateTwoPlusPointablesScrolling, owner_done]
    split_ifs <;> rfl
  | _ => rfl

/-- Nor does entering the scrolling state, or a frame in it. -/
theorem favoriteHandId_enter_scrolling :
    (handlers env settings v twoPlusPointablesScrolling .enter m).owner.favoriteHandId =
      m.favoriteHandId := by
  simp only [handlers, stateTwoPlusPointablesScrolling, owner_done]
  split_ifs <;> rfl

theorem favoriteHandId_scrollingFrame :
    (scrollingFrame env settings v m).owner.favoriteHandId = m.favoriteHandId := by
  simp only [scrollingFrame, transitionToNPointables]
  split_ifs <;> rfl

/-- A frame without the hand leaves the scrolling state. -/
theorem scrollingFrame_leaves (hview : ¬ HandInView v m) :
    netRequest (scrollingFrame env settings v m).requests ≠ none := by
  have hinvalid : leap.handIsValid (leap.hand v.currentFrame m.favoriteHandId) = false := by
    simpa [HandInView] using hview
  simp only [scrollingFrame, hinvalid]
  split_ifs <;> simp [transitionToNPointables]

/-! ### The transition loop -/

/-- In the transition loop: the scrolling state is entered, and left, with the hand in view. With
`hand` the latter may fail where the loop began in that state. -/
structure HandInside (hand : Prop) (v : FrameState leap) (s : State) (p : Option State)
    (m : BasicMode leap) : Prop where
  inside : s = twoPlusPointablesScrolling → HandInView v m ∨ ¬ hand ∧ p ≠ none
  request : p = some twoPlusPointablesScrolling → HandInView v m

/-- Between two states. -/
def HandBetween (v : FrameState leap) (t : State) (m : BasicMode leap) : Prop :=
  t = twoPlusPointablesScrolling → HandInView v m

theorem HandInView.of_eq {n : BasicMode leap} (h : HandInView v m)
    (heq : n.favoriteHandId = m.favoriteHandId) : HandInView v n := by
  rw [HandInView, heq]
  exact h

theorem handTurns (env : Environment leap) (settings : Settings leap.Scalar) (v : FrameState leap)
    (hand : Prop) : StateMachine.Turns (handlers env settings v) (HandInside hand v)
      (HandBetween v) where
  neverTransitionsOnExit := neverTransitionsOnExit
  exit s t m h ht := (h.request (congrArg some ht)).of_eq (favoriteHandId_exit s m)
  enter t m h := by
    refine ⟨fun ht ↦ .inl ?_, handInView_of_request⟩
    subst ht
    exact (h rfl).of_eq favoriteHandId_enter_scrolling

/-- The first call of a frame: where it finds the scrolling state without its hand, it leaves it. -/
theorem handInside_frame {hand : Prop} {s : State}
    (hhand : hand → s = twoPlusPointablesScrolling → HandInView v m) :
    HandInside hand v s
      (netRequest (handlers env settings v s (.user .processFrame) m).requests)
      (handlers env settings v s (.user .processFrame) m).owner := by
  refine ⟨fun hs ↦ ?_, handInView_of_request⟩
  subst hs
  by_cases hview : HandInView v m
  · exact .inl (hview.of_eq favoriteHandId_scrollingFrame)
  · exact .inr ⟨fun h ↦ hview (hhand h rfl), scrollingFrame_leaves hview⟩

end

/-! ### Frames, focus losses and the destructor -/

section

variable {env : Environment leap} {settings : Settings leap.Scalar} {fuel : ℕ} {o o' : Object leap}
  {frame sinceFrame : leap.Frame}

/-- What calls leave: the scrolling state has its hand in the last frame. -/
def KeptHand (o : Object leap) : Prop :=
  o.machine.currentState = some twoPlusPointablesScrolling → HandInView o.frame o.machine.owner

/-- The hand that scrolls is there in the next frame too. -/
def HandStays (o : Object leap) : ModeCall leap → Prop
  | .processFrame frame sinceFrame => o.machine.currentState = some twoPlusPointablesScrolling →
      HandInView (shown o frame sinceFrame) o.machine.owner
  | .stopActiveEvents => True

instance (o : Object leap) : ∀ call, Decidable (HandStays o call)
  | .processFrame _ _ => inferInstanceAs (Decidable (_ → _))
  | .stopActiveEvents => .isTrue trivial

/-- No assertion fails while a call is processed. -/
def AssertionsHold (env : Environment leap) (settings : Settings leap.Scalar) (fuel : ℕ)
    (o : Object leap) : ModeCall leap → Prop
  | .processFrame frame sinceFrame => ∀ call ∈ frameCalls env settings fuel o frame sinceFrame,
      assertionHolds settings (shown o frame sinceFrame) call
  | .stopActiveEvents =>
    ∀ call ∈ stopCalls env settings fuel o, assertionHolds settings o.frame call

theorem assertionHolds_user {v : FrameState leap} {s : State} {input : Input}
    {m : BasicMode leap} : assertionHolds settings v ⟨s, .user input, m⟩ := by
  cases s <;> trivial

theorem assertionHolds_enter {v : FrameState leap} {s : State} {m : BasicMode leap}
    (h : HandBetween v s m) : assertionHolds settings v ⟨s, .enter, m⟩ := by
  cases s with
  | twoPlusPointablesScrolling => exact h rfl
  | _ => trivial

theorem assertionHolds_exit {v : FrameState leap} {s : State} {m : BasicMode leap}
    (h : HandBetween v s m) : assertionHolds settings v ⟨s, .exit, m⟩ := by
  cases s with
  | twoPlusPointablesScrolling => exact fun _ ↦ h rfl
  | _ => trivial

/-- **A frame** leaves the scrolling state with its hand in view or not at all, and while the hand
stays no assertion fails. -/
theorem processFrame_hand (env : Environment leap) (settings : Settings leap.Scalar) (fuel : ℕ)
    (o : Object leap) (frame sinceFrame : leap.Frame) :
    (HandStays o (.processFrame frame sinceFrame) →
      AssertionsHold env settings fuel o (.processFrame frame sinceFrame)) ∧
    ∀ o', processFrame env settings fuel o frame sinceFrame = some o' → KeptHand o' := by
  obtain ⟨hcalls, hend⟩ := turns_processFrame fuel (Q := fun call ↦
      HandStays o (.processFrame frame sinceFrame) →
        assertionHolds settings (shown o frame sinceFrame) call)
    (handTurns env settings (shown o frame sinceFrame)
      (HandStays o (.processFrame frame sinceFrame)))
    -- leaving a state, entering one, the initialization, and the first call
    (fun s t m hinside hstays ↦ assertionHolds_exit fun hs ↦
      (hinside.inside hs).resolve_right fun hgone ↦ hgone.1 hstays)
    (fun t m hbetween _ ↦ assertionHolds_enter hbetween)
    (fun _ ht ↦ by simp at ht)
    (fun s m hfound ↦ ⟨fun _ ↦ assertionHolds_user, handInside_frame fun hstays hs ↦ by
      rcases hfound with ⟨hcur, rfl⟩ | hinside
      · exact hstays (hs ▸ hcur)
      · exact (hinside.inside hs).resolve_right (by simp)⟩)
  refine ⟨fun hstays call hcall ↦ hcalls call hcall hstays, fun o' hrun hcur ↦ ?_⟩
  obtain ⟨m, s, rfl, hs, hinside⟩ := hend o' hrun
  rw [currentState_sendTouches, hs.current, Option.some_inj] at hcur
  rw [frame_sendTouches]
  have hview : HandInView (shown o frame sinceFrame) m.owner :=
    (hinside.inside hcur).resolve_right (by simp)
  refine hview.of_eq ?_
  rw [sendTouches]
  split_ifs <;> rfl

/-- A frame without the hand leaves the scrolling state, and the assertion on `SM_EXIT` fails. -/
theorem exists_failing_call (hmouse : settings.useMouseOutput = false) (hfuel : 0 < fuel)
    (hcur : o.machine.currentState = some twoPlusPointablesScrolling)
    (hview : ¬ HandInView (shown o frame sinceFrame) o.machine.owner) :
    ∃ call ∈ frameCalls env settings fuel o frame sinceFrame,
      call.state = twoPlusPointablesScrolling ∧ call.input = .exit ∧
        ¬ assertionHolds settings (shown o frame sinceFrame) call := by
  obtain ⟨t, ht⟩ : ∃ t, netRequest (handlers env settings (shown o frame sinceFrame)
      twoPlusPointablesScrolling (.user .processFrame) o.machine.owner).requests = some t :=
    Option.ne_none_iff_exists'.1 (scrollingFrame_leaves hview)
  -- a request is followed by the call with `SM_EXIT`, on the owner that the frame has left
  have hexit := StateMachine.mem_inputCalls_exit hcur ht hfuel
  refine ⟨_, (StateMachine.startCalls_of_started hcur).symm ▸ hexit, rfl, rfl,
    fun hholds ↦ hview ?_⟩
  have hin : HandInView (shown o frame sinceFrame) _ := hholds hmouse
  exact hin.of_eq favoriteHandId_scrollingFrame.symm

theorem not_assertionsHold_frame (hmouse : settings.useMouseOutput = false) (hfuel : 0 < fuel)
    (hgone : ¬ HandStays o (.processFrame frame sinceFrame)) :
    ¬ AssertionsHold env settings fuel o (.processFrame frame sinceFrame) := by
  intro hholds
  obtain ⟨hcur, hview⟩ := Classical.not_imp.1 hgone
  obtain ⟨call, hcall, -, -, hfails⟩ := exists_failing_call hmouse hfuel hcur hview
  exact hfails (hholds call hcall)

/-- **A focus loss** finds the hand, and what follows does too. -/
theorem stopActiveEvents_hand (env : Environment leap) (settings : Settings leap.Scalar) (fuel : ℕ)
    (h : KeptHand o) :
    AssertionsHold env settings fuel o .stopActiveEvents ∧
      ∀ o', stopActiveEvents env settings fuel o = some o' → KeptHand o' := by
  have hturns := handTurns env settings o.frame True
  have hfirst : ∀ s, o.machine.currentState = some s →
      HandInside True o.frame s
        (netRequest (handlers env settings o.frame s (.user .lostFocus) o.machine.owner).requests)
        (handlers env settings o.frame s (.user .lostFocus) o.machine.owner).owner := fun s hs ↦ by
    refine ⟨fun hscrolling ↦ .inl ?_, handInView_of_request⟩
    rw [owner_lostFocus]
    exact h (hscrolling ▸ hs)
  refine ⟨hturns.forall_inputCalls (fun s t m hinside ↦ assertionHolds_exit fun hs ↦
      (hinside.inside hs).resolve_right (by simp)) (fun t m ↦ assertionHolds_enter)
    fun s hs ↦ ⟨assertionHolds_user, hfirst s hs⟩, fun o' hrun hcur ↦ ?_⟩
  obtain ⟨m, hm, rfl⟩ := ModeObject.runCurrentState_some hrun
  obtain ⟨s, hs, hinside⟩ := hturns.runCurrentState hfirst hm
  exact (hinside.inside (hs.eq_of_current hcur)).resolve_right (by simp)

/-- And the destructor finds it. -/
theorem KeptHand.destruct (h : KeptHand o) :
    ∀ call ∈ destructCalls env settings fuel o, assertionHolds settings o.frame call :=
  StateMachine.forall_exitCalls neverTransitionsOnExit fun _ hs ↦
    assertionHolds_exit fun hscrolling ↦ h (hscrolling ▸ hs)

/-! ### Whole runs -/

theorem KeptHand.exec (h : KeptHand o) (call : ModeCall leap)
    (hexec : (methods env settings fuel).exec o call = some o') : KeptHand o' := by
  cases call with
  | processFrame frame sinceFrame =>
    exact (processFrame_hand env settings fuel o frame sinceFrame).2 o' hexec
  | stopActiveEvents => exact (stopActiveEvents_hand env settings fuel h).2 o' hexec

theorem keptHand_construct (memory : BasicMode leap) : KeptHand (Object.construct memory) := by
  simp [KeptHand, Object.construct, StateMachine.construct]

theorem KeptHand.assertionsHold_iff (h : KeptHand o) (hmouse : settings.useMouseOutput = false)
    (hfuel : 0 < fuel) (call : ModeCall leap) :
    AssertionsHold env settings fuel o call ↔ HandStays o call := by
  cases call with
  | processFrame frame sinceFrame =>
    exact ⟨not_imp_not.1 (not_assertionsHold_frame hmouse hfuel),
      (processFrame_hand env settings fuel o frame sinceFrame).1⟩
  | stopActiveEvents =>
    exact iff_of_true (stopActiveEvents_hand env settings fuel h).1 trivial

/-- **The assertions of touch mode in a run** hold at every frame and focus loss exactly if the hand
that scrolls never goes between two frames; and the destructor's hold after every run. -/
theorem run_assertions_iff (env : Environment leap) (settings : Settings leap.Scalar)
    (hmouse : settings.useMouseOutput = false) (hfuel : 0 < fuel) (memory : BasicMode leap)
    (calls : List (ModeCall leap)) :
    ((methods env settings fuel).Meets (AssertionsHold env settings fuel) (Object.construct memory)
        calls ↔
      (methods env settings fuel).Meets HandStays (Object.construct memory) calls) ∧
    ∀ o, (methods env settings fuel).run (Object.construct memory) calls = some o →
      ∀ call ∈ destructCalls env settings fuel o, assertionHolds settings o.frame call := by
  refine ⟨ModeMethods.meets_iff (fun _ call _ h ↦ h.exec call)
    (fun _ call h ↦ h.assertionsHold_iff hmouse hfuel call) (keptHand_construct memory),
    fun o hrun ↦ ?_⟩
  have hkept : KeptHand o := ModeMethods.run_invariant
    (fun _ _ _ _ h ↦ h.exec (.processFrame _ _)) (fun _ _ h ↦ h.exec .stopActiveEvents)
    (keptHand_construct memory) hrun
  exact hkept.destruct

end

/-- Two fingers that stay while they scroll. -/
theorem run_assertions_iff_scrolling :
    (methods (Environment.plain fingerLeap) (Settings.construct fingerLeap.Scalar false) 5).Meets
      (AssertionsHold (Environment.plain fingerLeap) (Settings.construct fingerLeap.Scalar false) 5)
      (Object.construct (blank fingerLeap)) (fingerCalls 4 2) :=
  (run_assertions_iff (Environment.plain fingerLeap)
    (Settings.construct fingerLeap.Scalar false) rfl
    (by decide) (blank fingerLeap) (fingerCalls 4 2)).1.2 (by decide +kernel)

/-- Where they go, the exit from the scrolling state finds no hand. -/
theorem run_assertions_fail :
    ∃ o, (methods (Environment.plain fingerLeap) (Settings.construct fingerLeap.Scalar false) 5).run
        (Object.construct (blank fingerLeap)) (fingerCalls 2 2) = some o ∧
      ∃ call ∈ frameCalls (Environment.plain fingerLeap)
        (Settings.construct fingerLeap.Scalar false) 5
          o (fingerFrame 3 0) (fingerFrame 2 2),
        call.state = twoPlusPointablesScrolling ∧ call.input = .exit ∧
          ¬ assertionHolds (Settings.construct fingerLeap.Scalar false)
            (shown o (fingerFrame 3 0) (fingerFrame 2 2)) call := by
  have hgone : ((methods (Environment.plain fingerLeap) (Settings.construct fingerLeap.Scalar false)
      5).run (Object.construct (blank fingerLeap)) (fingerCalls 2 2)).map (fun o ↦
        (o.machine.currentState, decide (HandInView (shown o (fingerFrame 3 0) (fingerFrame 2 2))
          o.machine.owner))) = some (some twoPlusPointablesScrolling, false) := by decide +kernel
  obtain ⟨o, hrun, hfound⟩ := Option.map_eq_some_iff.1 hgone
  obtain ⟨hcur, hview⟩ := Prod.mk.inj hfound
  refine ⟨o, hrun, exists_failing_call rfl (by decide) hcur (by simpa using hview)⟩

end BasicMode

end Touchless
