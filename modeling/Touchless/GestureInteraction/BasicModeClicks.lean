import Touchless.GestureInteraction.BasicModeCalls
import Touchless.GestureInteraction.BasicModeSends

/-!
# The clicks of basic mode

In mouse mode `m_clickDown` and `m_clickNumber` say what the log of calls leaves of the left button,
and every `clickUp` matches its `clickDown` (`ClickKept.handler`). Most of what a handler does is
`Silent`: it sends no click.

The button does not stay down: when a call returns with the button down, the machine is in the
cooldown state and the press is at most 150 ms old (`run_click`). Within a frame that is a property
of the turns of the transition loop (`timedTurns`), which the first handler call of the frame
establishes, whatever the age of the press was before it.
-/

namespace Touchless

namespace BasicMode

open State

variable {leap : Leap}

/-- No click has been sent. -/
structure Silent (m n : BasicMode leap) : Prop where
  clickDown : n.clickDown = m.clickDown
  clickNumber : n.clickNumber = m.clickNumber
  clicks : clicks n.osCalls = clicks m.osCalls

namespace Silent

variable {m n k : BasicMode leap}

theorem refl (m : BasicMode leap) : Silent m m := ⟨rfl, rfl, rfl⟩

theorem trans (h : Silent m n) (h' : Silent n k) : Silent m k :=
  ⟨h'.clickDown.trans h.clickDown, h'.clickNumber.trans h.clickNumber, h'.clicks.trans h.clicks⟩

end Silent

section

variable {env : Environment leap} {settings : Settings leap.Scalar} {v : FrameState leap}
  {m : BasicMode leap} {p : Option State}

/-! ### Silent helpers -/

/-- A method of the base class that sends no click. -/
theorem silent_base {f : Manager leap → Manager leap}
    (h : clicks (f m.toManager).osCalls = clicks m.osCalls) : Silent m (m.base f) :=
  ⟨rfl, rfl, h⟩

/-- A call that is no click. -/
theorem silent_emit {call : OSCall leap.Scalar} (h : call.isClick = false) :
    Silent m (m.emit call) :=
  silent_base (by simp [clicks_singleton, h])

theorem silent_charms : Silent m (charms env v m) := by
  rw [charms]
  split_ifs
  · exact ⟨rfl, rfl, by simp [emit, clicks_singleton, OSCall.isClick]⟩
  · exact .refl m

theorem silent_setAbsoluteCursorPositionPointable :
    Silent m (setAbsoluteCursorPositionPointable env v m) := by
  refine silent_base ?_
  split_ifs <;> simp

theorem silent_draw :
    Silent m (m.base fun b ↦ b.drawOverlayForPointable (b.favoritePointable v)) :=
  silent_base (by simp)

/-! ### Silent states -/

/-- The two states that click. -/
def Clicking (s : State) : Prop := s = onePointableHovering ∨ s = onePointableClickCooldown

/-- The other states may send no click. -/
theorem maySend_isClick {s : State} (hs : ¬ Clicking s) {input : StateMachineInput Input}
    {call : OSCall leap.Scalar} (h : maySend s input call = true) : call.isClick = false := by
  obtain ⟨hhovering, hcooldown⟩ := not_or.1 hs
  cases call with
  | clickDown | clickUp =>
    cases s with
    | onePointableHovering => exact absurd rfl hhovering
    | onePointableClickCooldown => exact absurd rfl hcooldown
    | _ => simp [maySend, OSCall.isCursor, ofGesture] at h
  | _ => rfl

theorem members_twoPlusPointablesHoveringFrame :
    (twoPlusPointablesHoveringFrame env settings v m).owner.clickDown = m.clickDown ∧
      (twoPlusPointablesHoveringFrame env settings v m).owner.clickNumber = m.clickNumber :=
  ⟨(hoveringFrame m).idle.clickDown, (hoveringFrame m).idle.clickNumber⟩

/-- In their frames the members of the click stay as they are. -/
theorem members_frame (env : Environment leap) {s : State} (hs : ¬ Clicking s)
    (m : BasicMode leap) :
    (handlers env settings v s (.user .processFrame) m).owner.clickDown = m.clickDown ∧
      (handlers env settings v s (.user .processFrame) m).owner.clickNumber = m.clickNumber := by
  cases s with
  | onePointableHovering => exact absurd (.inl rfl) hs
  | onePointableClickCooldown => exact absurd (.inr rfl) hs
  | noPointablesNoInteraction =>
    simp only [handlers, stateNoPointablesNoInteraction, noPointablesFrame]
    split_ifs <;> exact ⟨rfl, rfl⟩
  | twoPlusPointablesHovering => exact members_twoPlusPointablesHoveringFrame
  | twoPlusPointablesScrolling =>
    simp only [handlers, stateTwoPlusPointablesScrolling, scrollingFrame]
    split_ifs <;> exact ⟨rfl, rfl⟩
  | twoHandsHovering =>
    simp only [handlers, stateTwoHandsHovering, twoHandsHoveringFrame]
    cases multiHand v with
    | none => exact ⟨rfl, rfl⟩
    | some ids =>
      simp only
      split_ifs <;> exact ⟨rfl, rfl⟩
  | twoHandsGestureRecognition =>
    simp only [handlers, stateTwoHandsGestureRecognition, twoHandsGestureRecognitionFrame]
    split_ifs <;> exact ⟨rfl, rfl⟩
  | twoHandsRotating =>
    simp only [handlers, stateTwoHandsRotating, twoHandsGestureFrame]
    split_ifs <;> exact ⟨rfl, rfl⟩
  | twoHandsZooming =>
    simp only [handlers, stateTwoHandsZooming, twoHandsGestureFrame]
    split_ifs <;> exact ⟨rfl, rfl⟩
  | twoHandsTouch =>
    simp only [handlers, stateTwoHandsTouch, twoHandsTouchFrame]
    cases multiHand v <;> exact ⟨rfl, rfl⟩
  | palmGestureRecognition => exact ⟨rfl, rfl⟩
  | palmSwipe => exact ⟨rfl, rfl⟩

/-- And so they do for the other inputs. -/
theorem members_handler {s : State} (hs : ¬ Clicking s) (input : StateMachineInput Input)
    (m : BasicMode leap) :
    (handlers env settings v s input m).owner.clickDown = m.clickDown ∧
      (handlers env settings v s input m).owner.clickNumber = m.clickNumber := by
  cases input with
  | user i =>
    cases i with
    | processFrame => exact members_frame env hs m
    | lostFocus =>
      rw [owner_lostFocus]
      exact ⟨rfl, rfl⟩
  | exit =>
    cases s with
    | onePointableClickCooldown => exact absurd (.inr rfl) hs
    | twoPlusPointablesScrolling =>
      simp only [handlers, stateTwoPlusPointablesScrolling]
      split_ifs <;> exact ⟨rfl, rfl⟩
    | _ => exact ⟨rfl, rfl⟩
  | enter =>
    cases s with
    | twoPlusPointablesHovering =>
      simp only [handlers, stateTwoPlusPointablesHovering]
      split_ifs
      · exact ⟨rfl, rfl⟩
      · exact members_twoPlusPointablesHoveringFrame
    | twoPlusPointablesScrolling =>
      simp only [handlers, stateTwoPlusPointablesScrolling]
      split_ifs <;> exact ⟨rfl, rfl⟩
    | twoHandsRotating | twoHandsZooming | palmSwipe => exact ⟨rfl, rfl⟩
    | _ => exact members_frame env hs _

/-- **A state that does not click** is silent. -/
theorem silent_handler {s : State} (hs : ¬ Clicking s) (input : StateMachineInput Input)
    (m : BasicMode leap) : Silent m (handlers env settings v s input m).owner := by
  obtain ⟨sent, hsent, hallowed⟩ :
      Sends (maySend s input) m (handlers env settings v s input m).owner := sends_handler s input m
  have hnone : clicks sent = [] :=
    List.filter_eq_nil_iff.2 fun call hcall ↦ by simp [maySend_isClick hs (hallowed call hcall)]
  exact ⟨(members_handler hs input m).1, (members_handler hs input m).2,
    by rw [hsent, clicks_append, hnone, List.append_nil]⟩

/-! ### The members of the click -/

/-- The members of the click say what the log leaves of the left button. -/
structure ClickKept (m : BasicMode leap) : Prop where
  clicksMatch : ClicksMatch m.osCalls
  openClick : openClick 0 m.osCalls = if m.clickDown then some m.clickNumber else none
  nonneg : 0 ≤ m.clickNumber
  le_three : m.clickNumber ≤ 3
  pos : m.clickDown = true → 1 ≤ m.clickNumber

theorem ClickKept.silent {n : BasicMode leap} (h : ClickKept m) (hs : Silent m n) :
    ClickKept n where
  clicksMatch := h.clicksMatch.of_clicks_eq hs.clicks
  openClick := by
    rw [openClick_of_clicks_eq hs.clicks, hs.clickDown, hs.clickNumber]
    exact h.openClick
  nonneg := hs.clickNumber ▸ h.nonneg
  le_three := hs.clickNumber ▸ h.le_three
  pos hdown := by
    rw [hs.clickNumber]
    exact h.pos (hs.clickDown ▸ hdown)

/-- The number of the next click, before it is counted. -/
theorem clickNumber_pressButton :
    ∃ number, (number = 0 ∨ number = m.clickNumber ∧ m.clickNumber ≠ 3) ∧
      (pressButton env v m).clickNumber = number + 1 ∧
      (pressButton env v m).osCalls =
        (setAbsoluteCursorPositionPointable env v m).osCalls ++ [.clickDown 0 (number + 1)] := by
  refine ⟨if v.now - m.lastClickTime > 3 * SECONDS ∨
      Arithmetic.lt (lit 50) ((clickPosition env v m).distanceTo m.lastClickLocation) = true ∨
      m.clickNumber = 3 then 0 else m.clickNumber, ?_, rfl, rfl⟩
  split_ifs with hreset
  · exact .inl rfl
  · exact .inr ⟨rfl, fun hthree ↦ hreset (.inr (.inr hthree))⟩

/-- **The press** counts the click, from 1 up to 3. -/
theorem ClickKept.pressButton (h : ClickKept m) : ClickKept (pressButton env v m) := by
  obtain ⟨number, hnumber, hcount, hcalls⟩ := @clickNumber_pressButton leap env v m
  have hmoved : ClickKept (setAbsoluteCursorPositionPointable env v m) :=
    h.silent silent_setAbsoluteCursorPositionPointable
  have hnonneg := h.nonneg
  have hthree := h.le_three
  -- three is the last number: the next click is a first one
  have hbounds : 0 ≤ number ∧ number ≤ 2 := by omega
  refine ⟨?_, ?_, ?_, ?_, fun _ ↦ ?_⟩
  · rw [hcalls]
    exact hmoved.clicksMatch.clickDown 0 _
  · rw [hcalls, hcount, openClick_concat]
    rfl
  all_goals rw [hcount]; omega

/-- **The release** closes it. -/
theorem ClickKept.releaseClick (hmouse : settings.useMouseOutput = true) (h : ClickKept m) :
    ClickKept (releaseClick env settings v m) := by
  cases hdown : m.clickDown with
  | false =>
    rw [releaseClick_of_up hdown]
    exact h
  | true =>
    rw [releaseClick_of_down hmouse hdown]
    -- the press that is open has the number that the release will carry
    have hopen : Touchless.openClick 0 m.osCalls = some m.clickNumber := by
      rw [h.openClick, hdown]
      rfl
    refine ⟨h.clicksMatch.clickUp hopen (h.pos hdown) h.le_three, ?_, h.nonneg, h.le_three, ?_⟩
    · show Touchless.openClick 0 (m.osCalls ++ [.clickUp 0 m.clickNumber]) = none
      rw [openClick_concat]
      rfl
    · intro hup
      cases hup

theorem clickDown_releaseClick (hmouse : settings.useMouseOutput = true) :
    (releaseClick env settings v m).clickDown = false := by
  cases hdown : m.clickDown with
  | false => rw [releaseClick_of_up hdown, hdown]
  | true => rw [releaseClick_of_down hmouse hdown]; rfl

theorem releaseClickInPlace_eq (hmouse : settings.useMouseOutput = true) :
    releaseClickInPlace env settings v m = releaseClick env settings v m := by
  cases hdown : m.clickDown with
  | false => rw [releaseClickInPlace, hdown, releaseClick_of_up hdown]; rfl
  | true => rw [releaseClickInPlace, hdown, releaseClick_of_down hmouse hdown]; rfl

theorem ClickKept.onePointableHoveringFrame (hmouse : settings.useMouseOutput = true)
    (h : ClickKept m) : ClickKept (onePointableHoveringFrame env settings v m).owner := by
  have hrefreshed : ClickKept (m.base (·.refreshFavoritePointableId v)) :=
    h.silent (silent_base (by simp))
  simp only [BasicMode.onePointableHoveringFrame, hmouse, if_true]
  split_ifs
  · exact hrefreshed
  · exact hrefreshed.pressButton
  · exact hrefreshed.silent
      ((silent_setAbsoluteCursorPositionPointable.trans silent_charms).trans silent_draw)

theorem ClickKept.clickCooldownFrame (hmouse : settings.useMouseOutput = true) (h : ClickKept m) :
    ClickKept (clickCooldownFrame env settings v m).owner := by
  simp only [BasicMode.clickCooldownFrame, holdClick, hmouse, if_true]
  split_ifs
  · exact h
  · exact h
  all_goals
    have hrefreshed : ClickKept ({ m with clickDuration := v.now - m.lastClickTime }.base
        (·.refreshFavoritePointableId v)) := h.silent ⟨rfl, rfl, by simp⟩
  · rw [releaseClickInPlace_eq hmouse]
    exact (hrefreshed.releaseClick hmouse).silent
      (silent_setAbsoluteCursorPositionPointable.trans silent_draw)
  · exact hrefreshed.silent silent_draw

/-- **Every handler call** keeps the members of the click. -/
theorem ClickKept.handler (hmouse : settings.useMouseOutput = true) (h : ClickKept m) (s : State)
    (input : StateMachineInput Input) : ClickKept (handlers env settings v s input m).owner := by
  by_cases hs : Clicking s
  · rcases hs with rfl | rfl
    · cases input with
      | enter =>
        have hreset : ClickKept ({ m with updateCursor := true }.base
            (·.resetFavoritePointableId v)) := h.silent ⟨rfl, rfl, rfl⟩
        exact hreset.onePointableHoveringFrame hmouse
      | exit => exact h
      | user i =>
        cases i with
        | processFrame => exact h.onePointableHoveringFrame hmouse
        | lostFocus => exact h
    · cases input with
      | enter => exact h.clickCooldownFrame hmouse
      | exit => exact (h.releaseClick hmouse).silent ⟨rfl, rfl, rfl⟩
      | user i =>
        cases i with
        | processFrame => exact h.clickCooldownFrame hmouse
        | lostFocus => exact h
  · exact h.silent (silent_handler hs input m)

/-! ### The age of a press -/

/-- A press that is held is at most 150 ms old. -/
def Timed (v : FrameState leap) (m : BasicMode leap) : Prop :=
  m.clickDown = true → v.now - m.lastClickTime ≤ 150 * MILLISECONDS

/-- In the transition loop a press can be older only where the cooldown state is about to be
left. -/
structure TimedInside (settings : Settings leap.Scalar) (v : FrameState leap) (s : State)
    (p : Option State) (m : BasicMode leap) : Prop where
  inside : Inside settings .idle s p m
  timed : Timed v m ∨ s = onePointableClickCooldown ∧ p ≠ none

/-- Between two states it cannot. -/
structure TimedBetween (settings : Settings leap.Scalar) (v : FrameState leap) (t : State)
    (m : BasicMode leap) : Prop where
  between : Between settings .idle t m
  timed : Timed v m

/-- A press of this frame is new. -/
theorem timed_onePointableHoveringFrame (hmouse : settings.useMouseOutput = true)
    (hup : m.clickDown = false) : Timed v (onePointableHoveringFrame env settings v m).owner := by
  have hcharms : ∀ n : BasicMode leap, (charms env v n).clickDown = n.clickDown :=
    fun n ↦ silent_charms.clickDown
  intro hdown
  simp only [onePointableHoveringFrame, hmouse, if_true] at hdown ⊢
  split_ifs at hdown ⊢
  · exact absurd (hup.symm.trans hdown) (by simp)
  · show v.now - v.now ≤ 150 * MILLISECONDS
    simp [MILLISECONDS]
  · simp only [owner_done, clickDown_base, hcharms] at hdown
    exact absurd (hup.symm.trans hdown) (by simp)

/-- The cooldown state keeps a press for 150 ms, unless it requests a transition. -/
theorem timed_clickCooldownFrame (hmouse : settings.useMouseOutput = true) :
    Timed v (clickCooldownFrame env settings v m).owner ∨
      netRequest (clickCooldownFrame env settings v m).requests ≠ none := by
  simp only [clickCooldownFrame, holdClick, hmouse, if_true]
  split_ifs with hgroup hzone hlong
  · exact .inr (by simp [transitionToNPointables])
  · exact .inr (by simp)
  · -- the press is too old, and has just been released
    left
    intro hdown
    rw [releaseClickInPlace_eq hmouse] at hdown
    exact absurd ((clickDown_releaseClick hmouse).symm.trans hdown) Bool.false_ne_true
  · exact .inl fun _ ↦ not_lt.1 hlong

/-- **What a handler call does to a held press**, be it the first call of a frame or an entry: `m`
may hold a press of any age in the cooldown state, but in no other. -/
theorem timed_call (hmouse : settings.useMouseOutput = true) {s : State}
    {input : StateMachineInput Input} (hinput : input = .user .processFrame ∨ input = .enter)
    (hup : s ≠ onePointableClickCooldown → m.clickDown = false)
    (hinside : Inside settings .idle s (netRequest (handlers env settings v s input m).requests)
      (handlers env settings v s input m).owner) :
    TimedInside settings v s (netRequest (handlers env settings v s input m).requests)
      (handlers env settings v s input m).owner := by
  refine ⟨hinside, ?_⟩
  by_cases hcooldown : s = onePointableClickCooldown
  · subst hcooldown
    rcases hinput with rfl | rfl
    · exact timed_clickCooldownFrame hmouse |>.imp id fun h ↦ ⟨rfl, h⟩
    · exact timed_clickCooldownFrame hmouse |>.imp id fun h ↦ ⟨rfl, h⟩
  · left
    by_cases hhovering : s = onePointableHovering
    · subst hhovering
      rcases hinput with rfl | rfl
      · exact timed_onePointableHoveringFrame hmouse (hup hcooldown)
      · exact timed_onePointableHoveringFrame hmouse (hup hcooldown)
    · -- no other state holds a press
      intro hdown
      rcases (hinside.held hdown).2 with h | ⟨h, -⟩
      · exact absurd h hcooldown
      · exact absurd h hhovering

/-- Leaving a state neither presses the button nor dates the press. -/
theorem exit_click (env : Environment leap) (v : FrameState leap) (m : BasicMode leap)
    (hmouse : settings.useMouseOutput = true) (s : State) :
    ((handlers env settings v s .exit m).owner.clickDown = true →
      s ≠ onePointableClickCooldown ∧ m.clickDown = true) ∧
    (s ≠ onePointableClickCooldown →
      (handlers env settings v s .exit m).owner.lastClickTime = m.lastClickTime) := by
  cases s with
  -- this state alone releases on `SM_EXIT`, and then nothing is held
  | onePointableClickCooldown =>
    refine ⟨fun hdown ↦ ?_, fun h ↦ absurd rfl h⟩
    exact absurd ((clickDown_releaseClick hmouse).symm.trans hdown) Bool.false_ne_true
  | twoPlusPointablesScrolling =>
    simp only [handlers, stateTwoPlusPointablesScrolling, hmouse, if_true]
    exact ⟨fun h ↦ ⟨by simp, h⟩, fun _ ↦ rfl⟩
  | _ => exact ⟨fun h ↦ ⟨by simp, h⟩, fun _ ↦ rfl⟩

/-- **The turns of the transition loop** keep the age of the press within bounds. -/
theorem timedTurns (env : Environment leap) (v : FrameState leap)
    (hmouse : settings.useMouseOutput = true) :
    StateMachine.Turns (handlers env settings v) (TimedInside settings v)
      (TimedBetween settings v) where
  neverTransitionsOnExit := neverTransitionsOnExit
  exit s t m h := by
    refine ⟨contract_exit s t m h.inside, fun hdown ↦ ?_⟩
    obtain ⟨hkeeps, htime⟩ := exit_click env v m hmouse s
    obtain ⟨hcooldown, hheld⟩ := hkeeps hdown
    rw [htime hcooldown]
    rcases h.timed with htimed | ⟨h, -⟩
    · exact htimed hheld
    · exact absurd h hcooldown
  enter t m h := timed_call hmouse (.inr rfl) h.between.up (contract_enter t m h.between)

/-! ### Whole runs -/

variable {fuel : ℕ} {o o' : Object leap}

theorem clickKept_construct (memory : BasicMode leap) : ClickKept (construct memory) :=
  ⟨clicksMatch_nil, rfl, le_refl _, by simp [construct], by simp [construct]⟩

/-- `ClickKept` as a contract: it holds at all times. -/
theorem clickContract (env : Environment leap) (hmouse : settings.useMouseOutput = true) :
    ModeObject.Contract (handlers env settings) (fun _ _ ↦ ClickKept) (fun _ ↦ ClickKept)
      ClickKept := fun _ ↦
  { neverTransitionsOnExit := neverTransitionsOnExit
    input := fun s i _ h ↦ h.handler hmouse s (.user i)
    exit := fun s _ _ h ↦ h.handler hmouse s .exit
    enter := fun t _ h ↦ h.handler hmouse t .enter
    final := fun s _ h ↦ h.handler hmouse s .exit }

/-- What holds of the click between two calls of the object. -/
structure Clicked (settings : Settings leap.Scalar) (o : Object leap) : Prop where
  kept : Kept settings .idle o
  click : ClickKept o.machine.owner
  held : o.machine.owner.clickDown = true →
    o.machine.currentState = some onePointableClickCooldown ∧
      o.frame.now - o.machine.owner.lastClickTime ≤ 150 * MILLISECONDS

theorem clicked_construct (settings : Settings leap.Scalar) (memory : BasicMode leap) :
    Clicked settings (Object.construct memory) where
  kept := kept_construct settings memory
  click := clickKept_construct memory
  held hdown := by simp [Object.construct, StateMachine.construct, construct] at hdown

/-- The button is held in the cooldown state only. -/
theorem TimedInside.held {s : State} (h : TimedInside settings v s none m)
    (hdown : m.clickDown = true) :
    s = onePointableClickCooldown ∧ v.now - m.lastClickTime ≤ 150 * MILLISECONDS := by
  refine ⟨?_, ?_⟩
  · simpa using (h.inside.held hdown).2
  · rcases h.timed with htimed | ⟨-, hnone⟩
    · exact htimed hdown
    · exact absurd rfl hnone

/-- What the contract of the clicks starts from. -/
theorem Clicked.keptClick (h : Clicked settings o) :
    o.machine.Kept (fun _ _ ↦ ClickKept) (fun _ ↦ ClickKept) noPointablesNoInteraction :=
  ⟨fun _ ↦ h.click, fun s hs ↦ ⟨(h.kept.inside s hs).1, h.click⟩⟩

/-- **A frame** leaves a held press that is at most 150 ms old, however old it was before. -/
theorem Clicked.processFrame (hmouse : settings.useMouseOutput = true) (h : Clicked settings o)
    {frame sinceFrame : leap.Frame}
    (hrun : processFrame env settings fuel o frame sinceFrame = some o') : Clicked settings o' := by
  have hclick : o'.Holds fun _ _ ↦ ClickKept :=
    holds_processFrame (clickContract env hmouse) (fun _ _ hm ↦ hm.silent (silent_base (by simp)))
      h.keptClick hrun
  obtain ⟨s, hs, hclick⟩ := hclick
  refine ⟨(h.kept.processFrame hrun).kept, hclick, fun hdown ↦ ?_⟩
  have hframe := turns_processFrame fuel (Q := fun _ ↦ True)
    (timedTurns env (shown o frame sinceFrame) hmouse) (fun _ _ _ _ ↦ trivial)
    (fun _ _ _ ↦ trivial)
    (fun hnone ↦ ⟨h.kept.start hnone, fun hdown ↦
      absurd ((h.kept.start hnone).held hdown).2 (by simp)⟩)
    (fun s m hs ↦ ⟨trivial, by
      -- the first call: the machine has been in its state before the frame, or has just entered it
      have hinside : Inside settings .idle s none m := by
        rcases hs with ⟨hs, rfl⟩ | hinside
        · exact (h.kept.inside s hs).2
        · exact hinside.inside
      exact timed_call hmouse (.inl rfl) hinside.up (contract_input s _ m hinside)⟩)
  obtain ⟨m, t, rfl, ht, hinside⟩ := hframe.2 o' hrun
  rw [sendTouches, if_pos hmouse] at hdown ⊢
  obtain ⟨rfl, htime⟩ := hinside.held hdown
  exact ⟨ht.current, htime⟩

/-- **A focus loss** leaves the cooldown state, so it releases the button. -/
theorem Clicked.stopActiveEvents (hmouse : settings.useMouseOutput = true) (h : Clicked settings o)
    (hrun : stopActiveEvents env settings fuel o = some o') : Clicked settings o' := by
  have hclick : o'.Holds fun _ _ ↦ ClickKept :=
    (clickContract env hmouse).runCurrentState h.keptClick hrun
  obtain ⟨s, hs, hclick⟩ := hclick
  refine ⟨(h.kept.stopActiveEvents hrun).kept, hclick, fun hdown ↦ ?_⟩
  obtain ⟨m₁, hinput, rfl⟩ := ModeObject.runCurrentState_some hrun
  obtain ⟨t, ht, hinside⟩ := (timedTurns env o.frame hmouse).runCurrentState (fun s hs ↦ by
    have hinside : Inside settings .idle s none o.machine.owner := (h.kept.inside s hs).2
    refine ⟨contract_input s _ _ hinside, ?_⟩
    by_cases hcooldown : s = onePointableClickCooldown
    · subst hcooldown
      exact .inr ⟨rfl, by simp [handlers, stateOnePointableClickCooldown]⟩
    · refine .inl fun hdown ↦ ?_
      rw [owner_lostFocus, hinside.up hcooldown] at hdown
      cases hdown) hinput
  obtain ⟨rfl, htime⟩ := hinside.held hdown
  exact ⟨ht.current, htime⟩

/-- The destructor keeps the clicks matched. -/
theorem Clicked.destruct (hmouse : settings.useMouseOutput = true) (h : Clicked settings o)
    (hrun : destruct env settings fuel o = some o') : ClickKept o'.machine.owner :=
  (clickContract env hmouse).shutdown h.keptClick (fun _ h ↦ h) hrun

/-- **The left button in a run**: `m_clickDown` is set exactly while the left button is down, and
then the state is the cooldown state and the press at most 150 ms older than the last frame. -/
theorem run_click (hmouse : settings.useMouseOutput = true) {memory : BasicMode leap}
    {calls : List (ModeCall leap)}
    (hrun : (methods env settings fuel).run (Object.construct memory) calls = some o) :
    (o.machine.owner.clickDown = true ↔ LeftButtonDown o.machine.owner.osCalls) ∧
      (o.machine.owner.clickDown = true →
        o.machine.currentState = some onePointableClickCooldown ∧
          o.frame.now - o.machine.owner.lastClickTime ≤ 150 * MILLISECONDS) := by
  have hclicked : Clicked settings o := ModeMethods.run_invariant (P := Clicked settings)
    (fun _ _ _ _ h hrun ↦ h.processFrame hmouse hrun)
    (fun _ _ h hrun ↦ h.stopActiveEvents hmouse hrun) (clicked_construct settings memory) hrun
  refine ⟨?_, hclicked.held⟩
  rw [LeftButtonDown, hclicked.click.openClick]
  split_ifs with hdown <;> simp [hdown]

/-- A finger that touches for four frames holds the button. -/
theorem run_click_finger :
    ∃ o, (methods (Environment.plain fingerLeap) (Settings.construct fingerLeap.Scalar true) 5).run
        (Object.construct (blank fingerLeap)) (fingerCalls 4 1) = some o ∧
      LeftButtonDown o.machine.owner.osCalls ∧
      o.machine.currentState = some onePointableClickCooldown ∧
      o.frame.now - o.machine.owner.lastClickTime ≤ 150 * MILLISECONDS := by
  have hheld : ((methods (Environment.plain fingerLeap)
      (Settings.construct fingerLeap.Scalar true) 5).run (Object.construct (blank fingerLeap))
        (fingerCalls 4 1)).map (·.machine.owner.clickDown) = some true := by decide +kernel
  obtain ⟨o, hrun, hdown⟩ := Option.map_eq_some_iff.1 hheld
  obtain ⟨hleft, hcooldown⟩ := run_click rfl hrun
  exact ⟨o, hrun, hleft.1 hdown, hcooldown hdown⟩

end

end BasicMode

end Touchless
