import Touchless.GestureInteraction.BasicModeContract
import Touchless.Utility.StateMachineCalls

/-!
# The handler calls of basic mode

The calls of the state handlers while an object processes a frame, loses the focus or is destroyed,
each with the members that the handler gets. Within a frame the last frame does not change, so what
the handlers do is a matter of the turns of the transition loop (`turns_processFrame`): what is
known before the first call is the state and what every frame keeps.
-/

namespace Touchless

namespace BasicMode

open State

variable {leap : Leap}

section Calls

variable (env : Environment leap) (settings : Settings leap.Scalar) (fuel : ℕ) (o : Object leap)

/-- The members that `processFrame` sets for a frame. -/
def shown (frame sinceFrame : leap.Frame) : FrameState leap :=
  o.frame.processFrame (overrides leap) frame sinceFrame

/-- The handler calls of `processFrame`. -/
def frameCalls (frame sinceFrame : leap.Frame) : List (HandlerCall State Input (BasicMode leap)) :=
  StateMachine.startCalls (handlers env settings (shown o frame sinceFrame)) fuel o.machine
    noPointablesNoInteraction .processFrame

/-- The handler calls of `stopActiveEvents`. -/
def stopCalls : List (HandlerCall State Input (BasicMode leap)) :=
  StateMachine.inputCalls (handlers env settings o.frame) fuel o.machine .lostFocus

/-- The handler calls of the destructor. -/
def destructCalls : List (HandlerCall State Input (BasicMode leap)) :=
  StateMachine.exitCalls (handlers env settings o.frame) fuel o.machine

end Calls

variable {env : Environment leap} {settings : Settings leap.Scalar} {fuel : ℕ} {o o' : Object leap}

/-- A focus loss changes nothing but the state. -/
theorem owner_lostFocus {v : FrameState leap} {s : State} {m : BasicMode leap} :
    (handlers env settings v s (.user .lostFocus) m).owner = m := by
  cases s <;> rfl

/-- **The rule for a frame**: what its first handler call establishes and the turns of the
transition loop keep holds at every call, and in the end. -/
theorem turns_processFrame (fuel : ℕ) {In : State → Option State → BasicMode leap → Prop}
    {Enters : State → BasicMode leap → Prop} {Q : HandlerCall State Input (BasicMode leap) → Prop}
    {frame sinceFrame : leap.Frame}
    (hturns : StateMachine.Turns (handlers env settings (shown o frame sinceFrame)) In Enters)
    (hexits : ∀ s t m, In s (some t) m → Q ⟨s, .exit, m⟩)
    (henters : ∀ t m, Enters t m → Q ⟨t, .enter, m⟩)
    (hbetween : o.machine.currentState = none → Enters noPointablesNoInteraction o.machine.owner)
    (hfirst : ∀ s m, o.machine.currentState = some s ∧ o.machine.owner = m ∨ In s none m →
      Q ⟨s, .user .processFrame, m⟩ ∧
        In s (netRequest (handlers env settings (shown o frame sinceFrame) s
            (.user .processFrame) m).requests)
          (handlers env settings (shown o frame sinceFrame) s (.user .processFrame) m).owner) :
    (∀ call ∈ frameCalls env settings fuel o frame sinceFrame, Q call) ∧
      ∀ o', processFrame env settings fuel o frame sinceFrame = some o' →
        ∃ m s, o' = sendTouches settings ⟨shown o frame sinceFrame, m⟩ ∧ m.InState s ∧
          In s none m.owner := by
  obtain ⟨hcalls, hend⟩ :=
    hturns.start fuel noPointablesNoInteraction hexits henters hbetween hfirst
  refine ⟨hcalls, fun o' hrun ↦ ?_⟩
  obtain ⟨o₁, o₂, hinit, hinput, rfl⟩ := processFrame_some hrun
  obtain ⟨m₁, hentered, rfl⟩ := ModeObject.ensureInitialized_some hinit
  obtain ⟨m₂, hran, rfl⟩ := ModeObject.runCurrentState_some hinput
  obtain ⟨s, hs, hinside⟩ := hend m₁ m₂ hentered hran
  exact ⟨m₂, s, rfl, hs, hinside⟩

end BasicMode

end Touchless
