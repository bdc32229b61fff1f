import Touchless.GestureInteraction.GestureInteractionManager
import Touchless.Utility.StateMachineContract

/-!
# Mode objects

An object of a mode class: the members that `processFrame` sets, and the state machine with the
members that the state handlers write. The handlers of a mode depend on the former, so a mode is a
family of handlers over `FrameState`. The calls from outside are those of the listener: a frame, the
loss of the focus, and the destructor.

What all modes have in common is here: how the state machine is called, what the calls keep and that
they return, how a mode goes to rest, and the shapes of a handler's result.
-/

namespace Touchless

/-- A handler that has handled its input and stays. -/
def done {S σ : Type} (m : σ) : HandlerResult S σ := ⟨m, [], true⟩

/-- A handler that has called `SetNextState` once. -/
def goTo {S σ : Type} (s : S) (m : σ) : HandlerResult S σ := ⟨m, [some s], true⟩

/-- A handler without a case for its input. -/
def unhandled {S σ : Type} (m : σ) : HandlerResult S σ := ⟨m, [], false⟩

section

variable {S σ : Type} (s : S) (m : σ)

@[simp] theorem owner_done : (done m : HandlerResult S σ).owner = m := rfl
@[simp] theorem requests_done : (done m : HandlerResult S σ).requests = [] := rfl
@[simp] theorem owner_goTo : (goTo s m).owner = m := rfl
@[simp] theorem requests_goTo : (goTo s m).requests = [some s] := rfl
@[simp] theorem owner_unhandled : (unhandled m : HandlerResult S σ).owner = m := rfl
@[simp] theorem requests_unhandled : (unhandled m : HandlerResult S σ).requests = [] := rfl

@[simp] theorem netRequest_singleton (r : Option S) : netRequest [r] = r := rfl

end

/-- The members of a mode object. -/
structure ModeObject (leap : Leap) (S ι σ : Type) where
  frame : FrameState leap
  machine : StateMachine S ι σ

/-- An object in the no-interaction state of its mode, with no button down and no gesture open. -/
structure ModeObject.AtRest {leap : Leap} {S ι σ : Type} (o : ModeObject leap S ι σ)
    (log : σ → List (OSCall leap.Scalar)) (noInteraction : S) : Prop where
  state : o.machine.currentState = some noInteraction
  released : DriverStatus.track .idle (log o.machine.owner) = some .idle

namespace ModeObject

variable {leap : Leap} {S ι σ : Type}

section Operations

variable (handlers : FrameState leap → Handlers S ι σ) (fuel : ℕ) (o : ModeObject leap S ι σ)

/-- `if (!m_stateMachine.IsInitialized()) m_stateMachine.Initialize(this, first)`. -/
def ensureInitialized (first : S) : Option (ModeObject leap S ι σ) := do
  let m ← o.machine.ensureInitialized (handlers o.frame) fuel first
  return { o with machine := m }

/-- `m_stateMachine.RunCurrentState(input)`. -/
def runCurrentState (input : ι) : Option (ModeObject leap S ι σ) := do
  let m ← o.machine.runCurrentState true (handlers o.frame) fuel input
  return { o with machine := m }

/-- `m_stateMachine.RunCurrentState(input)` where there is an input. -/
def runInput : Option ι → Option (ModeObject leap S ι σ)
  | some input => runCurrentState handlers fuel o input
  | none => some o

/-- What the mode does to its members between the calls of the machine. -/
def mapOwner {leap : Leap} {S ι σ : Type} (o : ModeObject leap S ι σ) (f : σ → σ) :
    ModeObject leap S ι σ :=
  { o with machine := { o.machine with owner := f o.machine.owner } }

/-- `m_stateMachine.Shutdown()`. -/
def shutdown : Option (ModeObject leap S ι σ) := do
  let m ← o.machine.shutdown true (handlers o.frame) fuel
  return { o with machine := m }

end Operations

variable {handlers : FrameState leap → Handlers S ι σ} {fuel : ℕ} {o o' : ModeObject leap S ι σ}
  {first : S} {i : ι}

theorem ensureInitialized_some (h : o.ensureInitialized handlers fuel first = some o') :
    ∃ m, o.machine.ensureInitialized (handlers o.frame) fuel first = some m ∧
      o' = { o with machine := m } := by
  simp only [ensureInitialized, Option.bind_eq_bind, Option.bind_eq_some_iff, Option.pure_def,
    Option.some.injEq] at h
  obtain ⟨m, hm, rfl⟩ := h
  exact ⟨m, hm, rfl⟩

theorem runCurrentState_some (h : o.runCurrentState handlers fuel i = some o') :
    ∃ m, o.machine.runCurrentState true (handlers o.frame) fuel i = some m ∧
      o' = { o with machine := m } := by
  simp only [runCurrentState, Option.bind_eq_bind, Option.bind_eq_some_iff, Option.pure_def,
    Option.some.injEq] at h
  obtain ⟨m, hm, rfl⟩ := h
  exact ⟨m, hm, rfl⟩

theorem shutdown_some (h : o.shutdown handlers fuel = some o') :
    ∃ m, o.machine.shutdown true (handlers o.frame) fuel = some m ∧
      o' = { o with machine := m } := by
  simp only [shutdown, Option.bind_eq_bind, Option.bind_eq_some_iff, Option.pure_def,
    Option.some.injEq] at h
  obtain ⟨m, hm, rfl⟩ := h
  exact ⟨m, hm, rfl⟩

/-- The machine does not touch the members that `processFrame` sets. -/
theorem frame_runCurrentState (h : o.runCurrentState handlers fuel i = some o') :
    o'.frame = o.frame := by
  obtain ⟨m, -, rfl⟩ := runCurrentState_some h
  rfl

theorem frame_ensureInitialized (h : o.ensureInitialized handlers fuel first = some o') :
    o'.frame = o.frame := by
  obtain ⟨m, -, rfl⟩ := ensureInitialized_some h
  rfl

/-! ### Contracts at the level of the object -/

section Contract

variable {Inside : S → Option S → σ → Prop} {Between : S → σ → Prop} {Final : σ → Prop}

/-- A contract that the handlers keep whatever the last frame was. -/
abbrev Contract (handlers : FrameState leap → Handlers S ι σ) (Inside : S → Option S → σ → Prop)
    (Between : S → σ → Prop) (Final : σ → Prop) : Prop :=
  ∀ v, StateMachine.Contract (handlers v) Inside Between Final

/-- The object is in a state, and the contract holds there. -/
def Holds (Inside : S → Option S → σ → Prop) (o : ModeObject leap S ι σ) : Prop :=
  ∃ s, o.machine.InState s ∧ Inside s none o.machine.owner

theorem Holds.kept (h : o.Holds Inside) : o.machine.Kept Inside Between first := by
  obtain ⟨s, hs, hinside⟩ := h
  exact .of_inState hs hinside

theorem Holds.started (h : o.Holds Inside) : o.machine.currentState ≠ none := by
  obtain ⟨s, hs, -⟩ := h
  rw [hs.current]
  exact Option.some_ne_none s

/-- What the mode does between the calls of the machine must keep the contract too. -/
theorem Holds.mapOwner {f : σ → σ} (h : o.Holds Inside)
    (hf : ∀ s m, Inside s none m → Inside s none (f m)) : (o.mapOwner f).Holds Inside := by
  obtain ⟨s, hs, hinside⟩ := h
  exact ⟨s, ⟨hs.current, hs.next, hs.idle⟩, hf s _ hinside⟩

/-- It may also lead from one contract to another. -/
theorem kept_mapOwner {Inside' : S → Option S → σ → Prop} {Between' : S → σ → Prop} {f : σ → σ}
    (h : o.machine.Kept Inside Between first)
    (hstart : o.machine.currentState = none → Between first o.machine.owner →
      Between' first (f o.machine.owner))
    (hinside : ∀ s, o.machine.currentState = some s → Inside s none o.machine.owner →
      Inside' s none (f o.machine.owner)) :
    (o.mapOwner f).machine.Kept Inside' Between' first where
  start hnone := hstart hnone (h.start hnone)
  inside s hs :=
    have hkept := h.inside s hs
    ⟨⟨hkept.1.current, hkept.1.next, hkept.1.idle⟩, hinside s hs hkept.2⟩

theorem Contract.ensureInitialized (h : Contract handlers Inside Between Final)
    (hkept : o.machine.Kept Inside Between first)
    (hrun : o.ensureInitialized handlers fuel first = some o') : o'.Holds Inside := by
  obtain ⟨m, hm, rfl⟩ := ensureInitialized_some hrun
  exact (h _).ensureInitialized hkept hm

theorem Contract.runCurrentState (h : Contract handlers Inside Between Final)
    (hkept : o.machine.Kept Inside Between first)
    (hrun : o.runCurrentState handlers fuel i = some o') : o'.Holds Inside := by
  obtain ⟨m, hm, rfl⟩ := runCurrentState_some hrun
  exact (h _).runCurrentState_of_kept hkept hm

theorem Contract.runInput {input : Option ι} (h : Contract handlers Inside Between Final)
    (hholds : o.Holds Inside) (hrun : o.runInput handlers fuel input = some o') :
    o'.Holds Inside := by
  cases input with
  | none =>
    obtain rfl : o = o' := Option.some.inj hrun
    exact hholds
  | some i =>
    obtain ⟨m, hm, rfl⟩ := runCurrentState_some hrun
    obtain ⟨s, hs, hinside⟩ := hholds
    exact (h _).runCurrentState hs.current hinside hm

theorem Contract.shutdown (h : Contract handlers Inside Between Final)
    (hkept : o.machine.Kept Inside Between first) (hfirst : ∀ m, Between first m → Final m)
    (hrun : o.shutdown handlers fuel = some o') : Final o'.machine.owner := by
  obtain ⟨m, hm, rfl⟩ := shutdown_some hrun
  exact (h _).shutdown_of_kept hkept hfirst hm

end Contract

/-! ### Returning -/

/-- The handlers lower a rank on `SM_ENTER`, whatever the last frame was, and the fuel is above
it. -/
structure Terminates (handlers : FrameState leap → Handlers S ι σ) (fuel : ℕ) : Prop where
  neverTransitionsOnExit : ∀ v, StateMachine.NeverTransitionsOnExit (handlers v)
  lowers : ∀ v, ∃ rank : S → ℕ, StateMachine.Lowers (handlers v) rank ∧ ∀ s, rank s < fuel

theorem Terminates.ensureInitialized (h : Terminates handlers fuel) (o : ModeObject leap S ι σ)
    (first : S) : ∃ o', o.ensureInitialized handlers fuel first = some o' := by
  obtain ⟨rank, hrank, hfuel⟩ := h.lowers o.frame
  obtain ⟨m, hm⟩ := StateMachine.ensureInitialized_returns (h.neverTransitionsOnExit _) hrank hfuel
    o.machine first
  exact ⟨⟨o.frame, m⟩, by simp [ModeObject.ensureInitialized, hm]⟩

theorem Terminates.runCurrentState (h : Terminates handlers fuel)
    (hstarted : o.machine.currentState ≠ none) (i : ι) :
    ∃ o', o.runCurrentState handlers fuel i = some o' := by
  obtain ⟨rank, hrank, hfuel⟩ := h.lowers o.frame
  obtain ⟨s, hs⟩ := Option.ne_none_iff_exists'.1 hstarted
  obtain ⟨m, hm⟩ :=
    StateMachine.runCurrentState_returns (h.neverTransitionsOnExit _) hrank hs hfuel i
  exact ⟨⟨o.frame, m⟩, by simp [ModeObject.runCurrentState, hm]⟩

theorem Terminates.runInput (h : Terminates handlers fuel)
    (hstarted : o.machine.currentState ≠ none) (input : Option ι) :
    ∃ o', o.runInput handlers fuel input = some o' := by
  cases input with
  | none => exact ⟨o, rfl⟩
  | some i => exact h.runCurrentState hstarted i

/-- The destructor calls one handler only. -/
theorem shutdown_returns (hexit : ∀ v, StateMachine.NeverTransitionsOnExit (handlers v)) (fuel : ℕ)
    (o : ModeObject leap S ι σ) : ∃ o', o.shutdown handlers fuel = some o' := by
  obtain ⟨m, hm⟩ := StateMachine.shutdown_returns (hexit o.frame) fuel o.machine
  exact ⟨⟨o.frame, m⟩, by simp [ModeObject.shutdown, hm]⟩

/-! ### The gate to the no-interaction state -/

/-- How a mode goes to rest: losing the focus requests the state `rest`, which is left again while
`guard` holds of the last frame. -/
structure Gate (handlers : FrameState leap → Handlers S ι σ) (rest : S) (lostFocus : ι)
    (guard : FrameState leap → Bool) : Prop where
  neverTransitionsOnExit : ∀ v, StateMachine.NeverTransitionsOnExit (handlers v)
  enter : ∀ v m, netRequest (handlers v rest .enter m).requests = none ↔ guard v = false
  stays : ∀ v m, netRequest (handlers v rest (.user lostFocus) m).requests = none
  leaves : ∀ v s m, s ≠ rest → netRequest (handlers v s (.user lostFocus) m).requests = some rest

/-- Where the guard holds of the last frame, the machine is not at rest. -/
def Rests (rest : S) (guard : FrameState leap → Bool) (o : ModeObject leap S ι σ) : Prop :=
  o.machine.currentState = some rest → guard o.frame = false

section Gate

variable {rest : S} {lostFocus : ι} {guard : FrameState leap → Bool}

/-- An input that `rest` does not ignore while the guard holds leads out of it. -/
theorem Gate.rests_runCurrentState (h : Gate handlers rest lostFocus guard)
    (hinput : ∀ v m, guard v = true → netRequest (handlers v rest (.user i) m).requests ≠ none)
    (hrun : o.runCurrentState handlers fuel i = some o') : o'.Rests rest guard := by
  obtain ⟨m, hm, rfl⟩ := runCurrentState_some hrun
  intro hcur
  by_contra hguard
  rw [Bool.not_eq_false] at hguard
  have henter : ∀ owner, netRequest (handlers o.frame rest .enter owner).requests ≠ none :=
    fun owner hnone ↦ by simp [(h.enter _ _).1 hnone] at hguard
  exact StateMachine.runCurrentState_leaves (h.neverTransitionsOnExit _) henter
    (fun _ ↦ hinput _ _ hguard) hm hcur

/-- The loss of the focus keeps the machine out of rest where it should be. -/
theorem Gate.rests_lostFocus (h : Gate handlers rest lostFocus guard) (hrests : o.Rests rest guard)
    (hrun : o.runCurrentState handlers fuel lostFocus = some o') : o'.Rests rest guard := by
  obtain ⟨m, hm, rfl⟩ := runCurrentState_some hrun
  intro hcur
  by_contra hguard
  rw [Bool.not_eq_false] at hguard
  have henter : ∀ owner, netRequest (handlers o.frame rest .enter owner).requests ≠ none :=
    fun owner hnone ↦ by simp [(h.enter _ _).1 hnone] at hguard
  refine StateMachine.runCurrentState_leaves (h.neverTransitionsOnExit _) henter
    (fun hsame ↦ ?_) hm hcur
  exact absurd ((hrests hsame).symm.trans hguard) (by simp)

/-- **Losing the focus** leads to rest exactly where the guard does not hold of the last frame. -/
theorem Gate.lostFocus_iff (h : Gate handlers rest lostFocus guard) (hrests : o.Rests rest guard)
    (hrun : o.runCurrentState handlers fuel lostFocus = some o') :
    o'.machine.currentState = some rest ↔ guard o.frame = false := by
  constructor
  · intro hcur
    rw [← frame_runCurrentState hrun]
    exact h.rests_lostFocus hrests hrun hcur
  · intro hguard
    obtain ⟨m, hm, rfl⟩ := runCurrentState_some hrun
    exact (StateMachine.runCurrentState_reaches (h.neverTransitionsOnExit _)
      (fun owner ↦ (h.enter _ owner).2 hguard) (fun _ ↦ h.stays _ _)
      (fun s _ hs ↦ h.leaves _ s _ hs) hm).current

/-- `Initialize` where needed, on a frame that leaves the machine at rest. -/
theorem Gate.ensureInitialized (h : Gate handlers rest lostFocus guard) (fuel : ℕ)
    (hguard : guard o.frame = false) :
    ∃ o₁, o.ensureInitialized handlers fuel rest = some o₁ ∧ o₁.frame = o.frame ∧
      ∃ s, o₁.machine.currentState = some s ∧ (o.machine.currentState = some s ∨ s = rest) := by
  cases hcur : o.machine.currentState with
  | none =>
    obtain ⟨m, hrun, hm⟩ : ∃ m, o.machine.initializeWith true (handlers o.frame) fuel (some rest) =
        some m ∧ m.InState rest :=
      StateMachine.initializeWith_stays fun owner ↦ (h.enter o.frame owner).2 hguard
    refine ⟨⟨o.frame, m⟩, ?_, rfl, rest, hm.current, .inr rfl⟩
    simp [ModeObject.ensureInitialized, StateMachine.ensureInitialized, hcur, hrun]
  | some s =>
    refine ⟨o, ?_, rfl, s, hcur, .inl rfl⟩
    simp [ModeObject.ensureInitialized, StateMachine.ensureInitialized, hcur]

/-- **An input that sends every state to rest**, where the machine stays. -/
theorem Gate.reaches_rest (h : Gate handlers rest lostFocus guard) (hfuel : 0 < fuel)
    (hguard : guard o.frame = false)
    (hstays : ∀ m, netRequest (handlers o.frame rest (.user i) m).requests = none)
    (hleaves : ∀ s m, o.machine.currentState = some s → s ≠ rest →
      netRequest (handlers o.frame s (.user i) m).requests = some rest) :
    ∃ o₁ o', o.ensureInitialized handlers fuel rest = some o₁ ∧
      o₁.runCurrentState handlers fuel i = some o' ∧ o'.machine.currentState = some rest := by
  obtain ⟨o₁, hinit, hframe, s, hs, hfrom⟩ := h.ensureInitialized fuel hguard
  refine ⟨o₁, ?_⟩
  by_cases hrest : s = rest
  · subst hrest
    obtain ⟨m, hm, hstate, -⟩ : ∃ m, o₁.machine.runCurrentState true (handlers o.frame) fuel i =
        some m ∧ m.InState s ∧ _ := StateMachine.runCurrentState_stays hs (hstays o₁.machine.owner)
    exact ⟨⟨o₁.frame, m⟩, hinit, by simp [ModeObject.runCurrentState, hframe, hm], hstate.current⟩
  · have hcur : o.machine.currentState = some s := hfrom.resolve_right hrest
    obtain ⟨m, hm, hstate⟩ := StateMachine.runCurrentState_direct (h.neverTransitionsOnExit o.frame)
      hs (hleaves s o₁.machine.owner hcur hrest) (fun owner ↦ (h.enter _ owner).2 hguard) hfuel
    exact ⟨⟨o₁.frame, m⟩, hinit, by simp [ModeObject.runCurrentState, hframe, hm], hstate.current⟩

end Gate

end ModeObject

/-- The calls a mode object gets before its destructor. -/
inductive ModeCall (leap : Leap) where
  | processFrame (frame sinceFrame : leap.Frame)
  | stopActiveEvents

/-- The methods that the listener calls on a mode object. -/
structure ModeMethods (leap : Leap) (Object : Type) where
  processFrame : Object → leap.Frame → leap.Frame → Option Object
  stopActiveEvents : Object → Option Object
  destruct : Object → Option Object

namespace ModeMethods

variable {leap : Leap} {Object : Type} (methods : ModeMethods leap Object)

/-- One call. -/
def exec (o : Object) : ModeCall leap → Option Object
  | .processFrame frame sinceFrame => methods.processFrame o frame sinceFrame
  | .stopActiveEvents => methods.stopActiveEvents o

/-- A sequence of calls. -/
def run (o : Object) (calls : List (ModeCall leap)) : Option Object :=
  calls.foldlM methods.exec o

variable {methods} {o o' : Object} {calls : List (ModeCall leap)}

/-- **What every call keeps** holds after a sequence of calls. -/
theorem run_invariant {P : Object → Prop}
    (hframe : ∀ o frame sinceFrame o', P o →
      methods.processFrame o frame sinceFrame = some o' → P o')
    (hstop : ∀ o o', P o → methods.stopActiveEvents o = some o' → P o')
    (ho : P o) (hrun : methods.run o calls = some o') : P o' := by
  refine PartialRun.foldlM_invariant (P := fun _ o ↦ P o) ho (fun _ o call o' _ hP hstep ↦ ?_) hrun
  cases call with
  | processFrame frame sinceFrame => exact hframe o frame sinceFrame o' hP hstep
  | stopActiveEvents => exact hstop o o' hP hstep

/-- Every call of a sequence meets a condition on it and on the object it is made on. -/
def Meets (methods : ModeMethods leap Object) (condition : Object → ModeCall leap → Prop) :
    Object → List (ModeCall leap) → Prop
  | _, [] => True
  | o, call :: calls => condition o call ∧
      ∀ o', methods.exec o call = some o' → Meets methods condition o' calls

/-- Where the condition can be tested on an object, it can be tested along a run. -/
instance decidableMeets {condition : Object → ModeCall leap → Prop}
    [∀ o call, Decidable (condition o call)] :
    ∀ o calls, Decidable (methods.Meets condition o calls)
  | _, [] => .isTrue trivial
  | o, call :: calls =>
    match h : methods.exec o call with
    | none => decidable_of_iff (condition o call) (by simp [Meets, h])
    | some o' =>
      have : Decidable (methods.Meets condition o' calls) := decidableMeets o' calls
      decidable_of_iff (condition o call ∧ methods.Meets condition o' calls) (by simp [Meets, h])

/-- A condition that holds wherever a run may lead is met by every run. -/
theorem meets_of_invariant {I : Object → Prop} {condition : Object → ModeCall leap → Prop}
    (hstep : ∀ o call o', I o → methods.exec o call = some o' → I o')
    (hcondition : ∀ o call, I o → condition o call) (ho : I o) :
    methods.Meets condition o calls := by
  induction calls generalizing o with
  | nil => trivial
  | cons call calls ih =>
    exact ⟨hcondition o call ho, fun o' hexec ↦ ih (hstep o call o' ho hexec)⟩

/-- Conditions that agree wherever a run may lead are met by the same runs. -/
theorem meets_iff {I : Object → Prop} {first second : Object → ModeCall leap → Prop}
    (hstep : ∀ o call o', I o → methods.exec o call = some o' → I o')
    (hiff : ∀ o call, I o → (first o call ↔ second o call)) (ho : I o) :
    methods.Meets first o calls ↔ methods.Meets second o calls := by
  induction calls generalizing o with
  | nil => exact Iff.rfl
  | cons call calls ih =>
    exact and_congr (hiff o call ho) (forall_congr' fun o' ↦
      forall_congr' fun hexec ↦ ih (hstep o call o' ho hexec))

/-- So are conditions that agree everywhere. -/
theorem meets_congr {first second : Object → ModeCall leap → Prop}
    (hiff : ∀ o call, first o call ↔ second o call) :
    methods.Meets first o calls ↔ methods.Meets second o calls :=
  meets_iff (I := fun _ ↦ True) (fun _ _ _ _ _ ↦ trivial) (fun o call _ ↦ hiff o call) trivial

/-- **What a call keeps that meets a condition** holds after a sequence of such calls. -/
theorem run_invariant_of_meets {P : Object → Prop} {condition : Object → ModeCall leap → Prop}
    (hstep : ∀ o call o', P o → condition o call → methods.exec o call = some o' → P o')
    (ho : P o) (hmeets : methods.Meets condition o calls) (hrun : methods.run o calls = some o') :
    P o' := by
  induction calls generalizing o with
  | nil =>
    obtain rfl := Option.some.inj hrun
    exact ho
  | cons call calls ih =>
    rw [run, List.foldlM_cons, Option.bind_eq_bind, Option.bind_eq_some_iff] at hrun
    obtain ⟨middle, hexec, hrest⟩ := hrun
    exact ih (hstep o call middle ho hmeets.1 hexec) (hmeets.2 middle hexec) hrest

/-- **A sequence of calls that begins with a frame returns** when frames return, and focus losses do
once there has been a frame. -/
theorem run_returns {Kept Holds : Object → Prop} (hkept : ∀ o, Holds o → Kept o)
    (hframe : ∀ o frame sinceFrame, Kept o →
      ∃ o', methods.processFrame o frame sinceFrame = some o' ∧ Holds o')
    (hstop : ∀ o, Holds o → ∃ o', methods.stopActiveEvents o = some o' ∧ Holds o')
    (ho : Kept o) (hcalls : calls.head? ≠ some .stopActiveEvents) :
    ∃ o', methods.run o calls = some o' := by
  cases calls with
  | nil => exact ⟨o, rfl⟩
  | cons call calls =>
    cases call with
    | stopActiveEvents => exact absurd rfl hcalls
    | processFrame frame sinceFrame =>
      obtain ⟨o₁, hfirst, hholds⟩ := hframe o frame sinceFrame ho
      have hexec : ∀ o, ∀ call ∈ calls, Holds o →
          ∃ o', methods.exec o call = some o' ∧ Holds o' := fun o call _ h ↦ by
        cases call with
        | processFrame frame sinceFrame => exact hframe o frame sinceFrame (hkept o h)
        | stopActiveEvents => exact hstop o h
      obtain ⟨o', hrest, -⟩ := PartialRun.foldlM_isSome hholds hexec
      refine ⟨o', ?_⟩
      rw [run, List.foldlM_cons, exec, hfirst]
      exact hrest

end ModeMethods

/-- Frames at 15 a second with some fingers in them, all of which touch. -/
def fingerCalls (frames fingers : ℕ) : List (ModeCall fingerLeap) :=
  (List.range frames).map fun number ↦
    .processFrame (fingerFrame (number + 1) fingers) (fingerFrame number fingers)

/-- Frames of a period in microseconds, with numbers of fingers that change. -/
def fingerSteps (period : ℤ) (fingers : List ℕ) : List (ModeCall fingerLeap) :=
  (fingers.zip (0 :: fingers)).zipIdx.map fun step ↦
    .processFrame (period * (step.2 + 1), step.1.1) (period * step.2, step.1.2)

end Touchless
