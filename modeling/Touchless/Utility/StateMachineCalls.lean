import Touchless.Utility.StateMachineContract

/-!
# The handler calls of an input

A handler is called with the owner as the calls before it have left it. `inputCalls` lists the calls
of one `RunCurrentState` with these owners, and `enterCalls` and `exitCalls` those of `Initialize`
and `Shutdown`. The log of the machine is what is left when the owners are forgotten
(`invocations_input`).

What the handlers demand of their owner, such as an assertion, is then said of every call of the
list. `Turns` is the part of a contract that concerns the transition loop, where the handlers do not
change: what it keeps from the first call on holds of the owner of every later call
(`Turns.forall_loopCalls`).
-/

namespace Touchless

/-- A handler call, with the owner it got. -/
structure HandlerCall (S ι σ : Type) where
  state : S
  input : StateMachineInput ι
  owner : σ

namespace StateMachine

variable {S ι σ : Type}

/-- What the log keeps of a call. -/
def logEntry (handlers : Handlers S ι σ) (call : HandlerCall S ι σ) : Invocation S ι :=
  ⟨call.state, call.input, (handlers call.state call.input call.owner).requests⟩

section Lists

variable (handlers : Handlers S ι σ) (fuel : ℕ) (m : StateMachine S ι σ)

/-- The calls of the transition loop: an exit and an entry each turn. -/
def loopCalls : ℕ → StateMachine S ι σ → List (HandlerCall S ι σ)
  | 0, _ => []
  | fuel + 1, m =>
    match m.currentState, m.nextState with
    | some s, some t =>
      ⟨s, .exit, m.owner⟩ :: ⟨t, .enter, (handlers s .exit m.owner).owner⟩ ::
        loopCalls fuel (afterTransition handlers { m with nextState := none } s t)
    | _, _ => []

/-- The calls of `RunCurrentStatePrivate`. -/
def privateCalls (input : StateMachineInput ι) : List (HandlerCall S ι σ) :=
  match m.currentState with
  | none => []
  | some s => ⟨s, input, m.owner⟩ ::
      loopCalls handlers fuel (afterCall handlers { m with nextState := none } s input)

/-- The calls of `RunCurrentState`. -/
def inputCalls (i : ι) : List (HandlerCall S ι σ) := privateCalls handlers fuel m (.user i)

/-- The calls of `if (!IsInitialized()) Initialize(state)`. -/
def enterCalls (state : S) : List (HandlerCall S ι σ) :=
  if m.currentState.isNone then
    privateCalls handlers fuel { m with currentState := some state } .enter
  else []

/-- The calls of an initialization, where there is one, and of an input. -/
def startCalls (first : S) (i : ι) : List (HandlerCall S ι σ) :=
  enterCalls handlers fuel m first ++
    ((m.ensureInitialized handlers fuel first).elim [] fun m ↦ inputCalls handlers fuel m i)

/-- The calls of `Shutdown`. -/
def exitCalls : List (HandlerCall S ι σ) := privateCalls handlers fuel m .exit

end Lists

variable {handlers : Handlers S ι σ} {fuel : ℕ} {m m' : StateMachine S ι σ}

theorem loopCalls_succ {s t : S} (hcur : m.currentState = some s) (hnext : m.nextState = some t) :
    loopCalls handlers (fuel + 1) m =
      ⟨s, .exit, m.owner⟩ :: ⟨t, .enter, (handlers s .exit m.owner).owner⟩ ::
        loopCalls handlers fuel (afterTransition handlers { m with nextState := none } s t) := by
  rw [loopCalls, hcur, hnext]

theorem loopCalls_of_none (hnext : m.nextState = none) : loopCalls handlers fuel m = [] := by
  cases fuel with
  | zero => rfl
  | succ fuel => simp [loopCalls, hnext]

theorem privateCalls_eq {s : S} (hcur : m.currentState = some s) (input : StateMachineInput ι) :
    privateCalls handlers fuel m input =
      ⟨s, input, m.owner⟩ ::
        loopCalls handlers fuel (afterCall handlers { m with nextState := none } s input) := by
  rw [privateCalls, hcur]

/-! ### The log -/

theorem invocations_transitionLoop (hexit : NeverTransitionsOnExit handlers) {s : S}
    (hcur : m.currentState = some s) (hrun : transitionLoop true handlers fuel m = some m') :
    m'.invocations = m.invocations ++ (loopCalls handlers fuel m).map (logEntry handlers) := by
  induction fuel generalizing m s with
  | zero =>
    cases hnext : m.nextState with
    | none =>
      rw [transitionLoop_of_none hnext] at hrun
      obtain rfl := Option.some.inj hrun
      simp [loopCalls]
    | some t => simp [transitionLoop, hnext] at hrun
  | succ fuel ih =>
    cases hnext : m.nextState with
    | none =>
      rw [transitionLoop_of_none hnext] at hrun
      obtain rfl := Option.some.inj hrun
      simp [loopCalls, hnext]
    | some t =>
      rw [transitionLoop_succ hexit hcur hnext] at hrun
      rw [ih rfl hrun]
      simp [loopCalls, hcur, hnext, afterTransition, afterCall, logEntry]

/-- **The log** of an input is the list of its calls without the owners. -/
theorem invocations_input (hexit : NeverTransitionsOnExit handlers) {i : ι}
    (hrun : m.runCurrentState true handlers fuel i = some m') :
    m'.invocations = m.invocations ++ (inputCalls handlers fuel m i).map (logEntry handlers) := by
  obtain ⟨s, hs, hloop⟩ := runCurrentStatePrivate_some hrun
  rw [invocations_transitionLoop hexit (by exact hs) hloop]
  simp [inputCalls, privateCalls_eq hs, afterCall, logEntry]

/-! ### What holds at every call -/

section Turns

variable {Inside : S → Option S → σ → Prop} {Between : S → σ → Prop}
  {Q : HandlerCall S ι σ → Prop}

/-- **The rule for the calls of the loop**: what the first call has established and every turn keeps
holds at every exit and at every entry. -/
theorem Turns.forall_loopCalls (h : Turns handlers Inside Between)
    (hexits : ∀ s t o, Inside s (some t) o → Q ⟨s, .exit, o⟩)
    (henters : ∀ t o, Between t o → Q ⟨t, .enter, o⟩) (hobeys : Obeys Inside m) :
    ∀ call ∈ loopCalls handlers fuel m, Q call := by
  induction fuel generalizing m with
  | zero => simp [loopCalls]
  | succ fuel ih =>
    cases hcur : m.currentState with
    | none => simp [loopCalls, hcur]
    | some s =>
      cases hnext : m.nextState with
      | none => simp [loopCalls, hcur, hnext]
      | some t =>
        have hinside : Inside s (some t) m.owner := hnext ▸ hobeys s hcur
        have hbetween : Between t (handlers s .exit m.owner).owner := h.exit s t m.owner hinside
        have hentered : Obeys Inside (afterTransition handlers { m with nextState := none } s t) :=
          fun u hu ↦ by
            obtain rfl : t = u := Option.some.inj hu
            exact h.enter t _ hbetween
        simp only [loopCalls_succ hcur hnext, List.forall_mem_cons]
        exact ⟨hexits s t _ hinside, henters t _ hbetween, ih hentered⟩

/-- The calls of an input: the first one is the input itself. -/
theorem Turns.forall_inputCalls (h : Turns handlers Inside Between) {i : ι}
    (hexits : ∀ s t o, Inside s (some t) o → Q ⟨s, .exit, o⟩)
    (henters : ∀ t o, Between t o → Q ⟨t, .enter, o⟩)
    (hfirst : ∀ s, m.currentState = some s → Q ⟨s, .user i, m.owner⟩ ∧
      Inside s (netRequest (handlers s (.user i) m.owner).requests)
        (handlers s (.user i) m.owner).owner) :
    ∀ call ∈ inputCalls handlers fuel m i, Q call := by
  rw [inputCalls, privateCalls]
  cases hcur : m.currentState with
  | none => simp
  | some s =>
    obtain ⟨hq, hinside⟩ := hfirst s hcur
    refine List.forall_mem_cons.2 ⟨hq, h.forall_loopCalls hexits henters fun u hu ↦ ?_⟩
    obtain rfl : s = u := Option.some.inj hu
    exact hinside

/-- The calls of an initialization. -/
theorem Turns.forall_enterCalls (h : Turns handlers Inside Between) {first : S}
    (hexits : ∀ s t o, Inside s (some t) o → Q ⟨s, .exit, o⟩)
    (henters : ∀ t o, Between t o → Q ⟨t, .enter, o⟩)
    (hfirst : m.currentState = none → Between first m.owner) :
    ∀ call ∈ enterCalls handlers fuel m first, Q call := by
  rw [enterCalls]
  cases hcur : m.currentState with
  | some s => simp
  | none =>
    have hbetween := hfirst hcur
    refine List.forall_mem_cons.2 ⟨henters first _ hbetween, h.forall_loopCalls hexits henters
      fun u hu ↦ ?_⟩
    obtain rfl : first = u := Option.some.inj hu
    exact h.enter first _ hbetween

/-- **An initialization, where there is one, and an input**: what holds at every call, and in the
end. A machine that was in a state has been left there by an earlier frame, so all that is known of
it is what its first call establishes. -/
theorem Turns.start (h : Turns handlers Inside Between) (fuel : ℕ) (first : S) {i : ι}
    (hexits : ∀ s t o, Inside s (some t) o → Q ⟨s, .exit, o⟩)
    (henters : ∀ t o, Between t o → Q ⟨t, .enter, o⟩)
    (hbetween : m.currentState = none → Between first m.owner)
    (hfirst : ∀ s o, m.currentState = some s ∧ m.owner = o ∨ Inside s none o →
      Q ⟨s, .user i, o⟩ ∧ Inside s (netRequest (handlers s (.user i) o).requests)
        (handlers s (.user i) o).owner) :
    (∀ call ∈ startCalls handlers fuel m first i, Q call) ∧
      ∀ m₁ m', m.ensureInitialized handlers fuel first = some m₁ →
        m₁.runCurrentState true handlers fuel i = some m' →
          ∃ s, m'.InState s ∧ Inside s none m'.owner := by
  -- the input finds the state of before, or one that the initialization has led to
  have hstarted : ∀ m₁, m.ensureInitialized handlers fuel first = some m₁ →
      ∀ s, m₁.currentState = some s →
        m.currentState = some s ∧ m.owner = m₁.owner ∨ Inside s none m₁.owner :=
      fun m₁ hinit s hs ↦ by
    rw [ensureInitialized] at hinit
    cases hcur : m.currentState with
    | none =>
      rw [hcur] at hinit
      obtain ⟨u, hu, hinside⟩ := h.initializeWith (hbetween hcur) hinit
      obtain rfl : s = u := (hu.eq_of_current hs).symm
      exact .inr hinside
    | some u =>
      rw [hcur] at hinit
      obtain rfl : m = m₁ := Option.some.inj hinit
      exact .inl ⟨hcur.symm.trans hs, rfl⟩
  refine ⟨fun call hcall ↦ ?_, fun m₁ m' hinit hrun ↦ ?_⟩
  · rw [startCalls, List.mem_append] at hcall
    rcases hcall with hcall | hcall
    · exact h.forall_enterCalls hexits henters hbetween call hcall
    · cases hinit : m.ensureInitialized handlers fuel first with
      | none => simp [hinit] at hcall
      | some m₁ =>
        rw [hinit] at hcall
        exact h.forall_inputCalls hexits henters
          (fun s hs ↦ hfirst s _ (hstarted m₁ hinit s hs)) call
          hcall
  · exact h.runCurrentState (fun s hs ↦ (hfirst s _ (hstarted m₁ hinit s hs)).2) hrun

/-- A machine in a state begins with the input. -/
theorem startCalls_of_started {first s : S} {i : ι} (hcur : m.currentState = some s) :
    startCalls handlers fuel m first i = inputCalls handlers fuel m i := by
  simp [startCalls, enterCalls, ensureInitialized, hcur]

/-- A requested transition exits the state with the owner that the input has left. -/
theorem mem_inputCalls_exit {s t : S} {i : ι} (hcur : m.currentState = some s)
    (hrequest : netRequest (handlers s (.user i) m.owner).requests = some t) (hfuel : 0 < fuel) :
    ⟨s, .exit, (handlers s (.user i) m.owner).owner⟩ ∈ inputCalls handlers fuel m i := by
  obtain ⟨fuel, rfl⟩ : ∃ k, fuel = k + 1 := ⟨fuel - 1, by omega⟩
  rw [inputCalls, privateCalls_eq hcur, loopCalls_succ (by exact hcur) (by exact hrequest)]
  exact List.mem_cons_of_mem _ List.mem_cons_self

/-- `Shutdown` calls one handler, since none of them requests a transition on `SM_EXIT`. -/
theorem forall_exitCalls (hexit : NeverTransitionsOnExit handlers)
    (hq : ∀ s, m.currentState = some s → Q ⟨s, .exit, m.owner⟩) :
    ∀ call ∈ exitCalls handlers fuel m, Q call := by
  rw [exitCalls, privateCalls]
  cases hcur : m.currentState with
  | none => simp
  | some s =>
    refine List.forall_mem_cons.2 ⟨hq s hcur, ?_⟩
    rw [loopCalls_of_none (by simp [afterCall, hexit s m.owner])]
    exact List.forall_mem_nil _

end Turns

end StateMachine

end Touchless
