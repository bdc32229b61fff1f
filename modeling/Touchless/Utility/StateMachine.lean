import Mathlib.Data.List.Basic
import Mathlib.Data.List.Chain

/-!
# The state machine with deferred transitions

`StateMachine<OwnerClass>` of `Utility/StateMachine.h`. A state is a handler method of the owner,
called with `SM_ENTER`, `SM_EXIT` or an input of the user; while it runs, a handler may call
`SetNextState` any number of times, and the machine performs the transition when the handler has
returned. The transition loop saves the requested state, exits the current one and enters the
saved one, until a handler returns without a pending request.

A handler is modelled by what it leaves behind: the owner it has modified, the arguments of its
`SetNextState` calls in order, and the value it returns (`HandlerResult`). A machine call that does
not return (a failed `assert`, a call through a null state, a loop that runs out of fuel) is `none`.

Beside the operations the file has the rules by which invariants are carried through the loop
(`runCurrentStatePrivate_preserves`) and by which the loop is shown to end
(`transitionLoop_isSome_of_rank`). What a whole run looks like is `StateMachineVisits`.
-/

namespace Touchless

/-- The inputs of a handler: `SM_ENTER`, `SM_EXIT`, and the inputs of the user of the machine, which
are numerically at most `SM_HIGHEST_USER_INPUT_VALUE`. -/
inductive StateMachineInput (ι : Type) where
  | enter
  | exit
  | user (input : ι)
  deriving DecidableEq, Repr

/-- What one handler call leaves behind. A request `none` is a call `SetNextState(NULL)`. -/
structure HandlerResult (S σ : Type) where
  /-- the owner after the call -/
  owner : σ
  /-- the arguments of the calls of `SetNextState`, in order -/
  requests : List (Option S)
  /-- the return value: was the input handled? -/
  handled : Bool
  deriving DecidableEq

/-- The state methods of an owner class. -/
abbrev Handlers (S ι σ : Type) := S → StateMachineInput ι → σ → HandlerResult S σ

/-- One entry of the log of handler calls. -/
structure Invocation (S ι : Type) where
  /-- the state whose handler was called -/
  state : S
  /-- the input it was given -/
  input : StateMachineInput ι
  /-- what it requested through `SetNextState` -/
  requests : List (Option S)
  deriving DecidableEq, Repr

/-- The members of `StateMachine` together with the owner it points to. `invocations` is the log of
the calls made through `m_current_state`; no operation reads it. -/
structure StateMachine (S ι σ : Type) where
  /-- `*m_owner_class` -/
  owner : σ
  /-- `m_is_running_a_state` -/
  isRunningAState : Bool
  /-- `m_current_state`; `none` is the null pointer -/
  currentState : Option S
  /-- `m_next_state`; `none` is the null pointer -/
  nextState : Option S
  /-- the handler calls so far -/
  invocations : List (Invocation S ι)

/-- `assert(condition)`, which `NDEBUG` compiles out. -/
def assertion (ndebug condition : Bool) : Option Unit :=
  if ndebug || condition then some () else none

theorem assertion_eq_some {ndebug condition : Bool} {u : Unit} :
    assertion ndebug condition = some u ↔ ndebug = true ∨ condition = true := by
  cases ndebug <;> cases condition <;> simp [assertion]

@[simp] theorem assertion_true (ndebug : Bool) : assertion ndebug true = some () := by
  simp [assertion]

/-- The request that is pending when a handler returns: the last one, where `NULL` cancels. -/
def netRequest {S : Type} (requests : List (Option S)) : Option S :=
  requests.getLast?.join

@[simp] theorem netRequest_nil {S : Type} : netRequest ([] : List (Option S)) = none := rfl

@[simp] theorem netRequest_concat {S : Type} (requests : List (Option S)) (s : Option S) :
    netRequest (requests ++ [s]) = s := by
  simp [netRequest]

namespace StateMachine

variable {S ι σ : Type}

/-! ### The operations -/

/-- The constructor, with `SetOwnerClass` done. -/
def construct (owner : σ) : StateMachine S ι σ where
  owner := owner
  isRunningAState := false
  currentState := none
  nextState := none
  invocations := []

/-- `SetNextState`. -/
def setNextState (ndebug : Bool) (m : StateMachine S ι σ) (state : Option S) :
    Option (StateMachine S ι σ) := do
  assertion ndebug m.isRunningAState
  assertion ndebug m.currentState.isSome
  return { m with nextState := state }

/-- The call `((*m_owner_class).*m_current_state)(input)` with the flag set around it. -/
def callCurrentState (ndebug : Bool) (handlers : Handlers S ι σ) (m : StateMachine S ι σ)
    (input : StateMachineInput ι) : Option (StateMachine S ι σ × Bool) := do
  let s ← m.currentState
  let r := handlers s input m.owner
  let m ← r.requests.foldlM (setNextState ndebug)
    { m with
      owner := r.owner
      isRunningAState := true
      invocations := m.invocations ++ [⟨s, input, r.requests⟩] }
  return ({ m with isRunningAState := false }, r.handled)

/-- The `while` loop of `RunCurrentStatePrivate`, one unit of `fuel` a turn. -/
def transitionLoop (ndebug : Bool) (handlers : Handlers S ι σ) :
    ℕ → StateMachine S ι σ → Option (StateMachine S ι σ)
  | 0, m => if m.nextState.isSome then none else some m
  | fuel + 1, m =>
    match m.nextState with
    | none => some m
    | some realNextState => do
      let (m, _) ← callCurrentState ndebug handlers { m with nextState := none } .exit
      assertion ndebug m.nextState.isNone
      let (m, _) ← callCurrentState ndebug handlers
        { m with currentState := some realNextState } .enter
      transitionLoop ndebug handlers fuel m

/-- The checks between the first handler call of `RunCurrentStatePrivate` and its loop: a user input
must be handled, and `SM_EXIT` must not transition. -/
def assertHandled (ndebug : Bool) (m : StateMachine S ι σ) (stateHandledTheInput : Bool) :
    StateMachineInput ι → Option Unit
  | .user _ => assertion ndebug stateHandledTheInput
  | .exit => assertion ndebug m.nextState.isNone
  | .enter => some ()

/-- `RunCurrentStatePrivate`. -/
def runCurrentStatePrivate (ndebug : Bool) (handlers : Handlers S ι σ) (fuel : ℕ)
    (m : StateMachine S ι σ) (input : StateMachineInput ι) : Option (StateMachine S ι σ) := do
  assertion ndebug (!m.isRunningAState)
  assertion ndebug m.currentState.isSome
  let (m, stateHandledTheInput) ←
    callCurrentState ndebug handlers { m with nextState := none } input
  assertHandled ndebug m stateHandledTheInput input
  transitionLoop ndebug handlers fuel m

/-- `Initialize`. -/
def initializeWith (ndebug : Bool) (handlers : Handlers S ι σ) (fuel : ℕ) (m : StateMachine S ι σ)
    (initialState : Option S) : Option (StateMachine S ι σ) := do
  assertion ndebug (!m.isRunningAState)
  assertion ndebug m.currentState.isNone
  runCurrentStatePrivate ndebug handlers fuel { m with currentState := initialState } .enter

/-- `RunCurrentState`. -/
def runCurrentState (ndebug : Bool) (handlers : Handlers S ι σ) (fuel : ℕ)
    (m : StateMachine S ι σ) (input : ι) : Option (StateMachine S ι σ) :=
  runCurrentStatePrivate ndebug handlers fuel m (.user input)

/-- `Shutdown`, which the destructor calls. -/
def shutdown (ndebug : Bool) (handlers : Handlers S ι σ) (fuel : ℕ) (m : StateMachine S ι σ) :
    Option (StateMachine S ι σ) := do
  assertion ndebug (!m.isRunningAState)
  if m.currentState.isSome then
    let m ← runCurrentStatePrivate ndebug handlers fuel m .exit
    return { m with currentState := none }
  else
    return m

/-- The calls a user of the machine makes, and between them the owner's own code. -/
inductive Call (S ι σ : Type) where
  | initializeWith (initialState : Option S)
  | runCurrentState (input : ι)
  | shutdown
  | ownerCode (f : σ → σ)

/-- One call. -/
def exec (ndebug : Bool) (handlers : Handlers S ι σ) (fuel : ℕ) (m : StateMachine S ι σ) :
    Call S ι σ → Option (StateMachine S ι σ)
  | .initializeWith initialState => m.initializeWith ndebug handlers fuel initialState
  | .runCurrentState input => m.runCurrentState ndebug handlers fuel input
  | .shutdown => m.shutdown ndebug handlers fuel
  | .ownerCode f => some { m with owner := f m.owner }

/-- A sequence of calls. -/
def run (ndebug : Bool) (handlers : Handlers S ι σ) (fuel : ℕ) (m : StateMachine S ι σ)
    (calls : List (Call S ι σ)) : Option (StateMachine S ι σ) :=
  calls.foldlM (exec ndebug handlers fuel) m

/-! ### One handler call -/

section Calls

variable {ndebug : Bool} {handlers : Handlers S ι σ} {fuel : ℕ} {m m' : StateMachine S ι σ}

/-- A running handler may call `SetNextState` as often as it likes: the last call counts. -/
theorem foldlM_setNextState (requests : List (Option S)) :
    ∀ m : StateMachine S ι σ, m.isRunningAState = true → m.currentState.isSome = true →
      requests.foldlM (setNextState ndebug) m =
        some { m with nextState := requests.getLast?.getD m.nextState } := by
  induction requests with
  | nil => intro m _ _; rfl
  | cons s requests ih =>
    intro m hrun hcur
    have hset : setNextState ndebug m s = some { m with nextState := s } := by
      simp [setNextState, hrun, hcur]
    have hlast : (s :: requests).getLast?.getD m.nextState = requests.getLast?.getD s := by
      simp [List.getLast?_cons]
    rw [List.foldlM_cons, hset, hlast]
    exact ih _ hrun hcur

/-- The machine after the handler of `s` has been given `input`. -/
def afterCall (handlers : Handlers S ι σ) (m : StateMachine S ι σ) (s : S)
    (input : StateMachineInput ι) : StateMachine S ι σ :=
  { m with
    owner := (handlers s input m.owner).owner
    isRunningAState := false
    nextState := netRequest (handlers s input m.owner).requests
    invocations := m.invocations ++ [⟨s, input, (handlers s input m.owner).requests⟩] }

/-- The machine after one turn of the transition loop from `s` to `t`. -/
def afterTransition (handlers : Handlers S ι σ) (m : StateMachine S ι σ) (s t : S) :
    StateMachine S ι σ :=
  afterCall handlers { m.afterCall handlers s .exit with currentState := some t } t .enter

@[simp] theorem currentState_afterCall (s : S) (input : StateMachineInput ι) :
    (m.afterCall handlers s input).currentState = m.currentState := rfl

@[simp] theorem isRunningAState_afterCall (s : S) (input : StateMachineInput ι) :
    (m.afterCall handlers s input).isRunningAState = false := rfl

@[simp] theorem currentState_afterTransition (s t : S) :
    (m.afterTransition handlers s t).currentState = some t := rfl

@[simp] theorem isRunningAState_afterTransition (s t : S) :
    (m.afterTransition handlers s t).isRunningAState = false := rfl

theorem callCurrentState_eq {s : S} (hcur : m.currentState = some s) (hnext : m.nextState = none)
    (input : StateMachineInput ι) :
    callCurrentState ndebug handlers m input =
      some (m.afterCall handlers s input, (handlers s input m.owner).handled) := by
  have hjoin : ∀ o : Option (Option S), o.getD none = o.join := by
    rintro (_ | _) <;> rfl
  simp only [callCurrentState, hcur, Option.bind_eq_bind, Option.bind_some]
  rw [foldlM_setNextState _ _ rfl (by simp)]
  simp [afterCall, netRequest, hnext, hjoin, ← hcur]

theorem callCurrentState_none (hcur : m.currentState = none) (input : StateMachineInput ι) :
    callCurrentState ndebug handlers m input = none := by
  simp [callCurrentState, hcur]

/-! ### The transition loop

The loop calls two handlers a turn, and only the second may request a transition. -/

/-- No handler calls `SetNextState` while it handles `SM_EXIT`. -/
def NeverTransitionsOnExit (handlers : Handlers S ι σ) : Prop :=
  ∀ s o, (handlers s .exit o).requests = []

theorem transitionLoop_of_none (hnext : m.nextState = none) :
    transitionLoop ndebug handlers fuel m = some m := by
  cases fuel <;> simp [transitionLoop, hnext]

/-- One turn of the loop. -/
theorem transitionLoop_succ (hexit : NeverTransitionsOnExit handlers) {s t : S}
    (hcur : m.currentState = some s) (hnext : m.nextState = some t) :
    transitionLoop ndebug handlers (fuel + 1) m =
      transitionLoop ndebug handlers fuel
        (afterTransition handlers { m with nextState := none } s t) := by
  have hsettled : (afterCall handlers { m with nextState := none } s .exit).nextState = none := by
    simp [afterCall, hexit s m.owner]
  simp only [transitionLoop, hnext, Option.bind_eq_bind]
  rw [callCurrentState_eq (m := { m with nextState := none }) hcur rfl]
  simp only [Option.bind_some, hsettled, Option.isNone_none, assertion_true]
  rw [callCurrentState_eq (s := t) rfl rfl]
  rfl

/-- **The rule of the transition loop**: what every turn preserves holds when the loop ends, and the
loop ends without a pending request. -/
theorem transitionLoop_preserves (hexit : NeverTransitionsOnExit handlers)
    {P : StateMachine S ι σ → Prop}
    (hturn : ∀ m s t, m.currentState = some s → m.nextState = some t → P m →
      P (afterTransition handlers { m with nextState := none } s t)) :
    ∀ {fuel : ℕ} {m m' : StateMachine S ι σ}, m.currentState.isSome = true →
      m.isRunningAState = false → P m → transitionLoop ndebug handlers fuel m = some m' →
      P m' ∧ m'.nextState = none ∧ m'.isRunningAState = false ∧ m'.currentState.isSome = true := by
  intro fuel
  induction fuel with
  | zero =>
    intro m m' hcur hrun hP h
    rcases hnext : m.nextState with - | t
    · rw [transitionLoop_of_none hnext, Option.some.injEq] at h
      subst h
      exact ⟨hP, hnext, hrun, hcur⟩
    · simp [transitionLoop, hnext] at h
  | succ fuel ih =>
    intro m m' hcur hrun hP h
    obtain ⟨s, hs⟩ := Option.isSome_iff_exists.1 hcur
    rcases hnext : m.nextState with - | t
    · rw [transitionLoop_of_none hnext, Option.some.injEq] at h
      subst h
      exact ⟨hP, hnext, hrun, hcur⟩
    · rw [transitionLoop_succ hexit hs hnext] at h
      exact ih rfl rfl (hturn m s t hs hnext hP) h

/-- More fuel does not change a result. -/
theorem transitionLoop_mono (hexit : NeverTransitionsOnExit handlers) :
    ∀ {fuel fuel' : ℕ} {m m' : StateMachine S ι σ}, m.currentState.isSome = true → fuel ≤ fuel' →
      transitionLoop ndebug handlers fuel m = some m' →
      transitionLoop ndebug handlers fuel' m = some m' := by
  intro fuel
  induction fuel with
  | zero =>
    intro fuel' m m' _ _ h
    rcases hnext : m.nextState with - | t
    · rwa [transitionLoop_of_none hnext] at h ⊢
    · simp [transitionLoop, hnext] at h
  | succ fuel ih =>
    intro fuel' m m' hcur hle h
    obtain ⟨s, hs⟩ := Option.isSome_iff_exists.1 hcur
    obtain ⟨fuel', rfl⟩ : ∃ k, fuel' = k + 1 := ⟨fuel' - 1, by omega⟩
    rcases hnext : m.nextState with - | t
    · rwa [transitionLoop_of_none hnext] at h ⊢
    · rw [transitionLoop_succ hexit hs hnext] at h ⊢
      exact ih rfl (by omega) h

/-- **The termination rule**: a rank of the entered states that every further request made on
`SM_ENTER` lowers bounds the number of turns. -/
theorem transitionLoop_isSome_of_rank (hexit : NeverTransitionsOnExit handlers)
    {P : StateMachine S ι σ → Prop} (rank : S → ℕ)
    (hturn : ∀ m s t, m.currentState = some s → m.nextState = some t → P m →
      P (afterTransition handlers { m with nextState := none } s t))
    (hrank : ∀ m s t u, m.currentState = some s → m.nextState = some t → P m →
      (afterTransition handlers { m with nextState := none } s t).nextState = some u →
      rank u < rank t) :
    ∀ {fuel : ℕ} {m : StateMachine S ι σ}, m.currentState.isSome = true → P m →
      (∀ t, m.nextState = some t → rank t < fuel) →
      ∃ m', transitionLoop ndebug handlers fuel m = some m' := by
  intro fuel
  induction fuel with
  | zero =>
    intro m _ _ hfuel
    rcases hnext : m.nextState with - | t
    · exact ⟨m, transitionLoop_of_none hnext⟩
    · exact absurd (hfuel t hnext) (Nat.not_lt_zero _)
  | succ fuel ih =>
    intro m hcur hP hfuel
    obtain ⟨s, hs⟩ := Option.isSome_iff_exists.1 hcur
    rcases hnext : m.nextState with - | t
    · exact ⟨m, transitionLoop_of_none hnext⟩
    · -- one turn, after which a request has a lower rank, and there is one unit of fuel less
      rw [transitionLoop_succ hexit hs hnext]
      refine ih rfl (hturn m s t hs hnext hP) fun u hu ↦ ?_
      have hlt := hrank m s t u hs hnext hP hu
      have hle := hfuel t hnext
      omega

/-- `RunCurrentStatePrivate` is one handler call followed by the loop; a call it makes has passed
its assertions. -/
theorem runCurrentStatePrivate_some {input : StateMachineInput ι}
    (h : runCurrentStatePrivate ndebug handlers fuel m input = some m') :
    ∃ s, m.currentState = some s ∧
      transitionLoop ndebug handlers fuel
        (afterCall handlers { m with nextState := none } s input) = some m' := by
  simp only [runCurrentStatePrivate, Option.bind_eq_bind, Option.bind_eq_some_iff] at h
  obtain ⟨-, -, -, -, ⟨m₁, handled⟩, hcall, -, -, hloop⟩ := h
  rcases Option.eq_none_or_eq_some m.currentState with hcur | ⟨s, hcur⟩
  · rw [callCurrentState_none (m := { m with nextState := none }) hcur] at hcall
    exact absurd hcall (by simp)
  · rw [callCurrentState_eq (m := { m with nextState := none }) hcur rfl, Option.some.injEq,
      Prod.mk.injEq] at hcall
    obtain ⟨rfl, -⟩ := hcall
    exact ⟨s, hcur, hloop⟩

/-- **The rule of `RunCurrentStatePrivate`**: what its first handler call establishes and every turn
of the loop preserves holds when it returns, with no request pending. -/
theorem runCurrentStatePrivate_preserves (hexit : NeverTransitionsOnExit handlers)
    {P : StateMachine S ι σ → Prop} {input : StateMachineInput ι}
    (hcall : ∀ s, m.currentState = some s →
      P (afterCall handlers { m with nextState := none } s input))
    (hturn : ∀ m s t, m.currentState = some s → m.nextState = some t → P m →
      P (afterTransition handlers { m with nextState := none } s t))
    (h : runCurrentStatePrivate ndebug handlers fuel m input = some m') :
    P m' ∧ m'.nextState = none ∧ m'.isRunningAState = false ∧ m'.currentState.isSome = true := by
  obtain ⟨s, hs, hloop⟩ := runCurrentStatePrivate_some h
  exact transitionLoop_preserves hexit hturn (by simp [hs]) rfl (hcall s hs) hloop

end Calls

end StateMachine

end Touchless
