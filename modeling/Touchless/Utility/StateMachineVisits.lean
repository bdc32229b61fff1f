import Touchless.Foundations.PartialRun
import Touchless.Utility.StateMachine

/-!
# The visits of a state machine

A *visit* is what the machine does with one state between entering and exiting it: the `SM_ENTER`
call, the inputs of the user, and the `SM_EXIT` call if it has come. `VisitHistory` says that a list
of visits explains the log of a machine, including a request that is still pending in the middle of
the transition loop. Every machine operation extends or adds one visit, and `run_visits` puts the
steps together for a whole run.
-/

namespace Touchless

variable {S ι σ : Type}

/-- One visit to a state. -/
structure Visit (S ι : Type) where
  /-- the state visited -/
  state : S
  /-- was the visit opened by `Initialize`, and not by a transition? -/
  initial : Bool
  /-- what the `SM_ENTER` call requested -/
  enterRequests : List (Option S)
  /-- the inputs of the user, each with what its call requested -/
  inputs : List (ι × List (Option S))
  /-- has `SM_EXIT` been delivered? -/
  exited : Bool

namespace Visit

/-- The handler calls of a visit. -/
def invocations (v : Visit S ι) : List (Invocation S ι) :=
  ⟨v.state, .enter, v.enterRequests⟩ ::
    (v.inputs.map (fun p ↦ ⟨v.state, .user p.1, p.2⟩) ++
      if v.exited then [⟨v.state, .exit, []⟩] else [])

/-- The `SetNextState` arguments of the calls that may transition, call by call. -/
def requests (v : Visit S ι) : List (List (Option S)) :=
  v.enterRequests :: v.inputs.map Prod.snd

/-- What the last of these calls left pending. -/
def target (v : Visit S ι) : Option S := netRequest (v.requests.getLastD [])

/-- Only the last of these calls left a request pending. -/
def Quiet (v : Visit S ι) : Prop := ∀ rs ∈ v.requests.dropLast, netRequest rs = none

/-- The state the machine is in during the visit; none after it. -/
def openState (v : Visit S ι) : Option S := if v.exited then none else some v.state

/-- Consecutive visits: the first is over, and it has led to the second unless `Initialize` opened
the second after a `Shutdown`. -/
def Follows (v w : Visit S ι) : Prop :=
  v.exited = true ∧ v.target = if w.initial then none else some w.state

/-- A visit just entered. -/
def enter (s : S) (initial : Bool) (requests : List (Option S)) : Visit S ι :=
  ⟨s, initial, requests, [], false⟩

/-- The visit after one more input. -/
def deliver (v : Visit S ι) (input : ι) (requests : List (Option S)) : Visit S ι :=
  { v with inputs := v.inputs ++ [(input, requests)] }

/-- The visit after `SM_EXIT`. -/
def exit (v : Visit S ι) : Visit S ι := { v with exited := true }

@[simp] theorem requests_deliver (v : Visit S ι) (input : ι) (rs : List (Option S)) :
    (v.deliver input rs).requests = v.requests ++ [rs] := by
  simp [deliver, requests]

@[simp] theorem target_deliver (v : Visit S ι) (input : ι) (rs : List (Option S)) :
    (v.deliver input rs).target = netRequest rs := by
  simp [target]

@[simp] theorem target_exit (v : Visit S ι) : v.exit.target = v.target := rfl

@[simp] theorem target_enter (s : S) (initial : Bool) (rs : List (Option S)) :
    (enter s initial rs : Visit S ι).target = netRequest rs := rfl

theorem invocations_deliver {v : Visit S ι} (hopen : v.exited = false) (input : ι)
    (rs : List (Option S)) :
    (v.deliver input rs).invocations = v.invocations ++ [⟨v.state, .user input, rs⟩] := by
  simp [invocations, deliver, hopen]

theorem invocations_exit {v : Visit S ι} (hopen : v.exited = false) :
    v.exit.invocations = v.invocations ++ [⟨v.state, .exit, []⟩] := by
  simp [invocations, exit, hopen]

@[simp] theorem invocations_enter (s : S) (initial : Bool) (rs : List (Option S)) :
    (enter s initial rs : Visit S ι).invocations = [⟨s, .enter, rs⟩] := rfl

theorem quiet_enter (s : S) (initial : Bool) (rs : List (Option S)) :
    (enter s initial rs : Visit S ι).Quiet := by
  simp [Quiet, enter, requests]

/-- An input arrives only when the calls before it have left nothing pending. -/
theorem quiet_deliver {v : Visit S ι} (hquiet : v.Quiet) (htarget : v.target = none) (input : ι)
    (rs : List (Option S)) : (v.deliver input rs).Quiet := by
  intro r hr
  rw [requests_deliver, List.dropLast_concat] at hr
  obtain ⟨earlier, last, hlast⟩ : ∃ earlier last, v.requests = earlier ++ [last] :=
    ⟨v.requests.dropLast, v.requests.getLast (by simp [requests]),
      (List.dropLast_append_getLast _).symm⟩
  rw [hlast, List.mem_append, List.mem_singleton] at hr
  rcases hr with hr | rfl
  · exact hquiet r (by rwa [hlast, List.dropLast_concat])
  · simpa [target, hlast] using htarget

end Visit

/-- The states `Initialize` was called with, visit by visit. -/
def initialStates (visits : List (Visit S ι)) : List S :=
  (visits.filter (·.initial)).map (·.state)

/-- `visits` explains the machine `m`, which may be in the middle of the transition loop: its last
visit is the current one, and the pending request is the one that visit has made. -/
structure VisitHistory (visits : List (Visit S ι)) (m : StateMachine S ι σ) : Prop where
  /-- the log is the concatenation of the visits -/
  log : m.invocations = visits.flatMap Visit.invocations
  /-- each visit is over before the next, and has led to it -/
  chain : visits.IsChain Visit.Follows
  /-- a visit is left at once when it requests a transition -/
  quiet : ∀ v ∈ visits, v.Quiet
  /-- the first visit is opened by `Initialize` -/
  first : ∀ v ∈ visits.head?, v.initial = true
  /-- the machine is in the state of the last visit while that is open -/
  current : m.currentState = visits.getLast?.bind Visit.openState
  /-- the pending request is that of the last visit -/
  pending : m.nextState = visits.getLast?.bind Visit.target

/-- Replacing the last visit by a later stage of it keeps the visits chained. -/
theorem isChain_replace_last {earlier : List (Visit S ι)} {v w : Visit S ι}
    (hchain : (earlier ++ [v]).IsChain Visit.Follows) (hstate : w.state = v.state)
    (hinitial : w.initial = v.initial) : (earlier ++ [w]).IsChain Visit.Follows := by
  rw [List.isChain_append] at hchain ⊢
  obtain ⟨hearlier, -, hlink⟩ := hchain
  refine ⟨hearlier, List.isChain_singleton _, fun x hx y hy ↦ ?_⟩
  obtain rfl : w = y := by simpa using hy
  have hv : x.Follows v := hlink x hx v (by simp)
  exact ⟨hv.1, by rw [hv.2, hinitial, hstate]⟩

/-- Replacing the last visit by a later stage of it keeps the initial states. -/
theorem initialStates_replace_last {earlier : List (Visit S ι)} {v w : Visit S ι}
    (hstate : w.state = v.state) (hinitial : w.initial = v.initial) :
    initialStates (earlier ++ [w]) = initialStates (earlier ++ [v]) := by
  simp only [initialStates, List.filter_append, List.map_append, List.filter_singleton, hinitial]
  cases v.initial <;> simp [hstate]

/-- Replacing the last visit by a later stage of it keeps the first visit initial. -/
theorem head_replace_last {earlier : List (Visit S ι)} {v w : Visit S ι}
    (hinitial : w.initial = v.initial)
    (hfirst : ∀ x ∈ (earlier ++ [v]).head?, x.initial = true) :
    ∀ x ∈ (earlier ++ [w]).head?, x.initial = true := by
  cases earlier with
  | nil => simpa [hinitial] using hfirst
  | cons x earlier => simpa using hfirst

namespace VisitHistory

variable {handlers : Handlers S ι σ} {m : StateMachine S ι σ} {visits : List (Visit S ι)}

/-- A machine that is in a state has an open visit to it. -/
theorem exists_last (h : VisitHistory visits m) {s : S} (hcur : m.currentState = some s) :
    ∃ earlier v, visits = earlier ++ [v] ∧ v.exited = false ∧ v.state = s ∧
      m.nextState = v.target := by
  obtain ⟨v, hv, hopen⟩ := Option.bind_eq_some_iff.1 (h.current.symm.trans hcur)
  obtain ⟨earlier, rfl⟩ := List.getLast?_eq_some_iff.1 hv
  refine ⟨earlier, v, rfl, ?_⟩
  have hpending := h.pending
  rw [hv, Option.bind_some] at hpending
  rcases hexited : v.exited with - | -
  · simp only [Visit.openState, hexited, Bool.false_eq_true, if_false, Option.some.injEq] at hopen
    exact ⟨rfl, hopen, hpending⟩
  · simp [Visit.openState, hexited] at hopen

/-- The machine before its first call. -/
theorem construct (owner : σ) :
    VisitHistory ([] : List (Visit S ι)) (StateMachine.construct owner) where
  log := rfl
  chain := List.isChain_nil
  quiet := by simp
  first := by simp
  current := rfl
  pending := rfl

/-- Code of the owner that calls no handler does not show in the visits. -/
theorem ownerCode (h : VisitHistory visits m) (f : σ → σ) :
    VisitHistory visits { m with owner := f m.owner } :=
  ⟨h.log, h.chain, h.quiet, h.first, h.current, h.pending⟩

/-- `Initialize` opens a visit. -/
theorem initializeWith (h : VisitHistory visits m) (hcur : m.currentState = none)
    (hnext : m.nextState = none) (s : S) :
    ∃ visits', VisitHistory visits' (StateMachine.afterCall handlers
        { m with currentState := some s, nextState := none } s .enter) ∧
      initialStates visits' = initialStates visits ++ [s] := by
  set w : Visit S ι := Visit.enter s true (handlers s .enter m.owner).requests with hw
  refine ⟨visits ++ [w], ⟨?_, ?_, ?_, ?_, ?_, ?_⟩, ?_⟩
  · simp [StateMachine.afterCall, h.log, hw]
  · refine h.chain.append (List.isChain_singleton _) fun v hv y hy ↦ ?_
    obtain rfl : w = y := by simpa using hy
    have hv' : visits.getLast? = some v := hv
    have hopen : v.openState = none := by simpa [hv', hcur] using h.current.symm
    have htarget : v.target = none := by simpa [hv', hnext] using h.pending.symm
    refine ⟨?_, by simp [htarget, hw, Visit.enter]⟩
    by_contra hexited
    simp [Visit.openState, hexited] at hopen
  · intro v hv
    rcases List.mem_append.1 hv with hv | hv
    · exact h.quiet v hv
    · rw [List.mem_singleton.1 hv]
      exact Visit.quiet_enter _ _ _
  · cases visits with
    | nil => simp [hw, Visit.enter]
    | cons v visits => simpa using h.first
  · simp [hw, Visit.enter, Visit.openState]
  · simp [StateMachine.afterCall, hw]
  · simp [initialStates, hw, Visit.enter]

/-- An input of the user extends the open visit. -/
theorem deliver (h : VisitHistory visits m) {s : S} (hcur : m.currentState = some s)
    (hnext : m.nextState = none) (input : ι) :
    ∃ visits', VisitHistory visits' (StateMachine.afterCall handlers
        { m with nextState := none } s (.user input)) ∧
      initialStates visits' = initialStates visits := by
  obtain ⟨earlier, v, rfl, hopen, rfl, htarget⟩ := h.exists_last hcur
  set w := v.deliver input (handlers v.state (.user input) m.owner).requests with hw
  refine ⟨earlier ++ [w], ⟨?_, ?_, ?_, ?_, ?_, ?_⟩, initialStates_replace_last rfl rfl⟩
  · simp [StateMachine.afterCall, h.log, hw, Visit.invocations_deliver hopen]
  · exact isChain_replace_last h.chain rfl rfl
  · intro x hx
    rcases List.mem_append.1 hx with hx | hx
    · exact h.quiet x (List.mem_append_left _ hx)
    · rw [List.mem_singleton.1 hx]
      exact Visit.quiet_deliver (h.quiet v (by simp)) (htarget.symm.trans hnext) _ _
  · exact head_replace_last (v := v) rfl h.first
  · simp [hw, Visit.deliver, Visit.openState, hopen, hcur]
  · simp [StateMachine.afterCall, hw]

/-- `Shutdown` closes the open visit. -/
theorem shutdown (h : VisitHistory visits m) {s : S} (hcur : m.currentState = some s)
    (hnext : m.nextState = none) (hexit : StateMachine.NeverTransitionsOnExit handlers) :
    ∃ visits', VisitHistory visits' { StateMachine.afterCall handlers
        { m with nextState := none } s .exit with currentState := none } ∧
      initialStates visits' = initialStates visits := by
  obtain ⟨earlier, v, rfl, hopen, rfl, htarget⟩ := h.exists_last hcur
  refine ⟨earlier ++ [v.exit], ⟨?_, ?_, ?_, ?_, ?_, ?_⟩, initialStates_replace_last rfl rfl⟩
  · simp [StateMachine.afterCall, h.log, hexit v.state m.owner, Visit.invocations_exit hopen]
  · exact isChain_replace_last h.chain rfl rfl
  · intro x hx
    rcases List.mem_append.1 hx with hx | hx
    · exact h.quiet x (List.mem_append_left _ hx)
    · rw [List.mem_singleton.1 hx]
      exact h.quiet v (by simp)
  · exact head_replace_last (v := v) rfl h.first
  · simp [Visit.exit, Visit.openState]
  · simp [StateMachine.afterCall, hexit v.state m.owner, ← htarget, hnext]

/-- A turn of the transition loop closes the open visit and opens the one it has requested. -/
theorem transition (h : VisitHistory visits m) {s t : S} (hcur : m.currentState = some s)
    (hnext : m.nextState = some t) (hexit : StateMachine.NeverTransitionsOnExit handlers) :
    ∃ visits', VisitHistory visits' (StateMachine.afterTransition handlers
        { m with nextState := none } s t) ∧
      initialStates visits' = initialStates visits := by
  obtain ⟨earlier, v, rfl, hopen, rfl, htarget⟩ := h.exists_last hcur
  set w : Visit S ι := Visit.enter t false
    (handlers t .enter (handlers v.state .exit m.owner).owner).requests with hw
  -- the fields of `VisitHistory` in their order, and then the initial states
  refine ⟨(earlier ++ [v.exit]) ++ [w], ⟨?_, ?_, ?_, ?_, ?_, ?_⟩, ?_⟩
  · simp [StateMachine.afterTransition, StateMachine.afterCall, h.log, hexit v.state m.owner,
      Visit.invocations_exit hopen, hw]
  · refine (isChain_replace_last (w := v.exit) h.chain rfl rfl).append
      (List.isChain_singleton _) fun x hx y hy ↦ ?_
    obtain rfl : w = y := by simpa using hy
    obtain rfl : v.exit = x := by simpa using hx
    exact ⟨rfl, by simp [hw, Visit.enter, ← htarget, hnext]⟩
  · intro x hx
    rcases List.mem_append.1 hx with hx | hx
    · rcases List.mem_append.1 hx with hx | hx
      · exact h.quiet x (List.mem_append_left _ hx)
      · rw [List.mem_singleton.1 hx]
        exact h.quiet v (by simp)
    · rw [List.mem_singleton.1 hx]
      exact Visit.quiet_enter _ _ _
  · have hfirst := head_replace_last (v := v) (w := v.exit) rfl h.first
    cases earlier with
    | nil => simpa using hfirst
    | cons x earlier => simpa using hfirst
  · simp [hw, Visit.enter, Visit.openState]
  · simp [StateMachine.afterTransition, StateMachine.afterCall, hw]
  · have hreplace : initialStates (earlier ++ [v.exit]) = initialStates (earlier ++ [v]) :=
      initialStates_replace_last rfl rfl
    rw [← hreplace]
    simp only [initialStates, hw, Visit.enter, List.filter_append, List.map_append]
    simp

end VisitHistory

/-! ### Whole runs -/

namespace StateMachine

/-- Is the machine initialised after a call, given whether it was before? -/
def Call.initialized : Call S ι σ → Bool → Bool
  | .initializeWith _, _ => true
  | .shutdown, _ => false
  | .runCurrentState _, before => before
  | .ownerCode _, before => before

/-- The argument of an `Initialize` call. -/
def Call.initialState : Call S ι σ → Option S
  | .initializeWith s => s
  | _ => none

/-- Is the machine initialised after a sequence of calls: has the last `Initialize` not been
followed by a `Shutdown`? -/
def initialized (calls : List (Call S ι σ)) : Bool :=
  calls.foldl (fun before call ↦ call.initialized before) false

/-- `Initialize` is called only on a machine that is not initialised, as its `assert` demands. -/
def InitializesWhenDown (calls : List (Call S ι σ)) : Prop :=
  ∀ done s, done ++ [Call.initializeWith s] <+: calls → initialized done = false

@[simp] theorem initialized_concat (calls : List (Call S ι σ)) (call : Call S ι σ) :
    initialized (calls ++ [call]) = call.initialized (initialized calls) := by
  simp [initialized]

/-- What holds of a machine between two calls: `visits` explains its log, nothing is pending or
running, and it is in a state exactly when the calls made so far have initialised it. -/
structure Settled (calls : List (Call S ι σ)) (visits : List (Visit S ι)) (m : StateMachine S ι σ) :
    Prop where
  history : VisitHistory visits m
  nextState : m.nextState = none
  isRunningAState : m.isRunningAState = false
  initialized : m.currentState.isSome = StateMachine.initialized calls
  initialStates : initialStates visits = calls.filterMap Call.initialState

variable {ndebug : Bool} {handlers : Handlers S ι σ} {fuel : ℕ} {m m' : StateMachine S ι σ}
variable {calls : List (Call S ι σ)} {visits : List (Visit S ι)}

/-- The transition loop keeps explaining the log by visits and opens none by `Initialize`. -/
theorem runCurrentStatePrivate_visits (hexit : NeverTransitionsOnExit handlers)
    {input : StateMachineInput ι} (initial : List S)
    (hcall : ∀ s, m.currentState = some s → ∃ visits, VisitHistory visits
      (afterCall handlers { m with nextState := none } s input) ∧ initialStates visits = initial)
    (h : runCurrentStatePrivate ndebug handlers fuel m input = some m') :
    (∃ visits, VisitHistory visits m' ∧ initialStates visits = initial) ∧
      m'.nextState = none ∧ m'.isRunningAState = false ∧ m'.currentState.isSome = true := by
  refine runCurrentStatePrivate_preserves hexit
    (P := fun m ↦ ∃ visits, VisitHistory visits m ∧ initialStates visits = initial) hcall ?_ h
  rintro m s t hcur hnext ⟨visits, hvisits, hinitial⟩
  obtain ⟨visits', hvisits', hinitial'⟩ := hvisits.transition hcur hnext hexit
  exact ⟨visits', hvisits', hinitial'.trans hinitial⟩

/-- **One call** keeps a machine settled. -/
theorem exec_settled (hexit : NeverTransitionsOnExit handlers) (call : Call S ι σ)
    (hdown : ndebug = false ∨ ∀ s, call = .initializeWith s → initialized calls = false)
    (hm : Settled calls visits m) (h : exec ndebug handlers fuel m call = some m') :
    ∃ visits', Settled (calls ++ [call]) visits' m' := by
  cases call with
  | ownerCode f =>
    obtain rfl : { m with owner := f m.owner } = m' := by simpa [exec] using h
    exact ⟨visits, hm.history.ownerCode f, hm.nextState, hm.isRunningAState,
      by simpa [Call.initialized] using hm.initialized,
      by simpa [Call.initialState, List.filterMap_cons] using hm.initialStates⟩
  | runCurrentState input =>
    obtain ⟨⟨visits', hvisits', hinitial⟩, hnext, hrun, hsome⟩ :=
      runCurrentStatePrivate_visits hexit (initialStates visits)
        (fun s hs ↦ hm.history.deliver hs hm.nextState input) h
    obtain ⟨s, hs, -⟩ := runCurrentStatePrivate_some h
    refine ⟨visits', hvisits', hnext, hrun, ?_, ?_⟩
    · simp [hsome, Call.initialized, ← hm.initialized, hs]
    · simp [hinitial, hm.initialStates, Call.initialState]
  | shutdown =>
    simp only [exec, shutdown, Option.bind_eq_bind, Option.bind_eq_some_iff] at h
    obtain ⟨-, -, h⟩ := h
    by_cases hsome : m.currentState.isSome = true
    · rw [if_pos hsome, Option.bind_eq_some_iff] at h
      obtain ⟨m₁, hprivate, h⟩ := h
      obtain ⟨s, hs, hloop⟩ := runCurrentStatePrivate_some hprivate
      -- nothing is requested on `SM_EXIT`, so the loop makes no turn
      have hquiet : (afterCall handlers { m with nextState := none } s .exit).nextState = none := by
        simp [afterCall, hexit s m.owner]
      rw [transitionLoop_of_none hquiet, Option.some.injEq] at hloop
      obtain ⟨visits', hvisits', hinitial⟩ := hm.history.shutdown hs hm.nextState hexit
      subst hloop
      obtain rfl := Option.some.inj h
      refine ⟨visits', hvisits', hquiet, rfl, by simp [Call.initialized], ?_⟩
      simp [hinitial, hm.initialStates, Call.initialState]
    · -- a machine that is not initialized shuts down without a call
      rw [if_neg hsome] at h
      obtain rfl := Option.some.inj h
      refine ⟨visits, hm.history, hm.nextState, hm.isRunningAState, ?_, ?_⟩
      · simpa [Call.initialized] using hsome
      · simpa [Call.initialState, List.filterMap_cons] using hm.initialStates
  | initializeWith initialState =>
    simp only [exec, initializeWith, Option.bind_eq_bind, Option.bind_eq_some_iff] at h
    obtain ⟨-, -, u, hassert, h⟩ := h
    -- by the assertion in a debug build, and by what is asked of the calls in another
    have hcur : m.currentState = none := by
      rcases hdown with rfl | hdown
      · simpa [assertion_eq_some] using hassert
      · simpa [hdown initialState rfl] using hm.initialized
    obtain ⟨s, hs, -⟩ := runCurrentStatePrivate_some h
    obtain rfl : initialState = some s := hs
    obtain ⟨⟨visits', hvisits', hinitial⟩, hnext, hrun, hsome⟩ :=
      runCurrentStatePrivate_visits hexit (initialStates visits ++ [s])
        (fun t ht ↦ by
          obtain rfl := Option.some.inj ht
          exact hm.history.initializeWith hcur hm.nextState s) h
    refine ⟨visits', hvisits', hnext, hrun, by simp [hsome, Call.initialized], ?_⟩
    simp [hinitial, hm.initialStates, Call.initialState]

/-- **Every run is a chain of visits.** After any sequence of calls that return, the log of handler
calls is the concatenation of visits; each visit but the last is over and has led to the next by the
last request of its last call, unless `Initialize` has opened the next; and between calls nothing is
pending or running, the machine being in the state of the open visit. -/
theorem run_visits (hexit : NeverTransitionsOnExit handlers) {owner : σ}
    (hdown : ndebug = false ∨ InitializesWhenDown calls)
    (h : run ndebug handlers fuel (construct owner) calls = some m) :
    ∃ visits : List (Visit S ι),
      m.invocations = visits.flatMap Visit.invocations ∧
      visits.IsChain Visit.Follows ∧
      (∀ v ∈ visits, v.Quiet) ∧
      (∀ v ∈ visits.head?, v.initial = true) ∧
      initialStates visits = calls.filterMap Call.initialState ∧
      (∀ v ∈ visits.getLast?, v.target = none) ∧
      m.nextState = none ∧
      m.isRunningAState = false ∧
      m.currentState = visits.getLast?.bind Visit.openState ∧
      (m.currentState = none ↔ initialized calls = false) := by
  have hsettled : ∃ visits, Settled calls visits m := by
    refine PartialRun.foldlM_invariant
      (P := fun done m ↦ ∃ visits, Settled done visits m) ?_ ?_ h
    · exact ⟨[], VisitHistory.construct owner, rfl, rfl, rfl, rfl⟩
    · rintro done m call m' hpre ⟨visits, hm⟩ hexec
      refine exec_settled hexit call (hdown.imp_right fun hdown s hs ↦ ?_) hm hexec
      exact hdown done s (hs ▸ hpre)
  obtain ⟨visits, hm⟩ := hsettled
  refine ⟨visits, hm.history.log, hm.history.chain, hm.history.quiet, hm.history.first,
    hm.initialStates, fun v hv ↦ ?_, hm.nextState, hm.isRunningAState, hm.history.current, ?_⟩
  · have hpending := hm.history.pending
    rw [hm.nextState, Option.mem_def.1 hv] at hpending
    exact hpending.symm
  · rw [← hm.initialized]
    cases m.currentState <;> simp

/-- Handlers of two states that on every input request the state itself, then nothing, then the
other state. -/
def toggleHandlers : Handlers Bool Unit Unit
  | s, .user _, o => ⟨o, [some s, none, some !s], true⟩
  | _, _, o => ⟨o, [], true⟩

/-- A life of such a machine: two inputs, a shutdown, and a second life. -/
def toggleCalls : List (Call Bool Unit Unit) :=
  [.initializeWith (some false), .runCurrentState (), .runCurrentState (), .shutdown,
    .initializeWith (some true), .runCurrentState ()]

theorem run_visits_toggle :
    ∃ m, run false toggleHandlers 1 (construct ()) toggleCalls = some m ∧
      ∃ visits : List (Visit Bool Unit), m.invocations = visits.flatMap Visit.invocations ∧
        visits.IsChain Visit.Follows ∧ initialStates visits = [false, true] := by
  have hexit : NeverTransitionsOnExit toggleHandlers := fun _ _ ↦ rfl
  obtain ⟨m, hm⟩ : ∃ m, run false toggleHandlers 1 (construct ()) toggleCalls = some m :=
    Option.isSome_iff_exists.1 (by decide)
  obtain ⟨visits, hlog, hchain, -, -, hinitial, -⟩ := run_visits hexit (Or.inl rfl) hm
  exact ⟨m, hm, visits, hlog, hchain, hinitial⟩

end StateMachine

end Touchless
