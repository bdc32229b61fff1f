import Touchless.Utility.StateMachine

/-!
# Contracts for state handlers

A family of handlers is verified one handler call at a time. A `Contract` says what holds while the
machine is in a state, possibly with a request pending (`Inside`), what holds between the exit of
one state and the entry of the next (`Between`), and what holds after the exit of the last one
(`Final`). The machine's operations then keep it, whatever transitions they chain together. What
concerns the transition loop alone is `Turns`: it carries what the first handler call has
established.

The other two rules concern a single input: `runCurrentState_returns`, with a rank of the states
that the handlers of `SM_ENTER` lower, says that the transition loop ends, and
`runCurrentState_direct` and `runCurrentState_stays` say where it ends when the first transition is
the last, or when there is none.

The assertions are compiled out throughout.
-/

namespace Touchless.StateMachine

variable {S ι σ : Type} {handlers : Handlers S ι σ} {fuel : ℕ} {m m' : StateMachine S ι σ}

/-- A machine between two calls, in a state. -/
structure InState (m : StateMachine S ι σ) (s : S) : Prop where
  current : m.currentState = some s
  next : m.nextState = none
  idle : m.isRunningAState = false

/-- A machine is in one state. -/
theorem InState.eq_of_current {s t : S} (h : m.InState s) (hcur : m.currentState = some t) :
    s = t :=
  Option.some.inj (h.current.symm.trans hcur)

/-- What the handlers keep. -/
structure Contract (handlers : Handlers S ι σ) (Inside : S → Option S → σ → Prop)
    (Between : S → σ → Prop) (Final : σ → Prop) : Prop where
  neverTransitionsOnExit : NeverTransitionsOnExit handlers
  input : ∀ s i o, Inside s none o →
    Inside s (netRequest (handlers s (.user i) o).requests) (handlers s (.user i) o).owner
  exit : ∀ s t o, Inside s (some t) o → Between t (handlers s .exit o).owner
  enter : ∀ t o, Between t o →
    Inside t (netRequest (handlers t .enter o).requests) (handlers t .enter o).owner
  final : ∀ s o, Inside s none o → Final (handlers s .exit o).owner

section Contract

variable {Inside : S → Option S → σ → Prop} {Between : S → σ → Prop} {Final : σ → Prop}

/-- What every handler keeps of the members, in whatever state and on whatever input. -/
theorem Contract.of_handlers {I : σ → Prop} (hexit : NeverTransitionsOnExit handlers)
    (h : ∀ s input o, I o → I (handlers s input o).owner) :
    Contract handlers (fun _ _ ↦ I) (fun _ ↦ I) I where
  neverTransitionsOnExit := hexit
  input s i o := h s (.user i) o
  exit s _ o := h s .exit o
  enter t o := h t .enter o
  final s o := h s .exit o

/-- What holds of the machine in the transition loop. -/
def Obeys (Inside : S → Option S → σ → Prop) (m : StateMachine S ι σ) : Prop :=
  ∀ s, m.currentState = some s → Inside s m.nextState m.owner

/-- What the transition loop keeps: a turn exits one state and enters another. -/
structure Turns (handlers : Handlers S ι σ) (Inside : S → Option S → σ → Prop)
    (Between : S → σ → Prop) : Prop where
  neverTransitionsOnExit : NeverTransitionsOnExit handlers
  exit : ∀ s t o, Inside s (some t) o → Between t (handlers s .exit o).owner
  enter : ∀ t o, Between t o →
    Inside t (netRequest (handlers t .enter o).requests) (handlers t .enter o).owner

theorem Contract.turns (h : Contract handlers Inside Between Final) :
    Turns handlers Inside Between :=
  ⟨h.neverTransitionsOnExit, h.exit, h.enter⟩

/-- **What the first call establishes** and the turns keep holds in the end. -/
theorem Turns.runCurrentStatePrivate (h : Turns handlers Inside Between)
    {input : StateMachineInput ι}
    (hcall : ∀ s, m.currentState = some s →
      Obeys Inside (afterCall handlers { m with nextState := none } s input))
    (hrun : m.runCurrentStatePrivate true handlers fuel input = some m') :
    ∃ s, m'.InState s ∧ Inside s none m'.owner := by
  obtain ⟨hobeys, hnext, hidle, hcur⟩ :=
    runCurrentStatePrivate_preserves h.neverTransitionsOnExit (P := Obeys Inside) hcall
      (fun m s t hs ht hobeys u hu ↦ by
        obtain rfl : t = u := Option.some.inj hu
        exact h.enter t _ (h.exit s t m.owner (ht ▸ hobeys s hs))) hrun
  obtain ⟨s, hs⟩ := Option.isSome_iff_exists.1 hcur
  have hinside := hobeys s hs
  rw [hnext] at hinside
  exact ⟨s, ⟨hs, hnext, hidle⟩, hinside⟩

/-- The same for an input. -/
theorem Turns.runCurrentState (h : Turns handlers Inside Between) {i : ι}
    (hfirst : ∀ s, m.currentState = some s →
      Inside s (netRequest (handlers s (.user i) m.owner).requests)
        (handlers s (.user i) m.owner).owner)
    (hrun : m.runCurrentState true handlers fuel i = some m') :
    ∃ s, m'.InState s ∧ Inside s none m'.owner := by
  refine h.runCurrentStatePrivate (fun s hs u hu ↦ ?_) hrun
  obtain rfl : s = u := Option.some.inj (hs.symm.trans hu)
  exact hfirst s hs

/-- The same for an initialization. -/
theorem Turns.initializeWith (h : Turns handlers Inside Between) {s : S}
    (hbetween : Between s m.owner)
    (hrun : m.initializeWith true handlers fuel (some s) = some m') :
    ∃ s', m'.InState s' ∧ Inside s' none m'.owner := by
  simp only [StateMachine.initializeWith, Option.bind_eq_bind, Option.bind_eq_some_iff] at hrun
  obtain ⟨-, -, -, -, hrun⟩ := hrun
  refine h.runCurrentStatePrivate (fun t ht u hu ↦ ?_) hrun
  obtain rfl : s = t := Option.some.inj ht
  obtain rfl : s = u := Option.some.inj hu
  exact h.enter s m.owner hbetween

/-- **An input** keeps a contract. -/
theorem Contract.runCurrentState (h : Contract handlers Inside Between Final) {s : S} {i : ι}
    (hs : m.currentState = some s) (hinside : Inside s none m.owner)
    (hrun : m.runCurrentState true handlers fuel i = some m') :
    ∃ s', m'.InState s' ∧ Inside s' none m'.owner := by
  refine h.turns.runCurrentState (fun t ht ↦ ?_) hrun
  obtain rfl : s = t := Option.some.inj (hs.symm.trans ht)
  exact h.input s i m.owner hinside

/-- **`Initialize`** establishes a contract. -/
theorem Contract.initializeWith (h : Contract handlers Inside Between Final) {s : S}
    (hbetween : Between s m.owner)
    (hrun : m.initializeWith true handlers fuel (some s) = some m') :
    ∃ s', m'.InState s' ∧ Inside s' none m'.owner :=
  h.turns.initializeWith hbetween hrun

/-- **`Shutdown`** calls one handler, since no handler requests anything on `SM_EXIT`. -/
theorem owner_shutdown (hexit : NeverTransitionsOnExit handlers) {s : S}
    (hs : m.currentState = some s) (hrun : m.shutdown true handlers fuel = some m') :
    m'.owner = (handlers s .exit m.owner).owner := by
  simp only [StateMachine.shutdown, hs, Option.isSome_some, if_true, Option.bind_eq_bind,
    Option.bind_eq_some_iff, Option.pure_def, Option.some.injEq] at hrun
  obtain ⟨-, -, middle, hmiddle, rfl⟩ := hrun
  obtain ⟨t, ht, hloop⟩ := runCurrentStatePrivate_some hmiddle
  obtain rfl : s = t := Option.some.inj (hs.symm.trans ht)
  rw [transitionLoop_of_none (by simp [afterCall, hexit s m.owner]), Option.some.injEq] at hloop
  rw [← hloop]
  rfl

/-- A machine that has not been started is left alone. -/
theorem shutdown_of_none (hcur : m.currentState = none)
    (hrun : m.shutdown true handlers fuel = some m') : m' = m := by
  simpa [StateMachine.shutdown, assertion, hcur, eq_comm] using hrun

/-- `Shutdown` ends a contract. -/
theorem Contract.shutdown (h : Contract handlers Inside Between Final) {s : S}
    (hs : m.currentState = some s) (hinside : Inside s none m.owner)
    (hrun : m.shutdown true handlers fuel = some m') : Final m'.owner := by
  rw [owner_shutdown h.neverTransitionsOnExit hs hrun]
  exact h.final s m.owner hinside

/-- What a contract says of a machine between two calls, started or not: it is in a state where the
contract holds, or ready to enter the first one. -/
structure Kept (Inside : S → Option S → σ → Prop) (Between : S → σ → Prop) (first : S)
    (m : StateMachine S ι σ) : Prop where
  start : m.currentState = none → Between first m.owner
  inside : ∀ s, m.currentState = some s → m.InState s ∧ Inside s none m.owner

theorem Kept.construct {first : S} {owner : σ} (h : Between first owner) :
    Kept Inside Between first (StateMachine.construct owner : StateMachine S ι σ) :=
  ⟨fun _ ↦ h, by simp [StateMachine.construct]⟩

theorem Kept.of_inState {first s : S} (hs : m.InState s) (hinside : Inside s none m.owner) :
    Kept Inside Between first m := by
  refine ⟨fun hnone ↦ ?_, fun t ht ↦ ?_⟩
  · rw [hs.current] at hnone
    cases hnone
  · obtain rfl : s = t := hs.eq_of_current ht
    exact ⟨hs, hinside⟩

/-- What all states keep is kept by the members of the machine. -/
theorem Kept.owner {I : σ → Prop} {first : S} (h : Kept (fun _ _ ↦ I) (fun _ ↦ I) first m) :
    I m.owner := by
  cases hcur : m.currentState with
  | none => exact h.start hcur
  | some s => exact (h.inside s hcur).2

/-- `if (!IsInitialized()) Initialize(state)`. -/
def ensureInitialized (handlers : Handlers S ι σ) (fuel : ℕ) (m : StateMachine S ι σ) (state : S) :
    Option (StateMachine S ι σ) :=
  if m.currentState.isNone then m.initializeWith true handlers fuel (some state) else some m

/-- `Initialize` where needed. -/
theorem Contract.ensureInitialized (h : Contract handlers Inside Between Final) {first : S}
    (hkept : Kept Inside Between first m)
    (hrun : m.ensureInitialized handlers fuel first = some m') :
    ∃ s, m'.InState s ∧ Inside s none m'.owner := by
  rw [StateMachine.ensureInitialized] at hrun
  cases hcur : m.currentState with
  | none =>
    rw [hcur] at hrun
    exact h.initializeWith (hkept.start hcur) hrun
  | some s =>
    rw [hcur] at hrun
    obtain rfl : m = m' := Option.some.inj hrun
    exact ⟨s, hkept.inside s hcur⟩

/-- An input to a machine that may not have been started: it does not return then. -/
theorem Contract.runCurrentState_of_kept (h : Contract handlers Inside Between Final) {first : S}
    {i : ι} (hkept : Kept Inside Between first m)
    (hrun : m.runCurrentState true handlers fuel i = some m') :
    ∃ s, m'.InState s ∧ Inside s none m'.owner := by
  obtain ⟨s, hs, -⟩ := runCurrentStatePrivate_some hrun
  exact h.runCurrentState hs (hkept.inside s hs).2 hrun

/-- `Shutdown` of a machine that may not have been started. -/
theorem Contract.shutdown_of_kept (h : Contract handlers Inside Between Final) {first : S}
    (hkept : Kept Inside Between first m) (hfirst : ∀ o, Between first o → Final o)
    (hrun : m.shutdown true handlers fuel = some m') : Final m'.owner := by
  cases hcur : m.currentState with
  | none =>
    rw [shutdown_of_none hcur hrun]
    exact hfirst _ (hkept.start hcur)
  | some s => exact h.shutdown hcur (hkept.inside s hcur).2 hrun

end Contract

/-! ### Where an input leads -/

theorem runCurrentState_eq {s : S} (hcur : m.currentState = some s) (i : ι) :
    m.runCurrentState true handlers fuel i =
      transitionLoop true handlers fuel
        (afterCall handlers { m with nextState := none } s (.user i)) := by
  simp only [runCurrentState, runCurrentStatePrivate, Option.bind_eq_bind, assertion, Bool.true_or,
    if_true, Option.bind_some, assertHandled]
  rw [callCurrentState_eq (m := { m with nextState := none }) hcur rfl]
  rfl

/-- **An input without a request** leaves the machine in its state. -/
theorem runCurrentState_stays {s : S} (hcur : m.currentState = some s) {i : ι}
    (hrequest : netRequest (handlers s (.user i) m.owner).requests = none) :
    ∃ m', m.runCurrentState true handlers fuel i = some m' ∧ m'.InState s ∧
      m'.owner = (handlers s (.user i) m.owner).owner := by
  rw [runCurrentState_eq hcur, transitionLoop_of_none hrequest]
  exact ⟨_, rfl, ⟨hcur, hrequest, rfl⟩, rfl⟩

/-- **An input whose request is the last** leads to the requested state. -/
theorem runCurrentState_direct (hexit : NeverTransitionsOnExit handlers) {s t : S}
    (hcur : m.currentState = some s) {i : ι}
    (hrequest : netRequest (handlers s (.user i) m.owner).requests = some t)
    (henter : ∀ o, netRequest (handlers t .enter o).requests = none) (hfuel : 0 < fuel) :
    ∃ m', m.runCurrentState true handlers fuel i = some m' ∧ m'.InState t := by
  obtain ⟨fuel, rfl⟩ : ∃ k, fuel = k + 1 := ⟨fuel - 1, by omega⟩
  rw [runCurrentState_eq hcur]
  set called := afterCall handlers { m with nextState := none } s (.user i)
  have hcalled : called.currentState = some s := hcur
  have hnext : called.nextState = some t := hrequest
  rw [transitionLoop_succ hexit hcalled hnext, transitionLoop_of_none (henter _)]
  exact ⟨_, rfl, rfl, henter _, rfl⟩

/-- **A state that every other one requests**, and that requests nothing when it is entered, is
where an input ends. -/
theorem runCurrentState_reaches (hexit : NeverTransitionsOnExit handlers) {t : S} {i : ι}
    (henter : ∀ o, netRequest (handlers t .enter o).requests = none)
    (hstays : m.currentState = some t → netRequest (handlers t (.user i) m.owner).requests = none)
    (hleaves : ∀ s, m.currentState = some s → s ≠ t →
      netRequest (handlers s (.user i) m.owner).requests = some t)
    (hrun : m.runCurrentState true handlers fuel i = some m') : m'.InState t := by
  obtain ⟨hreaches, hnext, hidle, -⟩ := runCurrentStatePrivate_preserves hexit
    (P := fun m ↦ m.nextState = none ∧ m.currentState = some t ∨ m.nextState = some t)
    (fun s hs ↦ by
      by_cases hst : s = t
      · exact .inl ⟨hst ▸ hstays (hst ▸ hs), hst ▸ hs⟩
      · exact .inr (hleaves s hs hst))
    (fun m s u _ hu hP ↦ by
      rcases hP with ⟨hnone, -⟩ | ht
      · exact absurd (hnone.symm.trans hu) (by simp)
      · obtain rfl : u = t := Option.some.inj (hu.symm.trans ht)
        exact .inl ⟨henter _, rfl⟩) hrun
  rcases hreaches with ⟨-, hcur⟩ | ht
  · exact ⟨hcur, hnext, hidle⟩
  · exact absurd (hnext.symm.trans ht) (by simp)

/-- **A state that always requests another** is not where an input ends. -/
theorem runCurrentState_leaves (hexit : NeverTransitionsOnExit handlers) {t : S} {i : ι}
    (henter : ∀ o, netRequest (handlers t .enter o).requests ≠ none)
    (hinput : m.currentState = some t → netRequest (handlers t (.user i) m.owner).requests ≠ none)
    (hrun : m.runCurrentState true handlers fuel i = some m') : m'.currentState ≠ some t := by
  obtain ⟨hrequests, hnext, -, -⟩ := runCurrentStatePrivate_preserves hexit
    (P := fun m ↦ m.currentState = some t → m.nextState ≠ none)
    (fun s hs hcur ↦ by
      obtain rfl : s = t := Option.some.inj (hs.symm.trans hcur)
      exact hinput hs)
    (fun m s u _ _ _ hcur ↦ by
      obtain rfl : u = t := Option.some.inj hcur
      exact henter _) hrun
  exact fun hcur ↦ hrequests hcur hnext

/-- `Initialize` into a state that requests nothing when it is entered. -/
theorem initializeWith_stays {s : S}
    (henter : ∀ o, netRequest (handlers s .enter o).requests = none) :
    ∃ m', m.initializeWith true handlers fuel (some s) = some m' ∧ m'.InState s := by
  simp only [initializeWith, runCurrentStatePrivate, Option.bind_eq_bind, assertion, Bool.true_or,
    if_true, Option.bind_some, assertHandled]
  rw [callCurrentState_eq (m := { m with currentState := some s, nextState := none }) (s := s)
    rfl rfl]
  simp only [Option.bind_some]
  rw [transitionLoop_of_none (henter _)]
  exact ⟨_, rfl, rfl, henter _, rfl⟩

/-- What a transition loop started by one handler call needs to end. -/
def Lowers (handlers : Handlers S ι σ) (rank : S → ℕ) : Prop :=
  ∀ t o u, netRequest (handlers t .enter o).requests = some u → rank u < rank t

/-- **Handlers that lower a rank on `SM_ENTER`** let the transition loop end, from every state of
the machine and whatever its first handler requests. -/
theorem transitionLoop_returns (hexit : NeverTransitionsOnExit handlers) {rank : S → ℕ}
    (hrank : Lowers handlers rank) {s : S} (hcur : m.currentState = some s)
    (hfuel : ∀ t, rank t < fuel) : ∃ m', transitionLoop true handlers fuel m = some m' :=
  transitionLoop_isSome_of_rank hexit (P := fun _ ↦ True) rank (fun _ _ _ _ _ _ ↦ trivial)
    (fun _ _ t u _ _ _ hu ↦ hrank t _ u hu) (by simp [hcur]) trivial fun t _ ↦ hfuel t

theorem runCurrentState_returns (hexit : NeverTransitionsOnExit handlers) {rank : S → ℕ}
    (hrank : Lowers handlers rank) {s : S} (hcur : m.currentState = some s)
    (hfuel : ∀ t, rank t < fuel) (i : ι) :
    ∃ m', m.runCurrentState true handlers fuel i = some m' := by
  rw [runCurrentState_eq hcur]
  exact transitionLoop_returns hexit hrank (by exact hcur) hfuel

theorem initializeWith_returns (hexit : NeverTransitionsOnExit handlers) {rank : S → ℕ}
    (hrank : Lowers handlers rank) (hfuel : ∀ t, rank t < fuel) (s : S) :
    ∃ m', m.initializeWith true handlers fuel (some s) = some m' := by
  simp only [initializeWith, runCurrentStatePrivate, Option.bind_eq_bind, assertion, Bool.true_or,
    if_true, Option.bind_some, assertHandled]
  rw [callCurrentState_eq (m := { m with currentState := some s, nextState := none }) (s := s)
    rfl rfl]
  exact transitionLoop_returns hexit hrank rfl hfuel

theorem shutdown_returns (hexit : NeverTransitionsOnExit handlers) (fuel : ℕ)
    (m : StateMachine S ι σ) :
    ∃ m', m.shutdown true handlers fuel = some m' := by
  cases hcur : m.currentState with
  | none => exact ⟨m, by simp [shutdown, assertion, hcur]⟩
  | some s =>
    have hexited : m.runCurrentStatePrivate true handlers fuel .exit =
        some (afterCall handlers { m with nextState := none } s .exit) := by
      simp only [runCurrentStatePrivate, Option.bind_eq_bind, assertion, Bool.true_or, if_true,
        Option.bind_some, assertHandled]
      rw [callCurrentState_eq (m := { m with nextState := none }) hcur rfl]
      exact transitionLoop_of_none (by simp [afterCall, hexit s m.owner])
    refine ⟨{ afterCall handlers { m with nextState := none } s .exit with currentState := none },
      ?_⟩
    simp [shutdown, assertion, hcur, hexited]

theorem ensureInitialized_returns (hexit : NeverTransitionsOnExit handlers) {rank : S → ℕ}
    (hrank : Lowers handlers rank) (hfuel : ∀ t, rank t < fuel) (m : StateMachine S ι σ) (s : S) :
    ∃ m', m.ensureInitialized handlers fuel s = some m' := by
  rw [ensureInitialized]
  split_ifs
  · exact initializeWith_returns hexit hrank hfuel s
  · exact ⟨m, rfl⟩

end Touchless.StateMachine
