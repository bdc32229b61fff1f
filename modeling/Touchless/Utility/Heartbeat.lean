import Touchless.Foundations.PartialRun

/-!
# The heartbeat

`Heartbeat` of `Utility/Heartbeat.cpp`: a thread that calls a callback again and again while the
vigilance says so. The thread and the calls of the class share the vigilance and the callback under
a mutex, so a run is a sequence of critical sections in any order, together with the beginnings of
callbacks, for which the thread drops the mutex. Time is left out: a wait may end at any point, by a
notification, by its timeout, or spuriously.

The thread copies the callback before it drops the mutex, and calls the copy. A copy that has been
made is called whatever happens to the vigilance in between; this is the one callback that can begin
after `Stop` or after the signal of the destructor (`quiet_after_stop`).
-/

namespace Touchless

/-- `eVigilance`. -/
inductive Vigilance where
  | terminated
  | active
  | running
  | resetting
  deriving DecidableEq, Repr

namespace Vigilance

/-- The states in ascending order. -/
def number : Vigilance → ℕ
  | terminated => 0
  | active => 1
  | running => 2
  | resetting => 3

instance : LT Vigilance := ⟨fun v w ↦ v.number < w.number⟩
instance : LE Vigilance := ⟨fun v w ↦ v.number ≤ w.number⟩

instance (v w : Vigilance) : Decidable (v < w) := inferInstanceAs (Decidable (v.number < w.number))
instance (v w : Vigilance) : Decidable (v ≤ w) := inferInstanceAs (Decidable (v.number ≤ w.number))

theorem le_active_iff {v : Vigilance} : v ≤ active ↔ v = terminated ∨ v = active := by
  cases v <;> decide

end Vigilance

/-- Where the thread is while it does not hold the mutex; `none` is a function that is empty. -/
inductive Worker (α : Type) where
  | starting
  /-- in `m_Condition.wait` -/
  | waiting
  /-- in `m_Condition.wait_for` -/
  | timing
  /-- with a copy of the callback, before its call -/
  | copied (fn : Option α)
  | calling (fn : α)
  | finished
  deriving DecidableEq

/-- The members of `Heartbeat`, and where its thread is. -/
structure Heartbeat (α : Type) where
  callback : Option α
  vigilance : Vigilance
  worker : Worker α
  deriving DecidableEq

namespace Heartbeat

variable {α : Type}

/-- The constructor. -/
def construct (callback : Option α) : Heartbeat α where
  callback := callback
  vigilance := .active
  worker := .starting

section Calls

variable (h : Heartbeat α)

/-- The critical section of the destructor. -/
def terminate : Heartbeat α := { h with vigilance := .terminated }

/-- `Stop`. -/
def stop : Heartbeat α := if h.vigilance > .active then { h with vigilance := .active } else h

/-- `Start` without a callback, with the value it returns. -/
def start : Heartbeat α × Bool :=
  if h.callback = none ∨ h.vigilance ≠ .active then (h, false)
  else ({ h with vigilance := .running }, true)

/-- The critical section of `Start` with a callback, which then calls the other one. -/
def setCallback (callback : Option α) : Heartbeat α := { h with callback := callback }

/-- `Restart`, with the value it returns. -/
def restart : Heartbeat α × Bool :=
  if h.vigilance < .running ∨ h.callback = none then (h, false)
  else ({ h with vigilance := .resetting }, true)

/-! ### The thread -/

/-- The body of `do`, at `Running` or `Resetting`: the thread waits for the timeout. -/
def awaitBeat : Heartbeat α := { h with vigilance := .running, worker := .timing }

/-- The condition of the outer loop: the thread waits, goes on with the inner loop, or ends. -/
def outerLoop : Heartbeat α :=
  if h.vigilance = .active then { h with worker := .waiting }
  else if h.vigilance ≥ .active then h.awaitBeat
  else { h with worker := .finished }

/-- The condition of the inner loop, from the top of `do` on. -/
def innerLoop : Heartbeat α :=
  if h.vigilance = .resetting ∨ h.vigilance = .running then h.awaitBeat else h.outerLoop

/-- The condition of the inner loop, after the wait: the thread waits again, copies the callback,
or leaves the loop. -/
def afterBeat : Heartbeat α :=
  if h.vigilance = .resetting then h.innerLoop
  else if h.vigilance = .running then { h with worker := .copied h.callback }
  else h.outerLoop

/-- The thread takes the mutex, and goes on until it drops it again. -/
def resume : Option (Heartbeat α) :=
  match h.worker with
  | .starting | .waiting => some h.outerLoop
  | .timing => some h.afterBeat
  | .calling _ => some h.innerLoop
  | .copied _ | .finished => none

/-- The thread calls its copy of the callback. An empty one throws, and the program ends. -/
def invoke : Option (Heartbeat α) :=
  match h.worker with
  | .copied (some fn) => some { h with worker := .calling fn }
  | _ => none

end Calls

/-- What can happen next: a critical section of some thread, or the beginning of a callback. -/
inductive Action (α : Type) where
  | terminate
  | stop
  | start
  | setCallback (callback : Option α)
  | restart
  | resume
  | invoke
  deriving DecidableEq

/-- One action, if it can happen. -/
def step (h : Heartbeat α) : Action α → Option (Heartbeat α)
  | .terminate => some h.terminate
  | .stop => some h.stop
  | .start => some h.start.1
  | .setCallback callback => some (h.setCallback callback)
  | .restart => some h.restart.1
  | .resume => h.resume
  | .invoke => h.invoke

/-- A sequence of actions, if it can happen. -/
def run (h : Heartbeat α) (actions : List (Action α)) : Option (Heartbeat α) :=
  actions.foldlM step h

/-- Does a callback begin? -/
def Action.isInvoke : Action α → Bool
  | .invoke => true
  | _ => false

/-- No call of `Start` in the run returns true. -/
def NoStart (h : Heartbeat α) (actions : List (Action α)) : Prop :=
  ∀ earlier later h', actions = earlier ++ .start :: later → h.run earlier = some h' →
    h'.start.2 = false

/-- The number of copies of the callback that the thread is about to call. -/
def copies (h : Heartbeat α) : ℕ :=
  match h.worker with
  | .copied _ => 1
  | _ => 0

section Runs

variable {h h' : Heartbeat α} {actions : List (Action α)}

theorem run_cons {action : Action α} :
    h.run (action :: actions) = some h' ↔
      ∃ next, h.step action = some next ∧ next.run actions = some h' := by
  rw [run, List.foldlM_cons, Option.bind_eq_bind, Option.bind_eq_some_iff]
  rfl

theorem noStart_cons {action : Action α} {next : Heartbeat α} (hstep : h.step action = some next)
    (hno : h.NoStart (action :: actions)) :
    (action = .start → h.start.2 = false) ∧ next.NoStart actions := by
  refine ⟨fun hstart ↦ hno [] actions h (by rw [hstart]; rfl) rfl, ?_⟩
  intro earlier later h' hsplit hrun
  exact hno (action :: earlier) later h' (by rw [hsplit]; rfl) (run_cons.2 ⟨next, hstep, hrun⟩)

/-- At a low vigilance the outer loop waits or ends, -/
theorem outerLoop_low (hlow : h.vigilance ≤ .active) :
    h.outerLoop.vigilance = h.vigilance ∧ h.outerLoop.copies = 0 := by
  rw [outerLoop]
  rcases Vigilance.le_active_iff.1 hlow with hterminated | hactive
  · rw [hterminated, if_neg (by decide), if_neg (by decide)]
    exact ⟨rfl, rfl⟩
  · rw [if_pos hactive]
    exact ⟨rfl, rfl⟩

/-- and the inner loop is left. -/
theorem innerLoop_low (hlow : h.vigilance ≤ .active) :
    h.innerLoop = h.outerLoop ∧ h.afterBeat = h.outerLoop := by
  have hne : h.vigilance ≠ .resetting ∧ h.vigilance ≠ .running := by
    rcases Vigilance.le_active_iff.1 hlow with hlow | hlow <;> rw [hlow] <;> decide
  rw [innerLoop, afterBeat, if_neg (not_or.2 hne), if_neg hne.1, if_neg hne.2]
  exact ⟨rfl, rfl⟩

/-- Then the thread copies nothing. -/
theorem resume_low (hlow : h.vigilance ≤ .active) (hresume : h.resume = some h') :
    h'.vigilance = h.vigilance ∧ h'.copies = 0 := by
  obtain ⟨hinner, hafter⟩ := innerLoop_low hlow
  have hnext : h' = h.outerLoop := by
    rw [resume, hinner, hafter] at hresume
    cases hworker : h.worker <;> rw [hworker] at hresume <;> cases hresume <;> rfl
  rw [hnext]
  exact outerLoop_low hlow

/-- `Restart` does nothing, -/
theorem restart_low (hlow : h.vigilance ≤ .active) : h.restart = (h, false) := by
  have hlt : h.vigilance < .running := by
    rcases Vigilance.le_active_iff.1 hlow with hlow | hlow <;> rw [hlow] <;> decide
  rw [restart, if_pos (.inl hlt)]

/-- and so do `Stop` -/
theorem stop_low (hlow : h.vigilance ≤ .active) : h.stop = h := by
  have hgt : ¬h.vigilance > .active := by
    rcases Vigilance.le_active_iff.1 hlow with hlow | hlow <;> rw [hlow] <;> decide
  rw [stop, if_neg hgt]

/-- and a call of `Start` that returns false. -/
theorem start_refused (hno : h.start.2 = false) : h.start.1 = h := by
  rw [start] at hno ⊢
  split_ifs at hno ⊢
  rfl

/-- **A step** that starts nothing leaves the vigilance low, and begins a callback only from a copy,
which it uses up. -/
theorem step_low (hlow : h.vigilance ≤ .active) {action : Action α}
    (hstep : h.step action = some h') (hno : action = .start → h.start.2 = false) :
    h'.vigilance ≤ .active ∧ (h.vigilance = .terminated → h'.vigilance = .terminated) ∧
      (if action.isInvoke then 1 else 0) + h'.copies ≤ h.copies := by
  have hsame : h' = h → action.isInvoke = false → h'.vigilance ≤ .active ∧
      (h.vigilance = .terminated → h'.vigilance = .terminated) ∧
        (if action.isInvoke then 1 else 0) + h'.copies ≤ h.copies := by
    rintro rfl hinvoke
    rw [hinvoke, if_neg Bool.false_ne_true, Nat.zero_add]
    exact ⟨hlow, id, le_rfl⟩
  cases action with
  | terminate =>
    cases hstep
    exact ⟨by show Vigilance.terminated ≤ .active; decide, fun _ ↦ rfl, Nat.zero_add _ |>.le⟩
  | stop => exact hsame ((Option.some.inj hstep).symm.trans (stop_low hlow)) rfl
  | start => exact hsame ((Option.some.inj hstep).symm.trans (start_refused (hno rfl))) rfl
  | setCallback callback =>
    cases hstep
    exact ⟨hlow, id, Nat.zero_add _ |>.le⟩
  | restart =>
    exact hsame ((Option.some.inj hstep).symm.trans (congrArg Prod.fst (restart_low hlow))) rfl
  | resume =>
    obtain ⟨hvigilance, hcopies⟩ := resume_low hlow hstep
    rw [hvigilance, hcopies]
    exact ⟨hlow, id, Nat.zero_le _⟩
  | invoke =>
    obtain ⟨fn, hworker, rfl⟩ : ∃ fn, h.worker = .copied (some fn) ∧
        h' = { h with worker := .calling fn } := by
      have hinvoke : h.invoke = some h' := hstep
      rw [invoke] at hinvoke
      split at hinvoke
      · rename_i fn hworker
        exact ⟨fn, hworker, (Option.some.inj hinvoke).symm⟩
      · cases hinvoke
    refine ⟨hlow, id, ?_⟩
    rw [copies, copies, hworker]
    exact le_rfl

/-- **A run** that starts nothing begins as many callbacks as there are copies, at most. -/
theorem run_low (hlow : h.vigilance ≤ .active) (hrun : h.run actions = some h')
    (hno : h.NoStart actions) :
    (h.vigilance = .terminated → h'.vigilance = .terminated) ∧
      actions.countP Action.isInvoke ≤ h.copies := by
  induction actions generalizing h with
  | nil =>
    cases hrun
    exact ⟨id, Nat.zero_le _⟩
  | cons action actions ih =>
    obtain ⟨next, hstep, hrest⟩ := run_cons.1 hrun
    obtain ⟨hnoFirst, hnoRest⟩ := noStart_cons hstep hno
    obtain ⟨hlowNext, hterminated, hcount⟩ := step_low hlow hstep hnoFirst
    obtain ⟨hterminatedRest, hcountRest⟩ := ih hlowNext hrest hnoRest
    refine ⟨fun h ↦ hterminatedRest (hterminated h), ?_⟩
    rw [List.countP_cons]
    omega

/-- `Terminated` stays, -/
theorem run_terminated (hterminated : h.vigilance = .terminated) (hrun : h.run actions = some h') :
    h'.vigilance = .terminated := by
  refine PartialRun.foldlM_invariant (P := fun _ h ↦ h.vigilance = .terminated) hterminated
    (fun _ h _ h' _ hvigilance hstep ↦ ?_) hrun
  have hlow : h.vigilance ≤ .active := Vigilance.le_active_iff.2 (.inl hvigilance)
  have hno : h.start.2 = false := by
    rw [start, if_pos (.inr (by rw [hvigilance]; decide))]
  exact (step_low hlow hstep fun _ ↦ hno).2.1 hvigilance

/-- and nothing starts. -/
theorem noStart_terminated (hterminated : h.vigilance = .terminated) : h.NoStart actions := by
  intro earlier later h' _ hrun
  have hvigilance := run_terminated hterminated hrun
  rw [start, if_pos (.inr (by rw [hvigilance]; decide))]

/-- After `Stop` the vigilance is low. -/
theorem stop_le (h : Heartbeat α) : h.stop.vigilance ≤ .active ∧ h.stop.copies = h.copies := by
  rw [stop]
  split_ifs with hgt
  · exact ⟨by show Vigilance.active ≤ .active; decide, rfl⟩
  · exact ⟨Nat.not_lt.1 hgt, rfl⟩

theorem copies_le_one (h : Heartbeat α) : h.copies ≤ 1 := by
  rw [copies]
  split
  · exact le_rfl
  · exact Nat.zero_le 1

end Runs

theorem run_append {h h' : Heartbeat α} {earlier later : List (Action α)} {action : Action α} :
    h.run (earlier ++ action :: later) = some h' ↔
      ∃ before next, h.run earlier = some before ∧ before.step action = some next ∧
        next.run later = some h' := by
  simp only [run, PartialRun.foldlM_append_eq_some]
  exact exists_congr fun before ↦ ⟨fun ⟨hrun, hrest⟩ ↦ (run_cons.1 hrest).imp fun _ h ↦ ⟨hrun, h⟩,
    fun ⟨next, hrun, h⟩ ↦ ⟨hrun, run_cons.2 ⟨next, h⟩⟩⟩

/-- **After `Stop`**, until a call of `Start` returns true, at most one callback begins: that of a
copy which the thread had made when `Stop` took the mutex. The same holds after the signal of the
destructor, and the vigilance stays `Terminated`. -/
theorem quiet_after_stop (callback : Option α) (earlier later : List (Action α))
    (h' : Heartbeat α) :
    ((construct callback).run (earlier ++ .stop :: later) = some h' →
      ∃ h, (construct callback).run earlier = some h ∧ h.copies ≤ 1 ∧
        (h.stop.NoStart later → later.countP Action.isInvoke ≤ h.copies)) ∧
    ((construct callback).run (earlier ++ .terminate :: later) = some h' →
      ∃ h, (construct callback).run earlier = some h ∧ h.copies ≤ 1 ∧
        h'.vigilance = .terminated ∧ later.countP Action.isInvoke ≤ h.copies) := by
  constructor
  · intro hrun
    obtain ⟨h, next, hearlier, hstop, hlater⟩ := run_append.1 hrun
    obtain rfl : h.stop = next := Option.some.inj hstop
    obtain ⟨hlow, hcopies⟩ := h.stop_le
    refine ⟨h, hearlier, h.copies_le_one, fun hno ↦ ?_⟩
    rw [← hcopies]
    exact (run_low hlow hlater hno).2
  · intro hrun
    obtain ⟨h, next, hearlier, hterminate, hlater⟩ := run_append.1 hrun
    obtain rfl : h.terminate = next := Option.some.inj hterminate
    have hlow : h.terminate.vigilance ≤ .active := by
      show Vigilance.terminated ≤ .active
      decide
    exact ⟨h, hearlier, h.copies_le_one, run_terminated rfl hlater,
      (run_low hlow hlater (noStart_terminated rfl)).2⟩

/-- The thread has just copied the callback when `Stop` comes; it calls the copy, and waits. -/
theorem quiet_after_stop_copied :
    ∃ h : Heartbeat ℕ, (construct (some 0)).run [.start, .resume, .resume] = some h ∧
      h.copies ≤ 1 ∧ ([.invoke, .resume] : List (Action ℕ)).countP Action.isInvoke ≤ h.copies := by
  obtain ⟨h, hrun, hcopies, hquiet⟩ := (quiet_after_stop (some 0) [.start, .resume, .resume]
    [.invoke, .resume] ⟨some 0, .active, .waiting⟩).1 (by decide)
  refine ⟨h, hrun, hcopies, hquiet ?_⟩
  rintro earlier later h' hsplit -
  rcases earlier with - | ⟨action, - | ⟨action', earlier⟩⟩ <;> simp at hsplit

/-- That callback begins after `Stop`, and so it can after the signal of the destructor. -/
theorem begins_after_stop :
    ¬(∀ (earlier later : List (Action ℕ)) (h h' : Heartbeat ℕ),
      (construct (some 0)).run earlier = some h → h.stop.run later = some h' →
        h.stop.NoStart later → .invoke ∉ later) ∧
    ¬∀ (earlier later : List (Action ℕ)) (h h' : Heartbeat ℕ),
      (construct (some 0)).run earlier = some h → h.terminate.run later = some h' →
        .invoke ∉ later := by
  have hrun : (construct (some 0)).run [.start, .resume, .resume] =
      some ⟨some 0, .running, .copied (some 0)⟩ := by decide
  constructor
  · intro hquiet
    refine hquiet _ [.invoke] _ ⟨some 0, .active, .calling 0⟩ hrun (by decide) ?_
      List.mem_cons_self
    rintro earlier later h' hsplit -
    rcases earlier with - | ⟨action, earlier⟩ <;> simp at hsplit
  · intro hquiet
    exact hquiet _ [.invoke] _ ⟨some 0, .terminated, .calling 0⟩ hrun (by decide)
      List.mem_cons_self

end Heartbeat

end Touchless
