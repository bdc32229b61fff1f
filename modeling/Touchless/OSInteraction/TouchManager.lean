import Touchless.OSInteraction.OSCall

/-!
# The touch manager

`TouchManager` of `OSInteraction/TouchManager.cpp`: the base class keeps the set of touches and
turns each new set into calls of the virtual functions of a backend, for touches that disappear,
appear, or stay. Its two loops change the stored set while they run.

What reaches the backend is nevertheless a function of the old and the new set (`setTouches_eq`):
every id in one of the two sets gives exactly one change, in the order of `changes`.
-/

namespace Touchless

/-- `std::set<Touch>`, ordered by the ids. -/
structure TouchSet (F : Type) where
  map : OrderedMap ℕ (Touch F)
  /-- every touch is under its own id -/
  keyed : ∀ id t, map.find? id = some t → t.id = id

namespace TouchSet

variable {F : Type}

def empty : TouchSet F := ⟨OrderedMap.empty, by simp⟩

def find? (s : TouchSet F) (id : ℕ) : Option (Touch F) := s.map.find? id

/-- The ids, in the order of the set. -/
def ids (s : TouchSet F) : List ℕ := s.map.keys

/-- The touches, in the order of the set. -/
def toList (s : TouchSet F) : List (Touch F) := s.map.entries.map Prod.snd

def isEmpty (s : TouchSet F) : Bool := s.map.entries.isEmpty

def erase (s : TouchSet F) (id : ℕ) : TouchSet F where
  map := s.map.erase id
  keyed i t h := by
    rw [OrderedMap.find?_erase] at h
    split_ifs at h
    exact s.keyed i t h

/-- `insert`, for a touch whose id is not in the set. -/
def insert (s : TouchSet F) (t : Touch F) : TouchSet F where
  map := s.map.insert t.id t
  keyed i u h := by
    rw [OrderedMap.find?_insert] at h
    split_ifs at h with hid
    · rw [← Option.some.inj h, hid]
    · exact s.keyed i u h

variable {s : TouchSet F} {t : Touch F} {id i : ℕ}

@[simp] theorem find?_empty : (empty : TouchSet F).find? id = none := rfl

theorem find?_erase : (s.erase id).find? i = if i = id then none else s.find? i :=
  s.map.find?_erase id i

theorem find?_insert : (s.insert t).find? i = if i = t.id then some t else s.find? i :=
  s.map.find?_insert t.id i t

theorem ext {s s' : TouchSet F} (h : ∀ id, s.find? id = s'.find? id) : s = s' := by
  obtain ⟨map, hkeyed⟩ := s
  obtain ⟨map', hkeyed'⟩ := s'
  obtain rfl := OrderedMap.ext h
  rfl

theorem id_eq (h : s.find? id = some t) : t.id = id := s.keyed id t h

theorem mem_toList : t ∈ s.toList ↔ s.find? t.id = some t := by
  simp only [toList, List.mem_map]
  constructor
  · rintro ⟨p, hp, rfl⟩
    have hfind := OrderedMap.mem_entries.1 hp
    rwa [← s.keyed _ _ hfind] at hfind
  · exact fun h ↦ ⟨(t.id, t), OrderedMap.mem_entries.2 h, rfl⟩

theorem mem_ids : id ∈ s.ids ↔ (s.find? id).isSome = true := OrderedMap.mem_keys

theorem nodup_ids (s : TouchSet F) : s.ids.Nodup := s.map.nodup_keys

theorem ids_eq (s : TouchSet F) : s.ids = s.toList.map Touch.id := by
  simp only [ids, OrderedMap.keys, toList, List.map_map]
  exact List.map_congr_left fun p hp ↦ (s.keyed _ _ (OrderedMap.mem_entries.1 hp)).symm

/-- Searching the touches for an id is looking it up. -/
theorem find?_toList (s : TouchSet F) (id : ℕ) :
    (s.toList.find? fun t ↦ t.id = id) = s.find? id := by
  cases hfind : s.toList.find? fun t ↦ t.id = id with
  | some t =>
    obtain rfl : t.id = id := by simpa using List.find?_some hfind
    exact (mem_toList.1 (List.mem_of_find?_eq_some hfind)).symm
  | none =>
    cases hstored : s.find? id with
    | none => rfl
    | some t =>
      have hid := id_eq hstored
      rw [← hid] at hstored
      exact absurd hid (by simpa using List.find?_eq_none.1 hfind t (mem_toList.2 hstored))

theorem isEmpty_iff : s.isEmpty = true ↔ s = empty := by
  obtain ⟨⟨entries, hsorted⟩, hkeyed⟩ := s
  constructor
  · intro h
    obtain rfl : entries = [] := List.isEmpty_iff.1 h
    rfl
  · intro h
    obtain rfl : entries = [] := congrArg (fun s ↦ s.map.entries) h
    rfl

end TouchSet

/-- The virtual functions of a touch manager, over the members of the derived class. -/
structure TouchBackend (F σ : Type) where
  addTouch : Touch F → σ → σ
  /-- the old touch, then the new one -/
  updateTouch : Touch F → Touch F → σ → σ
  removeTouch : Touch F → σ → σ
  finishFrame : σ → σ
  onRemoveAllTouches : σ → σ

/-- The members of `TouchManager`, and those of the derived class. -/
@[ext]
structure TouchManager (F σ : Type) where
  /-- `m_touches` -/
  touches : TouchSet F
  backend : σ

namespace TouchManager

variable {F σ : Type} (B : TouchBackend F σ)

/-- One turn of the first loop, at the prior touch with an id. -/
def visitPrior (newTouches : TouchSet F) (m : TouchManager F σ) (id : ℕ) : TouchManager F σ :=
  match m.touches.find? id with
  | none => m
  | some priorTouch =>
    match newTouches.find? priorTouch.id with
    | none => ⟨m.touches.erase priorTouch.id, B.removeTouch priorTouch m.backend⟩
    | some _ => m

/-- One turn of the second loop, at a new touch. -/
def visitNew (m : TouchManager F σ) (newTouch : Touch F) : TouchManager F σ :=
  match m.touches.find? newTouch.id with
  | none => ⟨m.touches.insert newTouch, B.addTouch newTouch m.backend⟩
  | some priorTouch =>
    ⟨(m.touches.erase priorTouch.id).insert newTouch, B.updateTouch priorTouch newTouch m.backend⟩

/-- What follows the loops. -/
def finish (m : TouchManager F σ) : TouchManager F σ :=
  let backend := B.finishFrame m.backend
  { m with backend := if m.touches.isEmpty then B.onRemoveAllTouches backend else backend }

/-- `setTouches`. -/
def setTouches (m : TouchManager F σ) (newTouches : TouchSet F) : TouchManager F σ :=
  let m := m.touches.ids.foldl (visitPrior B newTouches) m
  let m := newTouches.toList.foldl (visitNew B) m
  finish B m

/-- `clearTouches`. -/
def clearTouches (m : TouchManager F σ) : TouchManager F σ :=
  if m.touches.isEmpty then m else setTouches B m .empty

/-- The calls that change the touches. -/
inductive Call (F : Type) where
  | setTouches (newTouches : TouchSet F)
  | clearTouches

/-- One call. -/
def exec (m : TouchManager F σ) : Call F → TouchManager F σ
  | .setTouches newTouches => setTouches B m newTouches
  | .clearTouches => clearTouches B m

/-- A sequence of calls. -/
def run (m : TouchManager F σ) (calls : List (Call F)) : TouchManager F σ := calls.foldl (exec B) m

/-- A sequence of calls, each with what the virtual functions find around them at the time. -/
def runIn {ε : Type} (B : ε → TouchBackend F σ) (m : TouchManager F σ) (calls : List (ε × Call F)) :
    TouchManager F σ :=
  calls.foldl (fun m call ↦ exec (B call.1) m call.2) m

/-- The states of `setTouches` at the heads of its loops, and at its end. -/
def duringSetTouches (m : TouchManager F σ) (newTouches : TouchSet F) : List (TouchManager F σ) :=
  m.touches.ids.scanl (visitPrior B newTouches) m ++
    newTouches.toList.scanl (visitNew B) (m.touches.ids.foldl (visitPrior B newTouches) m) ++
    [setTouches B m newTouches]

/-- The states that a call goes through. -/
def during (m : TouchManager F σ) : Call F → List (TouchManager F σ)
  | .setTouches newTouches => duringSetTouches B m newTouches
  | .clearTouches => if m.touches.isEmpty then [m] else duringSetTouches B m .empty

/-- A new touch manager. -/
def construct (backend : σ) : TouchManager F σ := ⟨.empty, backend⟩

/-- The touches after a call. -/
def Call.touches : Call F → TouchSet F
  | .setTouches newTouches => newTouches
  | .clearTouches => .empty

/-- What the events of a call have to say of a touch that is there before and after it, given which
events there are: its contact begins or ends exactly if they say so, and else it moves. -/
structure Announces (old new : Touch F) (down up move : Prop) : Prop where
  down : down ↔ old.touching = false ∧ new.touching = true
  up : up ↔ old.touching = true ∧ new.touching = false
  move : old.touching = new.touching → move

/-! ### What reaches the backend -/

/-- What happens to one id. -/
inductive Change (F : Type) where
  | remove (old : Touch F)
  | add (new : Touch F)
  | update (old new : Touch F)

namespace Change

/-- The id it happens to. -/
def id : Change F → ℕ
  | remove old => old.id
  | add new => new.id
  | update old _ => old.id

/-- The virtual function that is called. -/
def apply (B : TouchBackend F σ) (backend : σ) : Change F → σ
  | remove old => B.removeTouch old backend
  | add new => B.addTouch new backend
  | update old new => B.updateTouch old new backend

end Change

/-- The changes that lead from one set to another, in the order of the loops. -/
def changes (old new : TouchSet F) : List (Change F) :=
  ((old.toList.filter fun t ↦ (new.find? t.id).isNone).map .remove) ++
    new.toList.map fun t ↦
      match old.find? t.id with
      | none => .add t
      | some s => .update s t

/-- The touches that the first loop leaves, when it has yet to visit the touches `todo`. -/
theorem foldl_visitPrior (new : TouchSet F) : ∀ (todo : List (Touch F)) (m : TouchManager F σ),
    (todo.map Touch.id).Nodup → (∀ t ∈ todo, m.touches.find? t.id = some t) →
    (∀ i, ((todo.map Touch.id).foldl (visitPrior B new) m).touches.find? i =
        if i ∈ todo.map Touch.id ∧ (new.find? i).isNone = true then none else m.touches.find? i) ∧
      ((todo.map Touch.id).foldl (visitPrior B new) m).backend =
        ((todo.filter fun t ↦ (new.find? t.id).isNone).map .remove).foldl (Change.apply B)
          m.backend := by
  intro todo
  induction todo with
  | nil => exact fun m _ _ ↦ ⟨fun i ↦ by simp, rfl⟩
  | cons t todo ih =>
    intro m hnodup hstored
    obtain ⟨hfresh, hnodup⟩ := List.nodup_cons.1 (List.map_cons ▸ hnodup)
    have hvisit : visitPrior B new m t.id =
        match new.find? t.id with
        | none => ⟨m.touches.erase t.id, B.removeTouch t m.backend⟩
        | some _ => m := by
      simp only [visitPrior, hstored t List.mem_cons_self]
    have hother : ∀ u ∈ todo, u.id ≠ t.id := fun u hu heq ↦
      hfresh (heq ▸ List.mem_map_of_mem hu)
    rw [List.map_cons, List.foldl_cons, hvisit]
    cases hnew : new.find? t.id with
    | none =>
      -- the touch disappears
      obtain ⟨htouches, hbackend⟩ := ih ⟨m.touches.erase t.id, B.removeTouch t m.backend⟩ hnodup
        fun u hu ↦ by
          rw [TouchSet.find?_erase, if_neg (hother u hu)]
          exact hstored u (List.mem_cons_of_mem t hu)
      refine ⟨fun i ↦ ?_, ?_⟩
      · rw [htouches, TouchSet.find?_erase]
        by_cases hi : i = t.id
        · simp [hi, hnew]
        · simp [hi]
      · rw [hbackend]
        simp [hnew, Change.apply]
    -- the touch stays, and is left to the second loop
    | some u =>
      obtain ⟨htouches, hbackend⟩ := ih m hnodup fun u hu ↦ hstored u (List.mem_cons_of_mem t hu)
      refine ⟨fun i ↦ ?_, ?_⟩
      · rw [htouches]
        by_cases hi : i = t.id
        · simp [hi, hnew]
        · simp [hi]
      · rw [hbackend]
        simp [hnew]

/-- The second loop, when it has yet to visit the touches `todo`, which the stored set has in the
state of `old`. -/
theorem foldl_visitNew (old : TouchSet F) : ∀ (todo : List (Touch F)) (m : TouchManager F σ),
    (todo.map Touch.id).Nodup → (∀ t ∈ todo, m.touches.find? t.id = old.find? t.id) →
    (∀ i, (todo.foldl (visitNew B) m).touches.find? i =
        (todo.find? fun t ↦ t.id = i).or (m.touches.find? i)) ∧
      (todo.foldl (visitNew B) m).backend =
        (todo.map fun t ↦
          match old.find? t.id with
          | none => Change.add t
          | some s => Change.update s t).foldl (Change.apply B) m.backend := by
  intro todo
  induction todo with
  | nil => exact fun m _ _ ↦ ⟨fun i ↦ by simp, rfl⟩
  | cons t todo ih =>
    intro m hnodup hstored
    obtain ⟨hfresh, hnodup⟩ := List.nodup_cons.1 (List.map_cons ▸ hnodup)
    have hother : ∀ u ∈ todo, u.id ≠ t.id := fun u hu heq ↦
      hfresh (heq ▸ List.mem_map_of_mem hu)
    -- one turn stores the touch and tells the backend what has changed
    have hvisit : (∀ i, (visitNew B m t).touches.find? i =
        if i = t.id then some t else m.touches.find? i) ∧
        (visitNew B m t).backend = Change.apply B m.backend
          (match old.find? t.id with
            | none => Change.add t
            | some s => Change.update s t) := by
      rw [visitNew, hstored t List.mem_cons_self]
      cases hold : old.find? t.id with
      | none => exact ⟨fun i ↦ TouchSet.find?_insert, rfl⟩
      | some s =>
        refine ⟨fun i ↦ ?_, rfl⟩
        simp only [TouchSet.find?_insert, TouchSet.find?_erase, TouchSet.id_eq hold]
        split_ifs <;> rfl
    obtain ⟨htouches, hbackend⟩ := ih (visitNew B m t) hnodup fun u hu ↦ by
      rw [hvisit.1, if_neg (hother u hu)]
      exact hstored u (List.mem_cons_of_mem t hu)
    refine ⟨fun i ↦ ?_, ?_⟩
    · rw [List.foldl_cons, htouches, hvisit.1]
      by_cases hi : i = t.id
      · have hnone : (todo.find? fun u ↦ u.id = i) = none := by
          simpa [hi] using hother
        simp [hi, hi ▸ hnone]
      · simp [hi, Ne.symm hi]
    · rw [List.foldl_cons, hbackend, hvisit.2]
      rfl

/-- **What `setTouches` does**: the stored set becomes the new one, and the backend sees the changes
from the old set to the new one, the end of the frame, and the end of all touches if none is
left. -/
theorem setTouches_eq (m : TouchManager F σ) (new : TouchSet F) :
    setTouches B m new =
      finish B ⟨new, (changes m.touches new).foldl (Change.apply B) m.backend⟩ := by
  obtain ⟨hprior, hpriorBackend⟩ := foldl_visitPrior B new m.touches.toList m
    (by rw [← TouchSet.ids_eq]; exact m.touches.nodup_ids) fun t ht ↦ TouchSet.mem_toList.1 ht
  rw [← TouchSet.ids_eq] at hprior hpriorBackend
  set middle := m.touches.ids.foldl (visitPrior B new) m
  obtain ⟨hnew, hnewBackend⟩ := foldl_visitNew B m.touches new.toList middle
    (by rw [← TouchSet.ids_eq]; exact new.nodup_ids) fun t ht ↦ by
      rw [hprior, TouchSet.mem_toList.1 ht]
      simp
  -- the second loop has stored the new touches, and the first has erased all others
  have htouches : (new.toList.foldl (visitNew B) middle).touches = new := by
    refine TouchSet.ext fun i ↦ ?_
    rw [hnew, hprior]
    rw [TouchSet.find?_toList]
    cases hi : new.find? i with
    | some t => rfl
    | none =>
      simp only [Option.none_or, Option.isNone_none, and_true]
      split_ifs with hmem
      · rfl
      · simpa [TouchSet.mem_ids] using hmem
  have hbackend : (new.toList.foldl (visitNew B) middle).backend =
      (changes m.touches new).foldl (Change.apply B) m.backend := by
    rw [hnewBackend, hpriorBackend, changes, List.foldl_append]
  rw [setTouches]
  show finish B (new.toList.foldl (visitNew B) middle) = _
  rw [TouchManager.ext (y := ⟨new, _⟩) htouches hbackend]

/-- The stored set is the set of the last call. -/
@[simp]
theorem touches_setTouches (m : TouchManager F σ) (new : TouchSet F) :
    (setTouches B m new).touches = new := by
  rw [setTouches_eq]
  rfl

theorem touches_exec (m : TouchManager F σ) (call : Call F) :
    (exec B m call).touches = call.touches := by
  cases call with
  | setTouches new => exact touches_setTouches B m new
  | clearTouches =>
    rw [exec, clearTouches]
    split_ifs with hempty
    · exact TouchSet.isEmpty_iff.1 hempty
    · exact touches_setTouches B m .empty

/-- **What every turn and the end of a call keep** holds throughout the call. -/
theorem during_invariant {P : TouchManager F σ → Prop} {m : TouchManager F σ} (h : P m)
    (call : Call F) (hprior : ∀ m i, P m → P (visitPrior B call.touches m i))
    (hnew : ∀ m, P m → ∀ t ∈ call.touches.toList, P (visitNew B m t))
    (hfinish : ∀ m, P m → P (finish B m)) : ∀ x ∈ during B m call, P x := by
  have hset : ∀ x ∈ duringSetTouches B m call.touches, P x := by
    intro x hx
    have hpriors : P (m.touches.ids.foldl (visitPrior B call.touches) m) :=
      List.foldlRecOn _ _ h fun m hm i _ ↦ hprior m i hm
    rw [duringSetTouches, List.mem_append, List.mem_append, List.mem_singleton] at hx
    rcases hx with (hx | hx) | rfl
    · exact PartialRun.mem_scanl _ h (fun m hm i _ ↦ hprior m i hm) x hx
    · exact PartialRun.mem_scanl _ hpriors hnew x hx
    · exact hfinish _ (List.foldlRecOn _ _ hpriors hnew)
  cases call with
  | setTouches new => exact hset
  | clearTouches =>
    rw [during]
    split_ifs
    · exact fun x hx ↦ by rwa [List.mem_singleton.1 hx]
    · exact hset

theorem exec_mem_during (m : TouchManager F σ) (call : Call F) :
    exec B m call ∈ during B m call := by
  cases call with
  | setTouches new => simp [during, exec, duringSetTouches]
  | clearTouches =>
    rw [during, exec, clearTouches]
    split_ifs <;> simp [duringSetTouches]

/-- What every turn and the end of a call keep holds after every run. -/
theorem run_invariant {P : TouchManager F σ → Prop} {m : TouchManager F σ} (h : P m)
    (calls : List (Call F)) (hprior : ∀ new m i, P m → P (visitPrior B new m i))
    (hnew : ∀ m t, P m → P (visitNew B m t)) (hfinish : ∀ m, P m → P (finish B m)) :
    P (run B m calls) :=
  List.foldlRecOn _ _ h fun m hm call _ ↦
    during_invariant B hm call (hprior call.touches) (fun m hm t _ ↦ hnew m t hm) hfinish _
      (exec_mem_during B m call)

/-- A condition on the sets of touches before and after every call of a run. -/
theorem isChain_touches_iff {R : TouchSet F → TouchSet F → Prop} (m : TouchManager F σ)
    (calls : List (Call F)) :
    List.IsChain R (m.touches :: calls.map Call.touches) ↔
      ∀ earlier call later, calls = earlier ++ call :: later →
        R (run B m earlier).touches call.touches :=
  PartialRun.isChain_iff_forall_step (touches_exec B) calls

section RunIn

variable {ε : Type} (C : ε → TouchBackend F σ) {R : TouchSet F → TouchSet F → Prop}

theorem isChain_touches_runIn_iff (m : TouchManager F σ) (calls : List (ε × Call F)) :
    List.IsChain R (m.touches :: calls.map fun call ↦ call.2.touches) ↔
      ∀ earlier call later, calls = earlier ++ call :: later →
        R (runIn C m earlier).touches call.2.touches :=
  PartialRun.isChain_iff_forall_step
    (fun m (call : ε × Call F) ↦ touches_exec (C call.1) m call.2) calls

/-- A condition on the manager that calls keep exactly when the sets of touches before and after
them are related. -/
theorem forall_runIn_iff_isChain {P : TouchManager F σ → Prop}
    (hstep : ∀ m (call : ε × Call F), P m →
      (P (exec (C call.1) m call.2) ↔ R m.touches call.2.touches))
    {m : TouchManager F σ} (hP : P m) (calls : List (ε × Call F)) :
    (∀ earlier call later, calls = earlier ++ call :: later → P (runIn C m (earlier ++ [call]))) ↔
      List.IsChain R (m.touches :: calls.map fun call ↦ call.2.touches) :=
  PartialRun.forall_step_iff_isChain
    (fun m (call : ε × Call F) ↦ touches_exec (C call.1) m call.2) hstep hP calls

end RunIn

/-! ### The changes -/

section Changes

variable {old new : TouchSet F}

/-- An id that is in both sets is updated. -/
theorem update_mem_changes {s t : Touch F} (hs : old.find? t.id = some s)
    (ht : new.find? t.id = some t) : Change.update s t ∈ changes old new := by
  refine List.mem_append_right _ (List.mem_map.2 ⟨t, TouchSet.mem_toList.2 ht, ?_⟩)
  rw [hs]

/-- What a change is about. -/
theorem mem_changes {c : Change F} (h : c ∈ changes old new) :
    (∃ s, c = .remove s ∧ old.find? s.id = some s ∧ new.find? s.id = none) ∨
      (∃ t, c = .add t ∧ old.find? t.id = none ∧ new.find? t.id = some t) ∨
      ∃ s t, c = .update s t ∧ old.find? t.id = some s ∧ new.find? t.id = some t := by
  rcases List.mem_append.1 h with h | h
  · obtain ⟨s, hs, rfl⟩ := List.mem_map.1 h
    obtain ⟨hmem, hnone⟩ := List.mem_filter.1 hs
    exact .inl ⟨s, rfl, TouchSet.mem_toList.1 hmem, by simpa using hnone⟩
  · obtain ⟨t, ht, rfl⟩ := List.mem_map.1 h
    cases hold : old.find? t.id with
    | none => exact .inr (.inl ⟨t, rfl, hold, TouchSet.mem_toList.1 ht⟩)
    | some s => exact .inr (.inr ⟨s, t, rfl, hold, TouchSet.mem_toList.1 ht⟩)

/-- **Every id in one of the sets changes once.** -/
theorem ids_changes (old new : TouchSet F) :
    (changes old new).map Change.id = (old.ids.filter fun i ↦ (new.find? i).isNone) ++ new.ids := by
  rw [changes, List.map_append, List.map_map, List.map_map, old.ids_eq, new.ids_eq,
    List.filter_map]
  congr 1
  refine List.map_congr_left fun t _ ↦ ?_
  simp only [Function.comp]
  cases hold : old.find? t.id with
  | none => rfl
  | some s => exact TouchSet.id_eq hold

theorem nodup_ids_changes (old new : TouchSet F) : ((changes old new).map Change.id).Nodup := by
  rw [ids_changes]
  refine List.nodup_append.2 ⟨old.nodup_ids.filter _, new.nodup_ids, fun i hi j hj ↦ ?_⟩
  rintro rfl
  have hnone := (List.mem_filter.1 hi).2
  have hsome := TouchSet.mem_ids.1 hj
  rw [Option.isSome_iff_ne_none] at hsome
  exact hsome (by simpa using hnone)

/-- The ids that change are those of the two sets. -/
theorem mem_ids_changes {i : ℕ} :
    i ∈ (changes old new).map Change.id ↔ i ∈ old.ids ∨ i ∈ new.ids := by
  rw [ids_changes, List.mem_append, List.mem_filter, TouchSet.mem_ids, TouchSet.mem_ids]
  cases new.find? i <;> simp

end Changes

end TouchManager

end Touchless
