import Touchless.OSInteraction.TouchManager

/-!
# The calls of a touch manager

Which virtual functions `setTouches` calls, and with what: a backend is extended by the list of the
calls that it has had, so that the calls are data and their order is the order of the list.

Whatever calls came before, one call of `setTouches` removes the touches that are gone, then adds
those that are new and updates those that stay, each id once, and ends the frame
(`reports_setTouches`).
-/

namespace Touchless

/-- A call of a virtual function of a touch manager. -/
inductive BackendCall (F : Type) where
  | addTouch (touch : Touch F)
  | updateTouch (oldTouch newTouch : Touch F)
  | removeTouch (oldTouch : Touch F)
  | finishFrame
  | onRemoveAllTouches

namespace BackendCall

variable {F : Type}

/-- The id that a call is about. -/
def id? : BackendCall F → Option ℕ
  | addTouch touch => some touch.id
  | updateTouch _ newTouch => some newTouch.id
  | removeTouch oldTouch => some oldTouch.id
  | finishFrame => none
  | onRemoveAllTouches => none

end BackendCall

/-- A backend with the list of the calls that it has had. -/
def TouchBackend.recorded {F σ : Type} (B : TouchBackend F σ) :
    TouchBackend F (σ × List (BackendCall F)) where
  addTouch touch s := (B.addTouch touch s.1, s.2 ++ [.addTouch touch])
  updateTouch oldTouch newTouch s :=
    (B.updateTouch oldTouch newTouch s.1, s.2 ++ [.updateTouch oldTouch newTouch])
  removeTouch oldTouch s := (B.removeTouch oldTouch s.1, s.2 ++ [.removeTouch oldTouch])
  finishFrame s := (B.finishFrame s.1, s.2 ++ [.finishFrame])
  onRemoveAllTouches s := (B.onRemoveAllTouches s.1, s.2 ++ [.onRemoveAllTouches])

namespace TouchManager

variable {F σ : Type} (B : TouchBackend F σ)

/-- The call that a change is. -/
def Change.toCall : Change F → BackendCall F
  | .remove old => .removeTouch old
  | .add new => .addTouch new
  | .update old new => .updateTouch old new

@[simp]
theorem Change.apply_recorded (s : σ × List (BackendCall F)) (c : Change F) :
    c.apply B.recorded s = (c.apply B s.1, s.2 ++ [c.toCall]) := by
  cases c <;> rfl

/-- The changes reach the backend as without the list, and the list has their calls. -/
theorem foldl_apply_recorded (cs : List (Change F)) (s : σ × List (BackendCall F)) :
    cs.foldl (Change.apply B.recorded) s =
      (cs.foldl (Change.apply B) s.1, s.2 ++ cs.map Change.toCall) := by
  induction cs generalizing s with
  | nil => simp
  | cons c cs ih => simp [ih]

/-- The calls of `setTouches`, when it replaces `old` by `new`. -/
def calls (old new : TouchSet F) : List (BackendCall F) :=
  (changes old new).map Change.toCall ++
    .finishFrame :: if new.isEmpty then [.onRemoveAllTouches] else []

/-- What `setTouches` adds to the list. -/
theorem recorded_setTouches (m : TouchManager F (σ × List (BackendCall F))) (new : TouchSet F) :
    (setTouches B.recorded m new).backend.2 = m.backend.2 ++ calls m.touches new := by
  rw [setTouches_eq, foldl_apply_recorded, finish, calls]
  cases new.isEmpty <;> simp [TouchBackend.recorded]

/-- The list does not change what the manager stores, nor what reaches the backend. -/
theorem forget_setTouches (m : TouchManager F (σ × List (BackendCall F))) (new : TouchSet F) :
    (⟨(setTouches B.recorded m new).touches, (setTouches B.recorded m new).backend.1⟩ :
        TouchManager F σ) =
      setTouches B ⟨m.touches, m.backend.1⟩ new := by
  rw [setTouches_eq, setTouches_eq, foldl_apply_recorded, finish, finish]
  cases new.isEmpty <;> rfl

/-- What the calls have to be when `old` is replaced by `new`: touches that are gone are removed,
and only then touches that are new are added and touches that stay updated. -/
structure Reports (old new : TouchSet F) (removals others : List (BackendCall F)) : Prop where
  /-- the removed touches are those stored under an id that is gone -/
  mem_removals : ∀ call, call ∈ removals ↔
    ∃ t, call = .removeTouch t ∧ old.find? t.id = some t ∧ new.find? t.id = none
  /-- the other calls add touches with a new id, and update those stored under an id that stays -/
  mem_others : ∀ call, call ∈ others ↔
    (∃ t, call = .addTouch t ∧ old.find? t.id = none ∧ new.find? t.id = some t) ∨
      ∃ s t, call = .updateTouch s t ∧ s.id = t.id ∧ old.find? t.id = some s ∧
        new.find? t.id = some t
  /-- every call is about an id, and no two about the same -/
  nodup : ((removals ++ others).map BackendCall.id?).Nodup

section Reports

variable (old new : TouchSet F)

theorem id?_toCall {c : Change F} (h : c ∈ changes old new) : c.toCall.id? = some c.id := by
  rcases mem_changes h with ⟨s, rfl, -, -⟩ | ⟨t, rfl, -, -⟩ | ⟨s, t, rfl, hs, -⟩
  · rfl
  · rfl
  · -- the call names the new touch, and the change the old one
    show some t.id = some s.id
    rw [TouchSet.id_eq hs]

/-- The calls for the changes are what they have to be. -/
theorem exists_reports : ∃ removals others,
    (changes old new).map Change.toCall = removals ++ others ∧
      Reports old new removals others := by
  refine ⟨_, _, List.map_append, ?_, ?_, ?_⟩
  · intro call
    simp only [List.map_map, List.mem_map, List.mem_filter, TouchSet.mem_toList,
      Option.isNone_iff_eq_none, Function.comp]
    constructor
    · rintro ⟨t, ⟨hold, hnew⟩, rfl⟩
      exact ⟨t, rfl, hold, hnew⟩
    · rintro ⟨t, rfl, hold, hnew⟩
      exact ⟨t, ⟨hold, hnew⟩, rfl⟩
  · intro call
    simp only [List.map_map, List.mem_map, TouchSet.mem_toList, Function.comp]
    constructor
    · rintro ⟨t, hnew, rfl⟩
      -- whether the id is in the old set decides which function is called
      cases hold : old.find? t.id with
      | none => exact .inl ⟨t, rfl, hold, hnew⟩
      | some s => exact .inr ⟨s, t, rfl, TouchSet.id_eq hold, hold, hnew⟩
    · rintro (⟨t, rfl, hold, hnew⟩ | ⟨s, t, rfl, -, hold, hnew⟩)
      · exact ⟨t, hnew, by rw [hold]; rfl⟩
      · exact ⟨t, hnew, by rw [hold]; rfl⟩
  · have hids : ((changes old new).map Change.toCall).map BackendCall.id? =
        ((changes old new).map Change.id).map some := by
      rw [List.map_map, List.map_map]
      exact List.map_congr_left fun c hc ↦ id?_toCall old new hc
    rw [← List.map_append, ← changes, hids]
    exact List.Pairwise.map some (fun _ _ ↦ mt Option.some.inj) (nodup_ids_changes old new)

end Reports

/-- **After any calls, `setTouches` stores the touches it is given and reports the difference**: the
touches that are gone are removed before all other calls, the touches with a new id are added, those
with a known id are updated, each id is reported once, and after the end of the frame the backend is
told that no touch is left exactly if the new set is empty. -/
theorem reports_setTouches (m : TouchManager F (σ × List (BackendCall F)))
    (earlier : List (Call F)) (new : TouchSet F) :
    let before := run B.recorded m earlier
    let after := setTouches B.recorded before new
    after.touches = new ∧
      ∃ removals others last,
        after.backend.2 = before.backend.2 ++ (removals ++ others ++ .finishFrame :: last) ∧
          Reports before.touches new removals others ∧
          last = if new.isEmpty then [.onRemoveAllTouches] else [] := by
  intro before after
  obtain ⟨removals, others, hsplit, hreports⟩ := exists_reports before.touches new
  refine ⟨touches_setTouches B.recorded before new, removals, others, _, ?_, hreports, rfl⟩
  have hcalls : after.backend.2 = before.backend.2 ++ calls before.touches new :=
    recorded_setTouches B before new
  rw [hcalls, calls, hsplit]

end TouchManager

end Touchless
