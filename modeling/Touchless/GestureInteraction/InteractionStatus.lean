import Touchless.GestureInteraction.InteractionModes

/-!
# What a mode knows of the OS driver

The state of a mode says what it holds: the button, and the gesture that the state owns. This is
what its log of calls comes to (`Kept.track`), wherever the log begins: clearing it after the calls
have reached the driver leaves a mode that is as good as before (`Kept.clearCalls`).
-/

namespace Touchless.InteractionManager

variable {leap : Leap}

/-- What the mode holds in its current state. -/
def status : InteractionManager leap → DriverStatus
  | basicMode settings o =>
    ⟨o.machine.owner.clickDown, o.machine.currentState.bind (BasicMode.owned settings)⟩
  | fingerMouse _ o =>
    ⟨o.machine.currentState.elim false FingerMouse.holds,
      o.machine.currentState.bind FingerMouse.owned⟩
  | gestureOnlyMode o => ⟨false, o.machine.currentState.bind GestureOnlyMode.owned⟩

/-- The mode with an empty log. -/
def clearCalls : InteractionManager leap → InteractionManager leap
  | basicMode settings o => basicMode settings (o.mapOwner (·.base (·.clearCalls)))
  | fingerMouse settings o => fingerMouse settings (o.mapOwner (·.base (·.clearCalls)))
  | gestureOnlyMode o => gestureOnlyMode (o.mapOwner (·.base (·.clearCalls)))

variable {o : InteractionManager leap} {start : DriverStatus}

@[simp]
theorem status_clearCalls : o.clearCalls.status = o.status := by
  cases o <;> rfl

/-- Before the first frame a mode holds nothing. -/
theorem Constructed.status_eq (h : o.Constructed) : o.status = .idle := by
  cases h <;> rfl

/-- **The log** comes to what the state says. -/
theorem Kept.track (h : o.Kept start) : start.track o.osCalls = some o.status := by
  cases o with
  | basicMode settings o =>
    show start.track o.machine.owner.osCalls = some ⟨o.machine.owner.clickDown, _⟩
    cases hcur : o.machine.currentState with
    | none => exact (h.start hcur).track
    | some s => exact (h.inside s hcur).2.track
  | fingerMouse settings o =>
    show start.track o.machine.owner.osCalls =
      some ⟨o.machine.currentState.elim false FingerMouse.holds, _⟩
    cases hcur : o.machine.currentState with
    | none => exact (h.start hcur).track
    | some s => exact (h.inside s hcur).2.track
  | gestureOnlyMode o =>
    show start.track o.machine.owner.osCalls = some ⟨false, _⟩
    cases hcur : o.machine.currentState with
    | none => exact h.start hcur
    | some s => exact (h.inside s hcur).2

/-- **A new log** begins where the old one ended. -/
theorem Kept.clearCalls (h : o.Kept start) : o.clearCalls.Kept o.status := by
  cases o with
  | basicMode settings o =>
    refine ModeObject.kept_mapOwner h (fun hnone hbetween ↦ ⟨?_, hbetween.held⟩)
      fun s hs hinside ↦ ⟨?_, hinside.held⟩
    · show some (DriverStatus.mk o.machine.owner.clickDown _) = _
      rw [hnone]
      rfl
    · show some (DriverStatus.mk o.machine.owner.clickDown _) = _
      rw [hs]
      rfl
  | fingerMouse settings o =>
    refine ModeObject.kept_mapOwner h (fun hnone _ ↦ ⟨?_⟩) fun s hs hinside ↦ ⟨?_, hinside.deferred⟩
    · show some (status (.fingerMouse settings o)) = some ⟨_, none⟩
      rw [status, hnone]
      rfl
    · show some (status (.fingerMouse settings o)) = some ⟨FingerMouse.holds s, FingerMouse.owned s⟩
      rw [status, hs]
      rfl
  | gestureOnlyMode o =>
    refine ModeObject.kept_mapOwner h (fun hnone _ ↦ ?_) fun s hs _ ↦ ?_
    · show some (status (.gestureOnlyMode o)) = some ⟨false, none⟩
      rw [status, hnone]
      rfl
    · show some (status (.gestureOnlyMode o)) = some ⟨false, GestureOnlyMode.owned s⟩
      rw [status, hs]
      rfl

end Touchless.InteractionManager
