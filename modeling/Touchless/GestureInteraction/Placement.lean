import Touchless.GestureInteraction.InteractionModes
import Touchless.OSInteraction.TouchPeripheral
import Touchless.Overlay.OverlayDriverScreen

/-!
# Positions that are sent

The modes put the cursor and their touch points where the overlay driver maps positions of the
device. A condition that all these positions meet is met by every position that is sent to the OS
driver: the methods of the base class get their positions from there only, and a touch point waits
for the end of the frame in an event of the mode (`Manager.Placed`).
-/

namespace Touchless

/-- The positions in a call meet a condition. -/
def OSCall.IsPlaced {F : Type} (P : F → F → Prop) : OSCall F → Prop
  | setCursorPosition fx fy _ => P fx fy
  | emitTouchEvent event => ∀ entry ∈ event.entries, P entry.2.x entry.2.y
  | _ => True

/-- So do those of the overlay driver. -/
def Environment.IsPlaced {leap : Leap} (P : leap.Scalar → leap.Scalar → Prop)
    (env : Environment leap) : Prop :=
  ∀ position,
    P (env.normalizedToScreen position).output.x (env.normalizedToScreen position).output.y

namespace Manager

variable {leap : Leap} {P : leap.Scalar → leap.Scalar → Prop} {m n : Manager leap}

/-- All positions that have been sent, or wait to be sent, meet the condition. -/
structure Placed (P : leap.Scalar → leap.Scalar → Prop) (m : Manager leap) : Prop where
  osCalls : ∀ call ∈ m.osCalls, call.IsPlaced P
  touchEvent : ∀ entry ∈ m.touchEvent.entries, P entry.2.x entry.2.y

theorem placed_construct : (construct leap).Placed P where
  osCalls := by simp [construct]
  touchEvent := by simp [construct, OrderedMap.empty]

/-- A method that sends nothing. -/
theorem Placed.of_eq (h : m.Placed P) (hcalls : n.osCalls = m.osCalls)
    (htouches : n.touchEvent = m.touchEvent) : n.Placed P :=
  ⟨hcalls ▸ h.osCalls, htouches ▸ h.touchEvent⟩

@[simp]
theorem Placed.emit (h : m.Placed P) {call : OSCall leap.Scalar} (hcall : call.IsPlaced P) :
    (m.emit call).Placed P where
  osCalls := by
    intro other hother
    rcases List.mem_append.1 hother with hother | hother
    · exact h.osCalls other hother
    · exact List.eq_of_mem_singleton hother ▸ hcall
  touchEvent := h.touchEvent

section Methods

variable {env : Environment leap} {v : FrameState leap}

@[simp]
theorem Placed.resetFavoritePointableId (h : m.Placed P) :
    (m.resetFavoritePointableId v).Placed P := h.of_eq rfl rfl

@[simp]
theorem Placed.refreshFavoritePointableId (h : m.Placed P) :
    (m.refreshFavoritePointableId v).Placed P := by
  rw [Manager.refreshFavoritePointableId]
  split_ifs
  · exact h.resetFavoritePointableId
  · exact h

@[simp]
theorem Placed.clearTracker (h : m.Placed P) : m.clearTracker.Placed P := h.of_eq rfl rfl

@[simp]
theorem Placed.trackHand (h : m.Placed P) (hand : leap.Hand) : (m.trackHand hand).Placed P :=
  h.of_eq rfl rfl

@[simp]
theorem Placed.trackPointable (h : m.Placed P) (pointable : leap.Pointable) :
    (m.trackPointable pointable).Placed P := h.of_eq rfl rfl

@[simp]
theorem Placed.drawOverlayForPointable (h : m.Placed P) (pointable : leap.Pointable) :
    (m.drawOverlayForPointable pointable).Placed P := by
  rw [Manager.drawOverlayForPointable]
  split_ifs
  · exact h.trackPointable pointable
  · exact h

/-- **The cursor** goes where the overlay driver says. -/
@[simp]
theorem Placed.setAbsoluteCursorPosition (henv : env.IsPlaced P) (h : m.Placed P)
    (position : Vector3 leap.Scalar) : (m.setAbsoluteCursorPosition env v position).Placed P := by
  rw [Manager.setAbsoluteCursorPosition, cursorTarget]
  split_ifs
  · exact h.emit (henv _)
  · exact h

@[simp]
theorem Placed.setAbsoluteCursorPositionHand (henv : env.IsPlaced P) (h : m.Placed P)
    (hand : leap.Hand) : (m.setAbsoluteCursorPositionHand env v hand).Placed P := by
  rw [Manager.setAbsoluteCursorPositionHand]
  split_ifs
  · exact (h.trackHand hand).setAbsoluteCursorPosition henv _
  · exact h

@[simp]
theorem Placed.setAbsoluteCursorPositionPointable (henv : env.IsPlaced P) (h : m.Placed P)
    (pointable : leap.Pointable) :
    (m.setAbsoluteCursorPositionPointable env v pointable).Placed P := by
  rw [Manager.setAbsoluteCursorPositionPointable]
  split_ifs
  · exact (h.trackPointable pointable).setAbsoluteCursorPosition henv _
  · exact h

/-- **A touch point** is put where the overlay driver says. -/
theorem Placed.addTouchPoint (henv : env.IsPlaced P) (h : m.Placed P) (touchId frameId : ℤ)
    (position : Vector3 leap.Scalar) (touching : Bool) :
    (m.addTouchPoint env v touchId frameId position touching).Placed P := by
  rw [Manager.addTouchPoint]
  split_ifs
  · refine ⟨h.osCalls, fun entry hentry ↦ ?_⟩
    dsimp only [TouchEvent.insertNew] at hentry
    split_ifs at hentry
    · exact h.touchEvent entry hentry
    · rw [OrderedMap.mem_entries, OrderedMap.find?_insert] at hentry
      split_ifs at hentry
      · rw [← Option.some.inj hentry]
        exact henv _
      · exact h.touchEvent entry (OrderedMap.mem_entries.2 hentry)
  · exact h

@[simp]
theorem Placed.addTouchPointForHand (henv : env.IsPlaced P) (h : m.Placed P) (hand : leap.Hand)
    (touching : Bool) : (m.addTouchPointForHand env v hand touching).Placed P := by
  rw [Manager.addTouchPointForHand]
  split_ifs
  · exact (h.trackHand hand).addTouchPoint henv _ _ _ _
  · exact h

@[simp]
theorem Placed.addTouchPointForPointable (henv : env.IsPlaced P) (h : m.Placed P) (touchId : ℤ)
    (pointable : leap.Pointable) (touching deltaTracked : Bool) :
    (m.addTouchPointForPointable env v touchId pointable touching deltaTracked).Placed P := by
  rw [Manager.addTouchPointForPointable]
  split_ifs
  · exact (h.trackPointable pointable).addTouchPoint henv _ _ _ _
  · exact h.addTouchPoint henv _ _ _ _
  · exact h

/-- The touch points that were waiting are sent. -/
theorem Placed.emitTouchEvent (h : m.Placed P) : m.emitTouchEvent.Placed P where
  osCalls :=
    have hsent : (m.emit (.emitTouchEvent m.touchEvent)).Placed P := h.emit h.touchEvent
    hsent.osCalls
  touchEvent := by simp [Manager.emitTouchEvent, OrderedMap.empty]

end Methods

end Manager

end Touchless
