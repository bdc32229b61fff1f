import Touchless.Foundations.ExactOperations
import Touchless.Utility.PositionalDeltaTracker

/-!
# Runs of the positional delta tracker

What a sequence of calls of `setPosition` does to the tracked position, in exact arithmetic. It is
continuous when the delta is accumulated, and follows the position when it is not; the table of the
header asks for the first at a change of the pointable, and for the raw position at a change of the
hand.

A pointable without a hand has the hand id -1, for which nothing is accumulated, so the tracked
position jumps when it is replaced by another (`follows_iff`). At a change between two hands the
delta is accumulated too, so the tracked position is not the new position (`cleared_iff`).
-/

namespace Touchless

namespace PositionalDeltaTracker

/-- The arguments of a call of `setPosition`. -/
structure Call (F : Type) where
  handId : ℤ
  pointableId : ℤ
  position : Vector3 F

variable {F K : Type} [Arithmetic F] [Field K] [LinearOrder K]

/-- One call. -/
def exec (tracker : PositionalDeltaTracker F) (call : Call F) : PositionalDeltaTracker F :=
  tracker.setPosition call.handId call.pointableId call.position

/-- A sequence of calls after `clear`. -/
def track (calls : List (Call F)) : PositionalDeltaTracker F := calls.foldl exec clear

@[simp]
theorem track_concat (calls : List (Call F)) (call : Call F) :
    track (calls ++ [call]) = exec (track calls) call := by
  simp [track]

/-- The members of the last call. -/
@[simp]
theorem handId_exec (tracker : PositionalDeltaTracker F) (call : Call F) :
    (exec tracker call).handId = call.handId := by
  rw [exec, setPosition]
  split_ifs <;> rfl

@[simp]
theorem pointableId_exec (tracker : PositionalDeltaTracker F) (call : Call F) :
    (exec tracker call).pointableId = call.pointableId := by
  rw [exec, setPosition]
  split_ifs <;> rfl

@[simp]
theorem position_exec (tracker : PositionalDeltaTracker F) (call : Call F) :
    (exec tracker call).position = call.position := by
  rw [exec, setPosition]
  split_ifs <;> rfl

section Exact

variable (exact : ExactOperations F K)

/-- The tracked position, exactly. -/
def tracked (tracker : PositionalDeltaTracker F) : K × K × K :=
  exact.vector tracker.getTrackedPosition

theorem tracked_eq (tracker : PositionalDeltaTracker F) :
    tracked exact tracker = exact.vector tracker.position + exact.vector tracker.delta :=
  exact.vector_add _ _

/-- A call with an accumulated delta leaves the tracked position where it is. -/
theorem tracked_of_accumulates {tracker : PositionalDeltaTracker F} {call : Call F}
    (hinit : ¬(tracker.handId = -1 ∧ tracker.pointableId = -1))
    (h : tracker.accumulatesDelta call.handId call.pointableId = true) :
    exact.vector (exec tracker call).delta = tracked exact tracker - exact.vector call.position ∧
      tracked exact (exec tracker call) = tracked exact tracker := by
  have hdelta : exact.vector (exec tracker call).delta =
      tracked exact tracker - exact.vector call.position := by
    rw [exec, setPosition, if_neg hinit, if_pos h, exact.vector_sub, exact.vector_add, tracked_eq]
  refine ⟨hdelta, ?_⟩
  rw [tracked_eq, position_exec, hdelta, add_sub_cancel]

/-- A call without one moves it with the position. -/
theorem tracked_of_not_accumulates {tracker : PositionalDeltaTracker F} {call : Call F}
    (hinit : ¬(tracker.handId = -1 ∧ tracker.pointableId = -1))
    (h : tracker.accumulatesDelta call.handId call.pointableId = false) :
    tracked exact (exec tracker call) - tracked exact tracker =
      exact.vector call.position - exact.vector tracker.position := by
  have hdelta : (exec tracker call).delta = tracker.delta := by
    rw [exec, setPosition, if_neg hinit, h]
    rfl
  rw [tracked_eq, tracked_eq, position_exec, hdelta, add_sub_add_right_eq_sub]

/-! ### Changes of the pointable -/

/-- What is asked of a call after another: with the same ids the tracked position moves by the
change of the position, and with the same hand and another pointable it stays. -/
structure Follows (tracker : PositionalDeltaTracker F) (previous call : Call F) : Prop where
  moves : call.handId = previous.handId → call.pointableId = previous.pointableId →
    tracked exact (exec tracker call) - tracked exact tracker =
      exact.vector call.position - exact.vector previous.position
  stays : call.handId = previous.handId → call.pointableId ≠ previous.pointableId →
    tracked exact (exec tracker call) = tracked exact tracker

/-- If one pointable without a hand replaces another, it is at the same position. -/
def KeepsHandless (previous call : Call F) : Prop :=
  previous.handId = -1 → call.handId = -1 → call.pointableId ≠ previous.pointableId →
    exact.vector call.position = exact.vector previous.position

/-- **One call**: it does what is asked of it unless a pointable without a hand replaces another at
another position. -/
theorem follows_exec_iff {tracker : PositionalDeltaTracker F} {previous call : Call F}
    (hnamed : ¬(previous.handId = -1 ∧ previous.pointableId = -1)) :
    Follows exact (exec tracker previous) previous call ↔ KeepsHandless exact previous call := by
  have hinit : ¬((exec tracker previous).handId = -1 ∧
      (exec tracker previous).pointableId = -1) := by
    simpa using hnamed
  have hmoves (h : (exec tracker previous).accumulatesDelta call.handId call.pointableId = false) :=
    tracked_of_not_accumulates exact hinit h
  rw [position_exec] at hmoves
  have haccumulates : (exec tracker previous).accumulatesDelta call.handId call.pointableId =
      if call.handId = -1 ∨ previous.handId = -1 then false
      else if call.handId ≠ previous.handId then true
      else decide (call.pointableId ≠ previous.pointableId) := by
    rw [accumulatesDelta, handId_exec, pointableId_exec]
  constructor
  · intro h hprevious hcall hpointable
    -- nothing is accumulated, and the tracked position follows the position
    have hsame := h.stays (hcall.trans hprevious.symm) hpointable
    have hmove := hmoves (by rw [haccumulates, if_pos (.inl hcall)])
    rw [hsame, sub_self] at hmove
    exact sub_eq_zero.1 hmove.symm
  · intro h
    refine ⟨fun hhand hpointable ↦ hmoves ?_, fun hhand hpointable ↦ ?_⟩
    · rw [haccumulates]
      simp [hhand, hpointable]
    · rcases eq_or_ne previous.handId (-1) with hprevious | hprevious
      · have hcall := hhand.trans hprevious
        have hmove := hmoves (by rw [haccumulates, if_pos (.inl hcall)])
        rw [h hprevious hcall hpointable, sub_self] at hmove
        exact sub_eq_zero.1 hmove
      · refine (tracked_of_accumulates exact hinit ?_).2
        rw [haccumulates, if_neg (by simp [hhand, hprevious])]
        simp [hhand, hpointable]

/-- **The tracked position after any calls**: every call does what is asked of it exactly if no
pointable without a hand is replaced by another one at another position. -/
theorem follows_iff (calls : List (Call F))
    (hnamed : ∀ call ∈ calls, ¬(call.handId = -1 ∧ call.pointableId = -1)) :
    (∀ earlier previous call later, calls = earlier ++ previous :: call :: later →
        Follows exact (track (earlier ++ [previous])) previous call) ↔
      ∀ earlier previous call later, calls = earlier ++ previous :: call :: later →
        KeepsHandless exact previous call := by
  refine forall_congr' fun earlier ↦ forall_congr' fun previous ↦ forall_congr' fun call ↦
    forall_congr' fun later ↦ forall_congr' fun hsplit ↦ ?_
  rw [track_concat]
  exact follows_exec_iff exact (hnamed previous (by rw [hsplit]; simp))

/-- A hand, one of its pointables, and the hand again. -/
theorem follows_palm_pointable_palm :
    letI : Arithmetic ℚ := rationalArithmetic id
    let calls : List (Call ℚ) := [⟨7, -1, ⟨1, 2, 3⟩⟩, ⟨7, 70, ⟨4, 6, 3⟩⟩, ⟨7, -1, ⟨1, 3, 3⟩⟩]
    ∀ earlier previous call later, calls = earlier ++ previous :: call :: later →
      Follows (ExactOperations.rational id) (track (earlier ++ [previous])) previous call := by
  let : Arithmetic ℚ := rationalArithmetic id
  intro calls
  have hhands : ∀ call ∈ calls, call.handId = 7 := by decide
  refine (follows_iff (ExactOperations.rational id) calls fun call hcall h ↦ ?_).2
    fun earlier previous call later hsplit h ↦ ?_
  · rw [hhands call hcall] at h
    exact absurd h.1 (by decide)
  · rw [hhands previous (by rw [hsplit]; simp)] at h
    exact absurd h (by decide)

/-- A pointable without a hand replaces another, and the tracked position jumps. -/
theorem not_follows_handless :
    letI : Arithmetic ℚ := rationalArithmetic id
    ¬ ∀ calls : List (Call ℚ), (∀ call ∈ calls, ¬(call.handId = -1 ∧ call.pointableId = -1)) →
      ∀ earlier previous call later, calls = earlier ++ previous :: call :: later →
        Follows (ExactOperations.rational id) (track (earlier ++ [previous])) previous call := by
  let : Arithmetic ℚ := rationalArithmetic id
  intro hfollows
  have hstays := (hfollows [⟨-1, 1, ⟨0, 0, 0⟩⟩, ⟨-1, 2, ⟨10, 0, 0⟩⟩] (by decide)
    [] _ _ [] rfl).stays rfl (by decide)
  exact absurd hstays (by decide +kernel)

/-- The first call sets the tracked position to its own. -/
theorem tracked_first (call : Call F) :
    tracked exact (track [call]) = exact.vector call.position := by
  rw [tracked_eq]
  show exact.vector (setPosition clear _ _ _).position +
    exact.vector (setPosition clear _ _ _).delta = _
  rw [setPosition, if_pos ⟨rfl, rfl⟩, exact.vector_zero, add_zero]

/-! ### Changes of the hand -/

/-- Does a call name another hand than the one that is stored, when both are known? -/
def ChangesHand (tracker : PositionalDeltaTracker F) (call : Call F) : Prop :=
  tracker.handId ≠ -1 ∧ call.handId ≠ -1 ∧ call.handId ≠ tracker.handId

/-- What is asked of a change of the hand: no delta is left, and the tracked position is the new
position. -/
def Cleared (tracker : PositionalDeltaTracker F) (call : Call F) : Prop :=
  exact.vector (exec tracker call).delta = 0 ∧
    tracked exact (exec tracker call) = exact.vector call.position

theorem cleared_exec_iff {tracker : PositionalDeltaTracker F} {call : Call F}
    (h : ChangesHand tracker call) :
    Cleared exact tracker call ↔ exact.vector call.position = tracked exact tracker := by
  obtain ⟨hstored, hcall, hne⟩ := h
  have haccumulates : tracker.accumulatesDelta call.handId call.pointableId = true := by
    rw [accumulatesDelta, if_neg (by simp [hcall, hstored]), if_pos hne]
  obtain ⟨hdelta, hstays⟩ :=
    tracked_of_accumulates exact (fun hinit ↦ hstored hinit.1) haccumulates
  rw [Cleared, hdelta, hstays, sub_eq_zero]
  exact ⟨fun h ↦ h.2.symm, fun h ↦ ⟨h.symm, h.symm⟩⟩

/-- **The delta at changes of the hand**: in a run it is cleared whenever a known hand replaces
another exactly if every such hand appears where the tracked position already is. -/
theorem cleared_iff (calls : List (Call F)) :
    (∀ earlier call later, calls = earlier ++ call :: later → ChangesHand (track earlier) call →
        Cleared exact (track earlier) call) ↔
      ∀ earlier call later, calls = earlier ++ call :: later → ChangesHand (track earlier) call →
        exact.vector call.position = tracked exact (track earlier) :=
  forall_congr' fun _ ↦ forall_congr' fun _ ↦ forall_congr' fun _ ↦ forall_congr' fun _ ↦
    forall_congr' fun h ↦ cleared_exec_iff exact h

/-- Another hand appears, and the tracked position stays with the first one. -/
theorem not_cleared_second_hand :
    letI : Arithmetic ℚ := rationalArithmetic id
    ¬ ∀ (calls earlier : List (Call ℚ)) (call : Call ℚ) (later : List (Call ℚ)),
      calls = earlier ++ call :: later → ChangesHand (track earlier) call →
        Cleared (ExactOperations.rational id) (track earlier) call := by
  let : Arithmetic ℚ := rationalArithmetic id
  intro hcleared
  have hsecond := hcleared _ [⟨1, -1, ⟨0, 0, 0⟩⟩] ⟨2, -1, ⟨10, 0, 0⟩⟩ [] rfl
    ⟨by decide, by decide, by decide⟩
  exact absurd hsecond.2 (by decide +kernel)

end Exact

end PositionalDeltaTracker

end Touchless
