import Touchless.OSInteraction.LPGestureMomentum

/-!
# The history of a scroll

`applyScroll` keeps the momenta of a gesture in a `BoundedQueue`, where the oldest one makes room
for a new one. For its users the queue is a list of bounded length, whatever the order of the
operations and the indices in its array (`BoundedQueue.Shows`), so the history holds the last
momenta of the gesture in their order, those since it last stood still or paused
(`history_holds_last_momenta`).
-/

namespace Touchless

namespace BoundedQueue

open BoundedFifo (Op Reply)

variable {α : Type} {maxSize : ℕ}

/-- What the users of a queue see of it is the list. -/
structure Shows (q : BoundedQueue α maxSize) (elements : List α) : Prop where
  length_le : elements.length ≤ maxSize
  size : q.size = elements.length
  isEmpty : q.isEmpty = true ↔ elements = []
  isFull : q.isFull = true ↔ elements.length = maxSize
  peekFront : ∀ i (h : i < elements.length), q.peekFront i = elements[i]
  /-- An element that does not fit changes nothing, not even the indices. -/
  enqueue : elements.length = maxSize → ∀ x, q.enqueue x = (q, false)

theorem shows_toList (q : BoundedQueue α maxSize) : q.Shows q.toList where
  length_le := q.length_toList_le
  size := length_toList.symm
  isEmpty := isEmpty_iff
  isFull := isFull_iff
  peekFront := fun _ h ↦ peekFront_eq_getElem h
  enqueue := fun h ↦ enqueue_of_isFull (isFull_iff.2 h)

/-- **A new queue under a sequence of operations** gives the answers that a list gives, and shows
the list; the sequence breaks off where the list has nothing to take out. -/
theorem rel_run_construct (memory : Vector α maxSize) (h : 0 < maxSize) (ops : List (Op α)) :
    Option.Rel (fun r r' ↦ r.1.Shows r'.1 ∧ r.2 = r'.2)
      (BoundedFifo.run step (construct memory h) ops)
      (BoundedFifo.run (BoundedFifo.step maxSize) [] ops) := by
  have hrun := run_toList (construct memory h) ops
  rw [show (construct memory h).toList = [] from rfl] at hrun
  rw [← hrun]
  cases BoundedFifo.run step (construct memory h) ops with
  | none => exact .none
  | some result => exact .some ⟨result.1.shows_toList, rfl⟩

end BoundedQueue

namespace LPGesture

variable {F : Type} [Arithmetic F]

/-- The momentum of a scroll. -/
def momentumOf (dx dy : F) (timeDiff : ℤ) : GesturePoint F :=
  let dtInv := lit 1000000 / lit (timeDiff : ℚ) / momentumFPS F
  ⟨dx * dtInv, dy * dtInv⟩

/-- All momenta of a gesture since it last stood still or paused, with those of one more operation.
-/
def recorded (momenta : List (GesturePoint F)) : Operation F → List (GesturePoint F)
  | .applyScroll dx dy timeDiff =>
    if Arithmetic.le (Arithmetic.abs dx) (lit (1 / 10000000)) &&
        Arithmetic.le (Arithmetic.abs dy) (lit (1 / 10000000)) then []
    else if timeDiff > 0 ∧ timeDiff < 1000000 then momenta ++ [momentumOf dx dy timeDiff]
    else []
  | _ => momenta

/-- A scroll gesture goes on: `applyScroll` records its momenta. -/
structure Recording (g : LPGesture F) : Prop where
  type : g.type = .scroll
  phase : g.phase ≠ .ended
  momentumPhase : g.momentumPhase = .undefined

variable {g : LPGesture F} {momenta : List (GesturePoint F)}

theorem recordMomentum_history (hhistory : g.momentumHistory.toList = momenta.rtake 11) (dx dy : F)
    (timeDiff : ℤ) :
    (g.recordMomentum dx dy timeDiff).1.momentumHistory.toList =
        (recorded momenta (.applyScroll dx dy timeDiff)).rtake 11 ∧
      (g.recordMomentum dx dy timeDiff).1.control = g.control := by
  simp only [LPGesture.recordMomentum, recorded]
  split_ifs with hstill htime
  · exact ⟨rfl, rfl⟩
  · refine ⟨?_, rfl⟩
    -- `pushHistory` is `pushLast`
    show (g.momentumHistory.pushLast (momentumOf dx dy timeDiff)).toList = _
    exact BoundedQueue.toList_pushLast hhistory _
  · exact ⟨rfl, rfl⟩

variable [Rounding F] {platform : Platform}

theorem Recording.applyScroll (h : g.Recording)
    (hhistory : g.momentumHistory.toList = momenta.rtake 11) (dx dy : F) (timeDiff : ℤ) :
    (g.applyScroll platform dx dy timeDiff).1.Recording ∧
      (g.applyScroll platform dx dy timeDiff).1.momentumHistory.toList =
        (recorded momenta (.applyScroll dx dy timeDiff)).rtake 11 := by
  obtain ⟨hinertia, hcontrol⟩ := applyScroll_inertia platform (.inl h.type) dx dy timeDiff
  have hprepare : g.prepareScroll dx dy timeDiff = g.recordMomentum dx dy timeDiff := by
    rw [prepareScroll, if_neg (not_not_intro h.momentumPhase), if_pos h.phase]
  rw [hprepare] at hinertia hcontrol
  obtain ⟨hrecord, hsame⟩ := recordMomentum_history hhistory dx dy timeDiff
  rw [hsame] at hcontrol
  refine ⟨?_, (congrArg Prod.snd hinertia).trans hrecord⟩
  have hrecording : ∀ {c : Control}, (g.applyScroll platform dx dy timeDiff).1.control = c →
      c.type = .scroll → c.phase ≠ .ended → c.momentumPhase = .undefined →
      (g.applyScroll platform dx dy timeDiff).1.Recording := by
    rintro _ rfl htype hphase hmomentum
    exact ⟨htype, hphase, hmomentum⟩
  by_cases hreturns : (g.recordMomentum dx dy timeDiff).2 = true
  · rw [if_pos hreturns, Control.advance] at hcontrol
    by_cases hbegan : g.control.phase = .began
    · rw [if_pos hbegan] at hcontrol
      exact hrecording hcontrol h.type (by simp) h.momentumPhase
    · have hmomentum : g.control.momentumPhase = .undefined := h.momentumPhase
      rw [if_neg hbegan, if_neg (by simp [hmomentum]), if_neg (by simp [hmomentum])] at hcontrol
      exact hrecording hcontrol h.type h.phase h.momentumPhase
  · rw [if_neg hreturns] at hcontrol
    exact hrecording hcontrol h.type h.phase h.momentumPhase

/-- **One operation** of the gesture; only scrolls do something. -/
theorem Recording.exec (h : g.Recording) (hhistory : g.momentumHistory.toList = momenta.rtake 11)
    {operation : Operation F} (hend : operation ≠ .endGesture) :
    (g.exec platform operation).Recording ∧
      (g.exec platform operation).momentumHistory.toList =
        (recorded momenta operation).rtake 11 := by
  have hnone : g.type ≠ .none := by simp [h.type]
  cases operation with
  | beginGesture number =>
    rw [LPGesture.exec, beginGesture_refused (.inl hnone)]
    exact ⟨h, hhistory⟩
  | endGesture => exact absurd rfl hend
  | applyZoom zoom =>
    rw [LPGesture.exec, applyZoom, if_neg (by simp [h.type])]
    exact ⟨h, hhistory⟩
  | applyRotation rotation =>
    rw [LPGesture.exec, applyRotation, if_neg (by simp [h.type])]
    exact ⟨h, hhistory⟩
  | applyDesktopSwipe dx dy =>
    rw [LPGesture.exec, applyDesktopSwipe, if_neg (by simp [h.type, GestureType.isDesktopSwipe])]
    exact ⟨h, hhistory⟩
  | applyScroll dx dy timeDiff => exact h.applyScroll hhistory dx dy timeDiff
  | applyMomentum =>
    rw [LPGesture.exec, applyMomentum_undefined h.momentumPhase]
    exact ⟨h, hhistory⟩

/-- **All operations** of the gesture. -/
theorem Recording.run (h : g.Recording) (hhistory : g.momentumHistory.toList = momenta.rtake 11)
    {operations : List (Operation F)} (hend : ∀ operation ∈ operations, operation ≠ .endGesture) :
    (g.run platform operations).momentumHistory.toList =
      (operations.foldl recorded momenta).rtake 11 := by
  induction operations generalizing g momenta with
  | nil => exact hhistory
  | cons operation operations ih =>
    obtain ⟨hfirst, hrest⟩ := List.forall_mem_cons.1 hend
    have hexec : (g.exec platform operation).Recording ∧
        (g.exec platform operation).momentumHistory.toList =
          (recorded momenta operation).rtake 11 := h.exec hhistory hfirst
    exact ih hexec.1 hexec.2 hrest

/-- A scroll gesture begins without momenta. -/
theorem recording_beginGesture (h : (g.beginGesture platform GestureType.scroll.number).2 = true) :
    (g.beginGesture platform GestureType.scroll.number).1.Recording ∧
      (g.beginGesture platform GestureType.scroll.number).1.momentumHistory.toList =
        List.rtake [] 11 := by
  obtain ⟨hcontrol, hinertia⟩ := beginGesture_inertia h
  refine ⟨⟨hcontrol.type, ?_, hcontrol.momentumPhase⟩, congrArg Prod.snd hinertia⟩
  have hphase : (g.beginGesture platform GestureType.scroll.number).1.phase = .began :=
    hcontrol.phase
  simp [hphase]

end LPGesture

/-- **The queue is a list of bounded length**, for any type of elements, any size and any
operations, and a push that drops the oldest element keeps the last ones; so from the beginning of a
scroll gesture to its end, the history holds its last momenta. -/
theorem LPGesture.history_holds_last_momenta :
    (∀ {α : Type} {maxSize : ℕ} (memory : Vector α maxSize) (h : 0 < maxSize)
        (ops : List (BoundedFifo.Op α)),
      Option.Rel (fun r r' ↦ r.1.Shows r'.1 ∧ r.2 = r'.2)
        (BoundedFifo.run BoundedQueue.step (.construct memory h) ops)
        (BoundedFifo.run (BoundedFifo.step maxSize) [] ops)) ∧
    (∀ {α : Type} {maxSize : ℕ} (q : BoundedQueue α maxSize) (elements : List α),
      (elements.foldl BoundedQueue.pushLast q).toList = (q.toList ++ elements).rtake maxSize) ∧
    ∀ {F : Type} [Arithmetic F] [Rounding F] (platform : Platform) (g : LPGesture F)
        (operations : List (Operation F)),
      (g.beginGesture platform GestureType.scroll.number).2 = true →
      (∀ operation ∈ operations, operation ≠ .endGesture) →
      ((g.beginGesture platform GestureType.scroll.number).1.run platform
          operations).momentumHistory.toList =
        (operations.foldl recorded []).rtake 11 := by
  refine ⟨BoundedQueue.rel_run_construct, BoundedQueue.toList_foldl_pushLast, ?_⟩
  intro F _ _ platform g operations hbegin hend
  obtain ⟨hrecording, hempty⟩ := recording_beginGesture hbegin
  exact hrecording.run hempty hend

/-- A queue of three elements, and a gesture of twelve scrolls. -/
theorem LPGesture.history_holds_last_momenta_twelve :
    letI : Arithmetic ℚ := rationalArithmetic id
    letI : Rounding ℚ := rationalRounding
    let ops : List (BoundedFifo.Op ℕ) :=
      [.enqueue 1, .enqueue 2, .enqueue 3, .enqueue 4, .dequeue, .enqueue 5, .reset, .enqueue 6]
    let scrolls : List (LPGesture.Operation ℚ) :=
      (List.range 12).map fun n ↦ .applyScroll 0 (n + 1) 8000
    Option.Rel (fun r r' ↦ r.1.Shows r'.1 ∧ r.2 = r'.2)
        (BoundedFifo.run BoundedQueue.step (.construct (.replicate 3 0) (by decide)) ops)
        (BoundedFifo.run (BoundedFifo.step 3) [] ops) ∧
      ((((construct (.replicate 11 .zero)).beginGesture .mac GestureType.scroll.number).1.run .mac
          scrolls).momentumHistory.toList.map GesturePoint.y) =
        [2, 3, 4, 5, 6, 7, 8, 9, 10, 11, 12] := by
  let : Arithmetic ℚ := rationalArithmetic id
  let : Rounding ℚ := rationalRounding
  intro ops scrolls
  refine ⟨history_holds_last_momenta.1 (.replicate 3 0) (by decide) ops, ?_⟩
  have hhistory := history_holds_last_momenta.2.2 .mac (construct (.replicate 11 .zero)) scrolls
    (by decide) (by simp [scrolls])
  rw [hhistory]
  decide +kernel

end Touchless
