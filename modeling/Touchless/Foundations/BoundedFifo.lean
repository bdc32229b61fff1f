import Mathlib.Data.List.DropRight

/-!
# Queues of bounded length

A queue that holds at most `capacity` elements, as a list with the oldest first, and what each
operation answers. An implementation refines it when each of its operations answers the same and
leaves the same list in view; this file has the rule that carries this over to sequences of
operations (`run_view`).

Where the oldest element makes room for a new one in a full queue, the queue holds the last elements
of all that have come (`push_rtake`).
-/

namespace Touchless.BoundedFifo

variable {α σ : Type*}

/-- The operations of a queue. -/
inductive Op (α : Type*) where
  | reset
  | enqueue (x : α)
  | dequeue

/-- What an operation answers: nothing, whether the element has been stored, or the element that has
been taken out. -/
inductive Reply (α : Type*) where
  | done
  | stored (success : Bool)
  | taken (x : α)

/-- One operation on the list. Nothing can be taken out of an empty queue. -/
def step (capacity : ℕ) : List α → Op α → Option (List α × Reply α)
  | _, .reset => some ([], .done)
  | elements, .enqueue x =>
    if elements.length < capacity then some (elements ++ [x], .stored true)
    else some (elements, .stored false)
  | [], .dequeue => none
  | x :: elements, .dequeue => some (elements, .taken x)

/-- A sequence of operations, with their answers. -/
def run (step : σ → Op α → Option (σ × Reply α)) : σ → List (Op α) → Option (σ × List (Reply α))
  | s, [] => some (s, [])
  | s, op :: ops => do
    let (s, reply) ← step s op
    let (s, replies) ← run step s ops
    return (s, reply :: replies)

/-- **Refinement**: if each operation does in view of an implementation what it does on the list,
then so does every sequence of operations. -/
theorem run_view {capacity : ℕ} {implementation : σ → Op α → Option (σ × Reply α)}
    {view : σ → List α}
    (hstep : ∀ s op, (implementation s op).map (Prod.map view id) = step capacity (view s) op)
    (ops : List (Op α)) (s : σ) :
    (run implementation s ops).map (Prod.map view id) = run (step capacity) (view s) ops := by
  induction ops generalizing s with
  | nil => rfl
  | cons op ops ih =>
    rw [run, run, ← hstep s op]
    cases implementation s op with
    | none => rfl
    | some result =>
      obtain ⟨s', reply⟩ := result
      have hrest := ih s'
      simp only [Option.map_some, Option.bind_eq_bind, Option.bind_some, Prod.map_apply, id_eq,
        ← hrest]
      cases run implementation s' ops <;> rfl

/-! ### The last elements -/

/-- **A full queue that drops its oldest element** for a new one holds the last ones. -/
theorem push_rtake {capacity : ℕ} (hcapacity : 0 < capacity) (elements : List α) (x : α) :
    (if (elements.rtake capacity).length = capacity then (elements.rtake capacity).tail
      else elements.rtake capacity) ++ [x] = (elements ++ [x]).rtake capacity := by
  obtain ⟨n, rfl⟩ := Nat.exists_eq_succ_of_ne_zero hcapacity.ne'
  rw [List.rtake_concat_succ]
  congr 1
  simp only [List.rtake, List.length_drop]
  split_ifs with hfull
  · rw [List.tail_drop]
    congr 1
    omega
  · congr 1
    omega

/-- A list that fits is all that it holds. -/
theorem rtake_of_length_le {capacity : ℕ} {elements : List α} (h : elements.length ≤ capacity) :
    elements.rtake capacity = elements := by
  rw [List.rtake, Nat.sub_eq_zero_of_le h, List.drop_zero]

end Touchless.BoundedFifo
