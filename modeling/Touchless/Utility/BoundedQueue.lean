import Mathlib.Data.Nat.ModEq
import Touchless.Foundations.BoundedFifo

/-!
# A queue with a maximum size

`BoundedQueue` of `Utility/BoundedQueue.h`: an array that is used as a circle, with the index of the
oldest element, the index behind the newest one, and the number of elements. The two indices and the
number determine one another; the structure says how, so the operations have to keep it.

What a queue is for its users is `toList`, its elements with the oldest first. In this view every
sequence of operations does what it does with a list of bounded length (`run_toList`).
-/

namespace Touchless

/-- The members of `BoundedQueue<T, maxSize>`. -/
structure BoundedQueue (α : Type) (maxSize : ℕ) where
  /-- `m_Data` -/
  data : Vector α maxSize
  curFront : ℕ
  curBack : ℕ
  curSize : ℕ
  curFront_lt : curFront < maxSize
  curSize_le : curSize ≤ maxSize
  curBack_eq : curBack = (curFront + curSize) % maxSize

namespace BoundedQueue

variable {α β : Type} {maxSize : ℕ} (q : BoundedQueue α maxSize)

theorem pos (q : BoundedQueue α maxSize) : 0 < maxSize := Nat.zero_lt_of_lt q.curFront_lt

/-- The constructor, which leaves the array as it is in memory. -/
def construct (memory : Vector α maxSize) (h : 0 < maxSize) : BoundedQueue α maxSize where
  data := memory
  curFront := 0
  curBack := 0
  curSize := 0
  curFront_lt := h
  curSize_le := Nat.zero_le _
  curBack_eq := (Nat.zero_mod _).symm

/-- `Reset`. -/
def reset : BoundedQueue α maxSize := construct q.data q.pos

/-- `Size`. -/
def size : ℕ := q.curSize

/-- `IsEmpty`. -/
def isEmpty : Bool := q.curSize = 0

/-- `IsFull`. -/
def isFull : Bool := q.curSize = maxSize

theorem isEmpty_of_isFull {q : BoundedQueue α maxSize} (h : q.isFull = true) :
    q.isEmpty = false := by
  have hpos := q.pos
  simp only [isFull, decide_eq_true_eq] at h
  simp only [isEmpty, decide_eq_false_iff_not]
  omega

/-- `PeekFront`, and `operator[]`, which is the same. -/
def peekFront (i : ℕ) : α :=
  have hlt : (q.curFront + i) % maxSize < maxSize := Nat.mod_lt _ q.pos
  q.data[(q.curFront + i) % maxSize]

/-- `Enqueue`, with the value it returns. -/
def enqueue (x : α) : BoundedQueue α maxSize × Bool :=
  if h : q.curSize = maxSize then (q, false)
  else
    ({ data := q.data.set (q.curBack) x (q.curBack_eq ▸ Nat.mod_lt _ q.pos)
       curFront := q.curFront
       curBack := (q.curBack + 1) % maxSize
       curSize := q.curSize + 1
       curFront_lt := q.curFront_lt
       curSize_le := Nat.lt_of_le_of_ne q.curSize_le h
       curBack_eq := by rw [q.curBack_eq, Nat.mod_add_mod, Nat.add_assoc] }, true)

/-- `Dequeue` of a queue that is not empty. -/
def dequeue (h : q.isEmpty = false) : α × BoundedQueue α maxSize :=
  have hsize : q.curSize ≠ 0 := by simpa [isEmpty] using h
  have hlt : q.curFront < maxSize := q.curFront_lt
  (q.data[q.curFront],
    { data := q.data
      curFront := (q.curFront + 1) % maxSize
      curBack := q.curBack
      curSize := q.curSize - 1
      curFront_lt := Nat.mod_lt _ q.pos
      curSize_le := Nat.le_trans (Nat.sub_le _ _) q.curSize_le
      curBack_eq := by
        rw [Nat.mod_add_mod, q.curBack_eq]
        congr 1
        omega })

/-- The loop `while (!IsEmpty()) { … Dequeue() … }`, for as many turns as there are elements. -/
def drain (f : β → α → β) : ℕ → BoundedQueue α maxSize → β → BoundedQueue α maxSize × β
  | 0, q, b => (q, b)
  | turns + 1, q, b =>
    if h : q.isEmpty = false then drain f turns (q.dequeue h).2 (f b (q.dequeue h).1) else (q, b)

/-! ### The elements -/

/-- The elements, oldest first. -/
def toList : List α := (List.range q.curSize).map q.peekFront

variable {q}

@[simp]
theorem length_toList : q.toList.length = q.curSize := by simp [toList]

theorem isEmpty_iff : q.isEmpty = true ↔ q.toList = [] := by simp [isEmpty, toList]

theorem isFull_iff : q.isFull = true ↔ q.toList.length = maxSize := by simp [isFull]

theorem length_toList_le (q : BoundedQueue α maxSize) : q.toList.length ≤ maxSize := by
  rw [length_toList]
  exact q.curSize_le

/-- `PeekFront` counts from the oldest element. -/
theorem peekFront_eq_getElem {i : ℕ} (h : i < q.toList.length) : q.peekFront i = q.toList[i] := by
  simp [toList]

@[simp]
theorem toList_reset : q.reset.toList = [] := rfl

/-- **The oldest element** leaves. -/
theorem toList_dequeue (h : q.isEmpty = false) :
    q.toList = (q.dequeue h).1 :: (q.dequeue h).2.toList := by
  obtain ⟨n, hn⟩ : ∃ n, q.curSize = n + 1 := by
    refine Nat.exists_eq_succ_of_ne_zero ?_
    simpa [isEmpty] using h
  have hfront : q.peekFront 0 = (q.dequeue h).1 := by
    simp [peekFront, dequeue, Nat.mod_eq_of_lt q.curFront_lt]
  have hrest : ∀ i, q.peekFront (i + 1) = (q.dequeue h).2.peekFront i := fun i ↦ by
    simp [peekFront, dequeue, Nat.add_assoc, Nat.add_comm 1 i]
  have hsize : (q.dequeue h).2.curSize = n := by
    show q.curSize - 1 = n
    omega
  rw [toList, toList, hn, hsize, List.range_succ_eq_map, List.map_cons, List.map_map, hfront]
  exact congrArg _ (List.map_congr_left fun i _ ↦ hrest i)

/-- **A new element** comes last, if there is room. -/
theorem toList_enqueue (h : q.isFull = false) (x : α) :
    (q.enqueue x).1.toList = q.toList ++ [x] := by
  have hsize : q.curSize ≠ maxSize := by simpa [isFull] using h
  have hlt : q.curSize < maxSize := Nat.lt_of_le_of_ne q.curSize_le hsize
  have hdata : (q.enqueue x).1.data =
      q.data.set q.curBack x (q.curBack_eq ▸ Nat.mod_lt _ q.pos) := by
    simp [enqueue, hsize]
  have hfront : (q.enqueue x).1.curFront = q.curFront := by simp [enqueue, hsize]
  have hcount : (q.enqueue x).1.curSize = q.curSize + 1 := by simp [enqueue, hsize]
  have hold : ∀ i < q.curSize, (q.enqueue x).1.peekFront i = q.peekFront i := fun i hi ↦ by
    have hne : q.curBack ≠ (q.curFront + i) % maxSize := fun heq ↦ by
      rw [q.curBack_eq] at heq
      -- two indices less than a full turn apart fall on one place only if they are equal
      have hmod : q.curSize % maxSize = i % maxSize := Nat.ModEq.add_left_cancel rfl heq
      rw [Nat.mod_eq_of_lt hlt, Nat.mod_eq_of_lt (hi.trans hlt)] at hmod
      omega
    simp [peekFront, hdata, hfront, hne]
  have hnew : (q.enqueue x).1.peekFront q.curSize = x := by
    simp [peekFront, hdata, hfront, q.curBack_eq]
  rw [toList, hcount, List.range_succ, List.map_append, List.map_singleton, hnew, toList]
  exact congrArg (· ++ [x]) (List.map_congr_left fun i hi ↦ hold i (List.mem_range.1 hi))

/-- **Draining** folds over the elements, oldest first, and leaves the queue empty. -/
theorem drain_toList (f : β → α → β) : ∀ {turns : ℕ} {q : BoundedQueue α maxSize} (b : β),
    q.curSize = turns →
      (drain f turns q b).1.toList = [] ∧ (drain f turns q b).2 = q.toList.foldl f b := by
  intro turns
  induction turns with
  | zero =>
    intro q b hsize
    have hnil : q.toList = [] := by simp [toList, hsize]
    exact ⟨hnil, by rw [hnil]; rfl⟩
  | succ turns ih =>
    intro q b hsize
    have hempty : q.isEmpty = false := by simp [isEmpty, hsize]
    have hrest : (q.dequeue hempty).2.curSize = turns := by
      show q.curSize - 1 = turns
      omega
    rw [drain, dif_pos hempty, toList_dequeue hempty]
    exact ih (f b (q.dequeue hempty).1) hrest

/-! ### Sequences of operations -/

open BoundedFifo (Op Reply)

/-- One operation, with its answer; `Dequeue` is called only when the queue is not empty. -/
def step (q : BoundedQueue α maxSize) : Op α → Option (BoundedQueue α maxSize × Reply α)
  | .reset => some (q.reset, .done)
  | .enqueue x => some ((q.enqueue x).1, .stored (q.enqueue x).2)
  | .dequeue =>
    if h : q.isEmpty = false then some ((q.dequeue h).2, .taken (q.dequeue h).1) else none

/-- A full queue is left as it is. -/
theorem enqueue_of_isFull (h : q.isFull = true) (x : α) : q.enqueue x = (q, false) := by
  have hsize : q.curSize = maxSize := by simpa [isFull] using h
  simp [enqueue, hsize]

theorem enqueue_succeeds (h : q.isFull = false) (x : α) : (q.enqueue x).2 = true := by
  have hsize : q.curSize ≠ maxSize := by simpa [isFull] using h
  simp [enqueue, hsize]

/-- **One operation** does with the elements what it does with a list. -/
theorem step_toList (q : BoundedQueue α maxSize) (op : Op α) :
    (q.step op).map (Prod.map toList id) = BoundedFifo.step maxSize q.toList op := by
  cases op with
  | reset => rfl
  | enqueue x =>
    have hfits := q.length_toList_le
    cases hfull : q.isFull with
    | true =>
      have hlength : ¬q.toList.length < maxSize := Nat.not_lt.2 (isFull_iff.1 hfull).ge
      rw [step, enqueue_of_isFull hfull, BoundedFifo.step, if_neg hlength]
      rfl
    | false =>
      have hlength : q.toList.length < maxSize :=
        Nat.lt_of_le_of_ne hfits fun h ↦ by simp [isFull_iff.2 h] at hfull
      rw [step, enqueue_succeeds hfull, BoundedFifo.step, if_pos hlength, Option.map_some,
        Prod.map_apply, toList_enqueue hfull, id_eq]
  | dequeue =>
    cases hempty : q.isEmpty with
    | true =>
      rw [step, dif_neg (by simp [hempty]), isEmpty_iff.1 hempty]
      rfl
    | false =>
      rw [step, dif_pos hempty, toList_dequeue hempty]
      rfl

/-- **Every sequence of operations** does with the elements what it does with a list. -/
theorem run_toList (q : BoundedQueue α maxSize) (ops : List (Op α)) :
    (BoundedFifo.run step q ops).map (Prod.map toList id) =
      BoundedFifo.run (BoundedFifo.step maxSize) q.toList ops :=
  BoundedFifo.run_view step_toList ops q

/-! ### The last elements -/

/-- `if (IsFull()) Dequeue(); Enqueue(x)`. -/
def pushLast (q : BoundedQueue α maxSize) (x : α) : BoundedQueue α maxSize :=
  if h : q.isFull = true then ((q.dequeue (isEmpty_of_isFull h)).2.enqueue x).1
  else (q.enqueue x).1

/-- The queue holds the last elements of all that have come. -/
theorem toList_pushLast {elements : List α} (h : q.toList = elements.rtake maxSize) (x : α) :
    (q.pushLast x).toList = (elements ++ [x]).rtake maxSize := by
  rw [← BoundedFifo.push_rtake q.pos, ← h, pushLast]
  by_cases hfull : q.isFull = true
  · have hsize : q.curSize = maxSize := by simpa [isFull] using hfull
    have hroom : (q.dequeue (isEmpty_of_isFull hfull)).2.isFull = false := by
      have hpos := q.pos
      simp only [isFull, dequeue, hsize, decide_eq_false_iff_not]
      omega
    rw [dif_pos hfull, if_pos (isFull_iff.1 hfull), toList_enqueue hroom,
      toList_dequeue (isEmpty_of_isFull hfull), List.tail_cons]
  · rw [dif_neg hfull, if_neg fun hlength ↦ hfull (isFull_iff.2 hlength),
      toList_enqueue (Bool.eq_false_iff.2 hfull)]

/-- **Pushing elements one after the other** leaves the last of them, behind those of the old ones
that there is room for. -/
theorem toList_foldl_pushLast (q : BoundedQueue α maxSize) (elements : List α) :
    (elements.foldl pushLast q).toList = (q.toList ++ elements).rtake maxSize := by
  induction elements using List.reverseRecOn with
  | nil =>
    rw [List.append_nil, BoundedFifo.rtake_of_length_le q.length_toList_le]
    rfl
  | append_singleton elements x ih =>
    rw [List.foldl_append, ← List.append_assoc]
    exact toList_pushLast ih x

end BoundedQueue

end Touchless
