import Mathlib.Data.List.Basic
import Mathlib.Order.Basic

/-!
# The first element of least cost

The result of a scan that keeps the cheapest element so far and leaves it only for one that is
strictly cheaper: an element of least cost, and the first of these. The position is unique
(`FirstLeast.unique`), and a scan that appends one element at a time decides between two cases
(`FirstLeast.append_of_lt`, `FirstLeast.append_of_le`).
-/

namespace Touchless

/-- The element `a` at position `i` has the least cost in the list, and those before it cost
more. -/
structure FirstLeast {α K : Type*} [Preorder K] (cost : α → K) (l : List α) (i : ℕ) (a : α) :
    Prop where
  get : l[i]? = some a
  le : ∀ b ∈ l, cost a ≤ cost b
  lt : ∀ j b, j < i → l[j]? = some b → cost a < cost b

namespace FirstLeast

variable {α K : Type*} {cost : α → K} {l : List α} {i j : ℕ} {a b : α}

section Preorder

variable [Preorder K]

theorem mem (h : FirstLeast cost l i a) : a ∈ l := List.mem_of_getElem? h.get

theorem lt_length (h : FirstLeast cost l i a) : i < l.length :=
  (List.getElem?_eq_some_iff.1 h.get).1

/-- A single element is the first of least cost. -/
theorem singleton (a : α) : FirstLeast cost [a] 0 a where
  get := rfl
  le b hb := by rw [List.mem_singleton.1 hb]
  lt j b hj _ := absurd hj (Nat.not_lt_zero j)

/-- A strictly cheaper element takes the place of the one before. -/
theorem append_of_lt (h : FirstLeast cost l i a) (hlt : cost b < cost a) :
    FirstLeast cost (l ++ [b]) l.length b where
  get := List.getElem?_concat_length
  le c hc := by
    rcases List.mem_append.1 hc with hc | hc
    · exact hlt.le.trans (h.le c hc)
    · rw [List.mem_singleton.1 hc]
  lt j c hj hget := by
    rw [List.getElem?_append_left hj] at hget
    exact hlt.trans_le (h.le c (List.mem_of_getElem? hget))

/-- An element that is not cheaper does not. -/
theorem append_of_le (h : FirstLeast cost l i a) (hle : cost a ≤ cost b) :
    FirstLeast cost (l ++ [b]) i a where
  get := by rw [List.getElem?_append_left h.lt_length, h.get]
  le c hc := by
    rcases List.mem_append.1 hc with hc | hc
    · exact h.le c hc
    · rwa [List.mem_singleton.1 hc]
  lt j c hj hget := by
    rw [List.getElem?_append_left (Nat.lt_trans hj h.lt_length)] at hget
    exact h.lt j c hj hget

/-- There is only one first element of least cost. -/
theorem unique (h : FirstLeast cost l i a) (h' : FirstLeast cost l j b) : i = j := by
  rcases Nat.lt_trichotomy i j with hij | rfl | hij
  · exact absurd (h'.lt i a hij h.get) (h.le b h'.mem).not_gt
  · rfl
  · exact absurd (h.lt j b hij h'.get) (h'.le a h.mem).not_gt

end Preorder

/-- Where a predicate holds of the elements whose cost is the least there can be, the first one it
holds of is the first of least cost. -/
theorem of_find?_eq_some [PartialOrder K] {bottom : K} (hbottom : ∀ c ∈ l, bottom ≤ cost c)
    {p : α → Bool} (hp : ∀ c ∈ l, p c = true ↔ cost c = bottom) (hfind : l.find? p = some a) :
    ∃ i, FirstLeast cost l i a := by
  have hcost : cost a = bottom :=
    (hp a (List.mem_of_find?_eq_some hfind)).1 (List.find?_some hfind)
  obtain ⟨-, i, hi, hget, hbefore⟩ := List.find?_eq_some_iff_getElem.1 hfind
  refine ⟨i, ?_, fun c hc ↦ hcost.le.trans (hbottom c hc), fun j c hj hc ↦ ?_⟩
  · rw [List.getElem?_eq_getElem hi, hget]
  -- what comes earlier does not satisfy the predicate, so its cost is another
  · have hmem := List.mem_of_getElem? hc
    have hne : cost c ≠ bottom := by
      intro heq
      have hfalse := hbefore j hj
      rw [(List.getElem?_eq_some_iff.1 hc).2, (hp c hmem).2 heq] at hfalse
      exact absurd hfalse (by simp)
    rw [hcost]
    exact lt_of_le_of_ne (hbottom c hmem) hne.symm

end FirstLeast

end Touchless
