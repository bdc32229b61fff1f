import Mathlib.Algebra.BigOperators.Group.List.Basic
import Mathlib.Algebra.Field.Basic
import Mathlib.Tactic.LinearCombination

/-!
# Carrying a remainder

Amounts are emitted in whole units, and what is left of an amount is carried over to the next one.
Nothing is lost or invented: what has been emitted and what is left add up to what there was
(`Carried.sum_add`), and what is left is bounded by what the choice of the whole units leaves
(`Carried.rest_property`).
-/

namespace Touchless

/-- The remainder `rest` is left of `start` after some amounts, each emitted in whole units together
with the remainder before it. A step is an amount with what is emitted. -/
inductive Carried {K : Type} [Field K] (whole : K → K) (start : K) : List (K × K) → K → Prop
  | nil : Carried whole start [] start
  | concat {steps : List (K × K)} {rest : K} (h : Carried whole start steps rest) (amount : K) :
    Carried whole start (steps ++ [(amount, whole (rest + amount))])
      (rest + amount - whole (rest + amount))

namespace Carried

variable {K : Type} [Field K] {whole : K → K} {start rest : K} {steps : List (K × K)}

/-- **Nothing is lost or invented.** -/
theorem sum_add (h : Carried whole start steps rest) :
    (steps.map Prod.snd).sum + rest = start + (steps.map Prod.fst).sum := by
  induction h with
  | nil => simp
  | concat h amount ih =>
    rw [List.map_append, List.map_append, List.sum_append, List.sum_append]
    simp only [List.map_cons, List.map_nil, List.sum_singleton]
    linear_combination ih

/-- The remainder is what was there, or what the whole units leave. -/
theorem rest_property {P : K → Prop} (h : Carried whole start steps rest) (hstart : P start)
    (hwhole : ∀ x, P (x - whole x)) : P rest := by
  cases h with
  | nil => exact hstart
  | concat h amount => exact hwhole _

/-- Everything that is emitted is whole. -/
theorem emitted_property {P : K → Prop} (h : Carried whole start steps rest)
    (hwhole : ∀ x, P (whole x)) : ∀ s ∈ steps, P s.2 := by
  induction h with
  | nil => exact fun s hs ↦ absurd hs List.not_mem_nil
  | concat h amount ih =>
    intro s hs
    rcases List.mem_append.1 hs with hs | hs
    · exact ih s hs
    · rw [List.mem_singleton.1 hs]
      exact hwhole _

end Carried

end Touchless
