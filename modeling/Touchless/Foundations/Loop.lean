import Mathlib.Data.Nat.Basic

/-!
# Loops that are left from within

The loop `for (;;) { … }`, whose body goes on with a new state, leaves the loop with a result, or
raises an exception. A function is such a loop if it satisfies the equation of the loop and every
turn that goes on makes a measure smaller (`IsLoop`). Then the loop ends, after at most as many
turns as the measure says (`IsLoop.terminates`), so the equation is no mere equation between
functions that are total by definition.
-/

namespace Touchless.Loop

variable {ε σ ρ : Type}

/-- How a turn ends that raises no exception. -/
inductive Turn (σ ρ : Type) where
  | next (s : σ)
  | done (r : ρ)

/-- What comes behind a turn. -/
def Turn.follow (loop : σ → Except ε ρ) : Turn σ ρ → Except ε ρ
  | next s => loop s
  | done r => .ok r

/-- The function is the loop with the body `turn`, and `left` goes down as long as it goes on. -/
structure IsLoop (turn : σ → Except ε (Turn σ ρ)) (left : σ → ℕ) (loop : σ → Except ε ρ) :
    Prop where
  eq : ∀ s, loop s = turn s >>= Turn.follow loop
  decreases : ∀ {s s'}, turn s = .ok (.next s') → left s' < left s

/-- Some turns, all of which go on. -/
inductive Goes (turn : σ → Except ε (Turn σ ρ)) : ℕ → σ → σ → Prop where
  | refl {s : σ} : Goes turn 0 s s
  | next {n : ℕ} {s s' s'' : σ} (h : turn s = .ok (.next s')) (hs : Goes turn n s' s'') :
      Goes turn (n + 1) s s''

/-- The loop, and that it ends: after at most `left s` turns there is one that does not go on, and
the result or the exception is that of this turn. -/
structure Terminates (turn : σ → Except ε (Turn σ ρ)) (left : σ → ℕ) (loop : σ → Except ε ρ) :
    Prop where
  isLoop : IsLoop turn left loop
  ends : ∀ s, ∃ n ≤ left s, ∃ last, Goes turn n s last ∧
    ((∃ r, turn last = .ok (.done r) ∧ loop s = .ok r) ∨
      ∃ e, turn last = .error e ∧ loop s = .error e)

variable {turn : σ → Except ε (Turn σ ρ)} {left : σ → ℕ} {loop : σ → Except ε ρ}

/-- **A loop with a measure terminates.** -/
theorem IsLoop.terminates (h : IsLoop turn left loop) : Terminates turn left loop := by
  refine ⟨h, fun s ↦ ?_⟩
  induction hleft : left s using Nat.strong_induction_on generalizing s with
  | _ k ih =>
    have heq := h.eq s
    cases hturn : turn s with
    | error e =>
      rw [hturn] at heq
      exact ⟨0, Nat.zero_le _, s, .refl, .inr ⟨e, hturn, heq⟩⟩
    | ok t =>
      rw [hturn] at heq
      cases t with
      | done r => exact ⟨0, Nat.zero_le _, s, .refl, .inl ⟨r, hturn, heq⟩⟩
      | next s' =>
        have hlt := h.decreases hturn
        obtain ⟨n, hn, last, hgoes, hlast⟩ := ih (left s') (hleft ▸ hlt) s' rfl
        have hloop : loop s = loop s' := heq
        refine ⟨n + 1, by omega, last, .next hturn hgoes, ?_⟩
        rwa [hloop]

end Touchless.Loop
