import Mathlib.Data.List.Basic

/-!
# Walks of a labelled relation

A protocol is often given by a relation between its states that is labelled with what is observed.
A list of observations obeys the protocol if it labels a walk. This file has the rule for systems
that log what can be observed (`Walk.Grows.foldl`): if every operation adds a walk to the log, then
so does every sequence of operations.
-/

namespace Touchless

variable {σ α : Type*} {rel : σ → α → σ → Prop}

/-- The labels lead from one state to another. -/
inductive Walk (rel : σ → α → σ → Prop) : σ → List α → σ → Prop
  | nil (s : σ) : Walk rel s [] s
  | cons {s s' s'' : σ} {a : α} {labels : List α} (hstep : rel s a s')
      (hrest : Walk rel s' labels s'') : Walk rel s (a :: labels) s''

namespace Walk

variable {s s' s'' : σ} {a b : α} {first second : List α}

theorem single (h : rel s a s') : Walk rel s [a] s' := .cons h (.nil s')

theorem pair (h : rel s a s') (h' : rel s' b s'') : Walk rel s [a, b] s'' := .cons h (.single h')

theorem append (h : Walk rel s first s') (h' : Walk rel s' second s'') :
    Walk rel s (first ++ second) s'' := by
  induction h with
  | nil s => exact h'
  | cons hstep _ ih => exact .cons hstep (ih h')

variable {τ ω : Type*}

/-- The log has grown by a walk, from where it stood to where it stands. -/
def Grows (rel : σ → α → σ → Prop) (log : τ → List α) (at' : τ → σ → Prop) (t t' : τ) : Prop :=
  ∀ s, at' t s → ∃ labels s', log t' = log t ++ labels ∧ Walk rel s labels s' ∧ at' t' s'

variable {log : τ → List α} {at' : τ → σ → Prop} {t t' t'' : τ}

theorem Grows.refl (t : τ) : Grows rel log at' t t :=
  fun s h ↦ ⟨[], s, (List.append_nil _).symm, .nil s, h⟩

theorem Grows.trans (h : Grows rel log at' t t') (h' : Grows rel log at' t' t'') :
    Grows rel log at' t t'' := by
  intro s hs
  obtain ⟨first, s', hlog, hfirst, hs'⟩ := h s hs
  obtain ⟨second, s'', hlog', hsecond, hs''⟩ := h' s' hs'
  exact ⟨first ++ second, s'', by rw [hlog', hlog, List.append_assoc], hfirst.append hsecond, hs''⟩

/-- **The rule for logs**: if every operation keeps an invariant under which it makes the log grow
by a walk, so does every sequence of operations. -/
theorem Grows.foldl {exec : τ → ω → τ} {Inv : τ → Prop}
    (hinv : ∀ {t}, Inv t → ∀ operation, Inv (exec t operation))
    (hgrows : ∀ {t}, Inv t → ∀ operation, Grows rel log at' t (exec t operation))
    (operations : List ω) (ht : Inv t) : Grows rel log at' t (operations.foldl exec t) := by
  induction operations generalizing t with
  | nil => exact .refl t
  | cons operation operations ih => exact (hgrows ht operation).trans (ih (hinv ht operation))

/-- A log that grows from a walk is one. -/
theorem Grows.walk {start : σ} (h : Grows rel log at' t t')
    (ht : ∃ s, Walk rel start (log t) s ∧ at' t s) :
    ∃ s', Walk rel start (log t') s' ∧ at' t' s' := by
  obtain ⟨s, hwalk, hs⟩ := ht
  obtain ⟨labels, s', hlog, hlabels, hs'⟩ := h s hs
  exact ⟨s', by rw [hlog]; exact hwalk.append hlabels, hs'⟩

end Walk

end Touchless
