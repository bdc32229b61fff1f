import Mathlib.Data.List.Basic

/-!
# Latches

A log in which some events fire and some arm. It is latched if something has armed before every
event that fires, and nothing has fired in between. A log grows at its end, so the rules are for one
more event.
-/

namespace Touchless

variable {ε : Type*} {arms fires : ε → Prop} {log : List ε} {e : ε}

/-- An event has armed, and nothing has fired since. -/
def Armed (arms fires : ε → Prop) (log : List ε) : Prop :=
  ∃ earlier e later, log = earlier ++ e :: later ∧ arms e ∧ ∀ x ∈ later, ¬fires x

/-- Whatever fires has been armed. -/
def Latched (arms fires : ε → Prop) (log : List ε) : Prop :=
  ∀ earlier e later, log = earlier ++ e :: later → fires e → Armed arms fires earlier

theorem Armed.of_arms (h : arms e) : Armed arms fires (log ++ [e]) :=
  ⟨log, e, [], rfl, h, by simp⟩

theorem Armed.concat (h : Armed arms fires log) (he : ¬fires e) :
    Armed arms fires (log ++ [e]) := by
  obtain ⟨earlier, x, later, rfl, hx, hlater⟩ := h
  refine ⟨earlier, x, later ++ [e], by simp, hx, fun y hy ↦ ?_⟩
  rcases List.mem_append.1 hy with hy | hy
  · exact hlater y hy
  · rwa [List.mem_singleton.1 hy]

theorem latched_nil : Latched arms fires [] := by
  intro earlier e later h
  simp at h

theorem Latched.concat (h : Latched arms fires log) (he : fires e → Armed arms fires log) :
    Latched arms fires (log ++ [e]) := by
  intro earlier x later hsplit hx
  rcases List.eq_nil_or_concat later with rfl | ⟨later, y, rfl⟩
  -- the event is the last one
  · obtain ⟨rfl, hlast⟩ := List.append_inj' hsplit rfl
    obtain rfl : e = x := List.singleton_injective hlast
    exact he hx
  -- or one of the log before
  · have hinit : log ++ [e] = (earlier ++ x :: later) ++ [y] := by
      rw [hsplit, List.concat_eq_append, List.append_assoc, List.cons_append]
    exact h earlier x later (List.append_inj' hinit rfl).1 hx

end Touchless
