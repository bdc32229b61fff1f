import Mathlib.Data.List.Basic
import Mathlib.Data.List.Chain
import Mathlib.Data.List.Induction

/-!
# Runs of a partial step

A system whose step may fail to return is run over a list of labels by `List.foldlM` in `Option`.
This file has the rules that runs are reasoned by: an invariant that may speak about the labels
consumed so far (`foldlM_invariant`), and the totality of a run whose steps are total on the
invariant (`foldlM_isSome`) or follow a total run (`foldlM_simulates`). Total runs, by `List.foldl`,
have a rule for what holds all the way (`mem_scanl`), two for conditions that relate what is visible
before and after each step (`isChain_iff_forall_step`, `forall_step_iff_isChain`), and one for steps
that break what others keep (`forall_step_iff_not_bad`).
-/

namespace Touchless.PartialRun

variable {α σ : Type*} {step : σ → α → Option σ} {start finish : σ}

/-- Split a run after its first part. -/
theorem foldlM_append_eq_some {first second : List α} :
    (first ++ second).foldlM step start = some finish ↔
      ∃ middle, first.foldlM step start = some middle ∧
        second.foldlM step middle = some finish := by
  rw [List.foldlM_append, Option.bind_eq_bind, Option.bind_eq_some_iff]

/-- Expose the last step of a run. -/
theorem foldlM_concat_eq_some {labels : List α} {a : α} :
    (labels ++ [a]).foldlM step start = some finish ↔
      ∃ middle, labels.foldlM step start = some middle ∧ step middle a = some finish := by
  simp only [foldlM_append_eq_some, List.foldlM_cons, List.foldlM_nil, Option.bind_eq_bind,
    Option.pure_def, Option.bind_fun_some]

/-- **The invariant rule**: what holds at the start and is preserved by every step holds at the end,
where the invariant may mention the labels consumed so far. -/
theorem foldlM_invariant {P : List α → σ → Prop} {labels : List α}
    (hstart : P [] start)
    (hstep : ∀ done s a s', done ++ [a] <+: labels → P done s → step s a = some s' →
      P (done ++ [a]) s')
    (hrun : labels.foldlM step start = some finish) : P labels finish := by
  induction labels using List.reverseRecOn generalizing finish with
  | nil =>
    simp only [List.foldlM_nil, Option.pure_def, Option.some.injEq] at hrun
    exact hrun ▸ hstart
  | append_singleton labels a ih =>
    obtain ⟨middle, hfirst, hlast⟩ := foldlM_concat_eq_some.1 hrun
    have hmiddle : P labels middle :=
      ih (fun done s b s' hpre ↦ hstep done s b s' (hpre.trans (List.prefix_append _ _))) hfirst
    exact hstep labels middle a finish (List.prefix_refl _) hmiddle hlast

/-- **The totality rule**: a run whose every step is defined on the invariant is defined. -/
theorem foldlM_isSome {P : σ → Prop} {labels : List α} (hstart : P start)
    (hstep : ∀ s, ∀ a ∈ labels, P s → ∃ s', step s a = some s' ∧ P s') :
    ∃ finish, labels.foldlM step start = some finish ∧ P finish := by
  induction labels generalizing start with
  | nil => exact ⟨start, rfl, hstart⟩
  | cons a labels ih =>
    obtain ⟨s', hs', hP⟩ := hstep start a List.mem_cons_self hstart
    obtain ⟨finish, hrun, hfinish⟩ :=
      ih hP fun s b hb ↦ hstep s b (List.mem_cons_of_mem a hb)
    exact ⟨finish, by rw [List.foldlM_cons, hs']; exact hrun, hfinish⟩

/-- **The simulation rule**: a partial run that does step by step what a total one does is defined,
and their states stay related. -/
theorem foldlM_simulates {τ : Type*} {R : σ → τ → Prop} {next : τ → α → τ} {labels : List α}
    {first : τ} (hstart : R start first)
    (hstep : ∀ s t, ∀ a ∈ labels, R s t → ∃ s', step s a = some s' ∧ R s' (next t a)) :
    ∃ finish, labels.foldlM step start = some finish ∧ R finish (labels.foldl next first) := by
  induction labels generalizing start first with
  | nil => exact ⟨start, rfl, hstart⟩
  | cons a labels ih =>
    obtain ⟨s', hs', hrelated⟩ := hstep start first a List.mem_cons_self hstart
    obtain ⟨finish, hrun, hfinish⟩ :=
      ih hrelated fun s t b hb ↦ hstep s t b (List.mem_cons_of_mem a hb)
    exact ⟨finish, by rw [List.foldlM_cons, hs']; exact hrun, hfinish⟩

/-! ### Total runs -/

variable {β : Type*}

/-- The states that a total run goes through. -/
theorem mem_scanl {next : σ → α → σ} {P : σ → Prop} :
    ∀ (labels : List α) {s}, P s → (∀ s, P s → ∀ a ∈ labels, P (next s a)) →
      ∀ x ∈ labels.scanl next s, P x := by
  intro labels
  induction labels with
  | nil =>
    intro s h _ x hx
    rwa [List.mem_singleton.1 hx]
  | cons a labels ih =>
    intro s h hstep x hx
    rw [List.scanl_cons] at hx
    rcases List.mem_cons.1 hx with rfl | hx
    · exact h
    · exact ih (hstep s h a List.mem_cons_self)
        (fun s hs b hb ↦ hstep s hs b (List.mem_cons_of_mem a hb)) x hx

/-- The places of a list: the first one, or one of the rest. -/
theorem forall_split_cons {b : α} {labels : List α} {Q : List α → α → Prop} :
    (∀ earlier a later, b :: labels = earlier ++ a :: later → Q earlier a) ↔
      Q [] b ∧ ∀ earlier a later, labels = earlier ++ a :: later → Q (b :: earlier) a := by
  constructor
  · exact fun h ↦ ⟨h [] b labels rfl, fun earlier a later hsplit ↦
      h (b :: earlier) a later (by rw [hsplit]; rfl)⟩
  · rintro ⟨hfirst, hrest⟩ earlier a later hsplit
    cases earlier with
    | nil =>
      obtain ⟨rfl, rfl⟩ := List.cons.inj hsplit
      exact hfirst
    | cons c earlier =>
      obtain ⟨rfl, hlabels⟩ := List.cons.inj hsplit
      exact hrest earlier a later hlabels

/-- **A chain condition on what is visible of a run** is one on every step, when each label
determines what is visible after it. -/
theorem isChain_iff_forall_step {next : σ → α → σ} {visible : σ → β} {target : α → β}
    (hvisible : ∀ s a, visible (next s a) = target a) {R : β → β → Prop} (labels : List α) :
    ∀ {s}, List.IsChain R (visible s :: labels.map target) ↔
      ∀ earlier a later, labels = earlier ++ a :: later →
        R (visible (earlier.foldl next s)) (target a) := by
  induction labels with
  | nil =>
    exact fun {s} ↦ ⟨fun _ earlier a later h ↦ by simp at h, fun _ ↦ List.isChain_singleton _⟩
  | cons b labels ih =>
    intro s
    rw [List.map_cons, List.isChain_cons_cons, forall_split_cons, ← hvisible s b, ih, hvisible]
    rfl

/-- **Steps that keep what they should**: if a step keeps `P` exactly when what is visible before
and after it is related, then `P` holds after every step of a run exactly when the visible states
form a chain. -/
theorem forall_step_iff_isChain {next : σ → α → σ} {visible : σ → β} {target : α → β}
    (hvisible : ∀ s a, visible (next s a) = target a) {R : β → β → Prop} {P : σ → Prop}
    (hstep : ∀ s a, P s → (P (next s a) ↔ R (visible s) (target a))) {s : σ} (hP : P s)
    (labels : List α) :
    (∀ earlier a later, labels = earlier ++ a :: later → P ((earlier ++ [a]).foldl next s)) ↔
      List.IsChain R (visible s :: labels.map target) := by
  rw [isChain_iff_forall_step hvisible]
  constructor
  · intro h earlier a later hsplit
    have hafter := h earlier a later hsplit
    have hbefore : P (earlier.foldl next s) := by
      rcases List.eq_nil_or_concat' earlier with rfl | ⟨earlier, b, rfl⟩
      · exact hP
      · exact h earlier b (a :: later) (by rw [hsplit]; simp)
    rw [List.foldl_append] at hafter
    exact (hstep _ a hbefore).1 hafter
  · intro h
    have hprefix : ∀ earlier later, labels = earlier ++ later → P (earlier.foldl next s) := by
      intro earlier
      induction earlier using List.reverseRecOn with
      | nil => exact fun _ _ ↦ hP
      | append_singleton earlier a ih =>
        intro later hsplit
        have hsplit' : labels = earlier ++ a :: later := by rw [hsplit]; simp
        rw [List.foldl_append]
        exact (hstep _ a (ih (a :: later) hsplit')).2 (h earlier a later hsplit')
    exact fun earlier a later hsplit ↦ hprefix (earlier ++ [a]) later (by rw [hsplit]; simp)

/-- **Bad steps**: if all steps but the bad ones keep an invariant that implies `P`, and the bad
ones break `P`, then `P` holds after every step of a run exactly when no step is bad. -/
theorem forall_step_iff_not_bad {next : σ → α → σ} {I P : σ → Prop} {Bad : σ → α → Prop}
    (himp : ∀ s, I s → P s) (hkeep : ∀ s a, I s → ¬Bad s a → I (next s a))
    (hbreak : ∀ s a, I s → Bad s a → ¬P (next s a)) (labels : List α) :
    ∀ {s}, I s →
      ((∀ earlier a later, labels = earlier ++ a :: later → P ((earlier ++ [a]).foldl next s)) ↔
        ∀ earlier a later, labels = earlier ++ a :: later → ¬Bad (earlier.foldl next s) a) := by
  induction labels with
  | nil => exact fun {s} _ ↦ by simp
  | cons b labels ih =>
    intro s hs
    rw [forall_split_cons, forall_split_cons]
    by_cases hbad : Bad s b
    · exact iff_of_false (fun h ↦ hbreak s b hs hbad h.1) fun h ↦ h.1 hbad
    · have hnext : I (next s b) := hkeep s b hs hbad
      exact and_congr (iff_of_true (himp _ hnext) hbad) (ih hnext)

end Touchless.PartialRun
