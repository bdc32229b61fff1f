import Mathlib.Data.List.Basic
import Mathlib.Data.List.Infix

/-!
# Keeping a window of a log

A log has its newest entry in front, and a test says which entries are young. What is kept of the
log is a prefix: the young entries and the first old one (`keep`). Where entries only grow old,
nothing that is kept later has been lost earlier (`keep_cons_keep`), and a search for an old entry
finds the same in what is kept as in the log (`find?_keep`). A log is graded if the entries behind
an old one are old (`Graded`); there the young entries are a prefix.
-/

namespace Touchless.Retention

variable {α : Type*} {young young' : α → Bool} {e : α} {log : List α}

/-- The young entries at the front, and the entry behind them. -/
def keep (young : α → Bool) : List α → List α
  | [] => []
  | e :: log => if young e then e :: keep young log else [e]

/-- Behind an old entry all are old. -/
def Graded (young : α → Bool) (log : List α) : Prop :=
  log.Pairwise fun newer older ↦ young older = true → young newer = true

@[simp]
theorem keep_nil : keep young [] = [] := rfl

theorem keep_cons_young (he : young e = true) (log : List α) :
    keep young (e :: log) = e :: keep young log := by
  rw [keep, if_pos he]

theorem keep_cons_old (he : young e = false) (log : List α) : keep young (e :: log) = [e] := by
  rw [keep, he]
  rfl

theorem prefix_keep (young : α → Bool) (log : List α) : keep young log <+: log := by
  induction log with
  | nil => exact List.prefix_refl _
  | cons e log ih =>
    rw [keep]
    split_ifs
    · exact List.prefix_cons_inj e |>.2 ih
    · exact List.prefix_append [e] log

theorem head?_keep : (keep young log).head? = log.head? := by
  cases log with
  | nil => rfl
  | cons e log => rw [keep]; split_ifs <;> rfl

/-- One entry behind the young ones is kept too. -/
theorem keep_concat (h : ∀ e ∈ log, young e = true) (last : α) :
    keep young (log ++ [last]) = log ++ [last] := by
  induction log with
  | nil => rw [List.nil_append, keep]; split_ifs <;> rfl
  | cons e log ih =>
    rw [List.cons_append, keep_cons_young (h e List.mem_cons_self),
      ih fun e he ↦ h e (List.mem_cons_of_mem _ he)]

/-- Nothing behind an old entry is kept. -/
theorem keep_append_of_old (h : ∃ e ∈ log, young e = false) (rest : List α) :
    keep young (log ++ rest) = keep young log := by
  induction log with
  | nil => simp at h
  | cons e log ih =>
    rw [List.cons_append, keep, keep]
    split_ifs with he
    · obtain ⟨old, hmem, hold⟩ := h
      have hbehind : old ∈ log := (List.mem_cons.1 hmem).resolve_left fun hsame ↦
        Bool.noConfusion (he.symm.trans (hsame ▸ hold))
      rw [ih ⟨old, hbehind, hold⟩]
    · rfl

/-- **Entries that have grown old** would not be kept later: keeping a window before another entry
comes loses nothing. -/
theorem keep_cons_keep (h : ∀ e ∈ log, young' e = true → young e = true) (new : α) :
    keep young' (new :: keep young log) = keep young' (new :: log) := by
  have hkeep : keep young' (keep young log) = keep young' log := by
    induction log with
    | nil => rfl
    | cons e log ih =>
      have hlater := ih fun e he ↦ h e (List.mem_cons_of_mem _ he)
      cases he : young e with
      | true => rw [keep_cons_young he, keep, keep, hlater]
      | false =>
        have he' : young' e = false := by
          by_contra hyoung
          rw [h e List.mem_cons_self (by simpa using hyoung)] at he
          cases he
        rw [keep_cons_old he, keep_cons_old he', keep_cons_old he']
  rw [keep, keep, hkeep]

/-- **A search** for an entry that is old at least finds in the window what it finds in the log. -/
theorem find?_keep {test : α → Bool} (h : ∀ e ∈ log, test e = false → young e = true) :
    (keep young log).find? test = log.find? test := by
  induction log with
  | nil => rfl
  | cons e log ih =>
    have hlater := ih fun e he ↦ h e (List.mem_cons_of_mem _ he)
    cases htest : test e with
    | true =>
      rw [List.find?_cons_of_pos htest, keep]
      split_ifs <;> exact List.find?_cons_of_pos htest
    | false =>
      rw [keep_cons_young (h e List.mem_cons_self htest), List.find?_cons_of_neg (by simp [htest]),
        List.find?_cons_of_neg (by simp [htest]), hlater]

/-- **The entries before the one that a search finds** are the same in the window as in the log. -/
theorem takeWhile_keep {test : α → Bool} (h : ∀ e ∈ log, test e = true → young e = true) :
    (keep young log).takeWhile test = log.takeWhile test := by
  induction log with
  | nil => rfl
  | cons e log ih =>
    have hlater := ih fun e he ↦ h e (List.mem_cons_of_mem _ he)
    cases htest : test e with
    | true =>
      rw [keep_cons_young (h e List.mem_cons_self htest), List.takeWhile_cons_of_pos htest,
        List.takeWhile_cons_of_pos htest, hlater]
    | false =>
      rw [List.takeWhile_cons_of_neg (by simp [htest]), keep]
      split_ifs <;> exact List.takeWhile_cons_of_neg (by simp [htest])

/-- In a graded log the young entries are those at the front, -/
theorem Graded.takeWhile_eq_filter (h : Graded young log) :
    log.takeWhile young = log.filter young := by
  induction log with
  | nil => rfl
  | cons e log ih =>
    obtain ⟨hbehind, hlater⟩ := List.pairwise_cons.1 h
    cases he : young e with
    | true =>
      rw [List.takeWhile_cons_of_pos he, List.filter_cons_of_pos he, ih hlater]
    | false =>
      have hold : ∀ older ∈ log, young older = false := fun older hmem ↦ by
        by_contra hyoung
        rw [hbehind older hmem (by simpa using hyoung)] at he
        cases he
      rw [List.takeWhile_cons_of_neg (by simp [he]), List.filter_cons_of_neg (by simp [he]),
        List.filter_eq_nil_iff.2 fun older hmem ↦ by simp [hold older hmem]]

/-- and **the window** is made of them and of the first old entry. -/
theorem Graded.keep_eq (h : Graded young log) :
    keep young log = log.filter young ++ (log.find? fun e ↦ !young e).toList := by
  rw [← h.takeWhile_eq_filter]
  clear h
  induction log with
  | nil => rfl
  | cons e log ih =>
    cases he : young e with
    | true =>
      rw [keep_cons_young he, ih, List.takeWhile_cons_of_pos he,
        List.find?_cons_of_neg (by simp [he]), List.cons_append]
    | false =>
      rw [keep_cons_old he, List.takeWhile_cons_of_neg (by simp [he]),
        List.find?_cons_of_pos (by simp [he])]
      rfl

/-- **The last entry of the window** is old if any entry of the log is. -/
theorem getLast?_keep_old_iff :
    (∃ last ∈ (keep young log).getLast?, young last = false) ↔ ∃ e ∈ log, young e = false := by
  by_cases hold : ∃ e ∈ log, young e = false
  · refine iff_of_true ?_ hold
    induction log with
    | nil => simp at hold
    | cons e log ih =>
      cases he : young e with
      | false => exact ⟨e, by simp [keep_cons_old he], he⟩
      | true =>
        obtain ⟨old, hmem, hyoung⟩ := hold
        have hbehind : old ∈ log := (List.mem_cons.1 hmem).resolve_left fun hsame ↦
          Bool.noConfusion (he.symm.trans (hsame ▸ hyoung))
        obtain ⟨last, hlast, hlastOld⟩ := ih ⟨old, hbehind, hyoung⟩
        refine ⟨last, ?_, hlastOld⟩
        rw [Option.mem_def] at hlast ⊢
        rw [keep_cons_young he, List.getLast?_cons, hlast]
        rfl
  · refine iff_of_false ?_ hold
    rintro ⟨last, hlast, hlastOld⟩
    exact hold ⟨last, (prefix_keep young log).subset (List.mem_of_getLast? hlast), hlastOld⟩

/-- In a graded log it is the last one then. -/
theorem Graded.getLast?_old_iff (h : Graded young log) :
    (∃ last ∈ log.getLast?, young last = false) ↔ ∃ e ∈ log, young e = false := by
  constructor
  · rintro ⟨last, hlast, hold⟩
    exact ⟨last, List.mem_of_getLast? hlast, hold⟩
  · rintro ⟨old, hmem, hold⟩
    induction log using List.reverseRecOn with
    | nil => simp at hmem
    | append_singleton log last _ =>
      refine ⟨last, by simp, ?_⟩
      rcases List.mem_append.1 hmem with hbefore | hlast
      · by_contra hyoung
        have hlater := (List.pairwise_append.1 h).2.2 old hbefore last (by simp)
        rw [hlater (by simpa using hyoung)] at hold
        cases hold
      · rwa [← List.mem_singleton.1 hlast]

end Touchless.Retention
