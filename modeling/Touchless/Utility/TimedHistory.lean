import Touchless.Foundations.Retention
import Mathlib.Data.Int.Notation

/-!
# A buffer of timed frames

`TimedHistory` of `Utility/TimedHistory.h`: a deque with the most recent frame in front, from which
frames are dropped at the back as long as the rest still spans the history duration.

The complete log of the frames that were added is what the deque stands for. Of an ordered log it
holds the window of the young frames and the first old one (`represents_run`), so whatever does not
ask for more than the history duration is answered as from the log (`run_refines`).
-/

namespace Touchless

/-- The deque, most recent frame first, with its history duration. Times are in microseconds. -/
structure TimedHistory (α : Type) where
  historyDuration : ℤ
  frames : List (ℤ × α)

namespace TimedHistory

variable {α : Type}

/-- The constructor. -/
def construct (historyDuration : ℤ) : TimedHistory α := ⟨historyDuration, []⟩

/-- The loop of `purgeExcessHistory` over the frames, oldest first: the oldest frame goes as long as
the one after it is old enough to span the duration. -/
def dropOldest (historyDuration mostRecentTime : ℤ) : List (ℤ × α) → List (ℤ × α)
  | oldest :: next :: frames =>
    if mostRecentTime - next.1 ≥ historyDuration then
      dropOldest historyDuration mostRecentTime (next :: frames)
    else oldest :: next :: frames
  | frames => frames

/-- `purgeExcessHistory`. -/
def purgeExcessHistory (history : TimedHistory α) : TimedHistory α :=
  match history.frames with
  | [] => history
  | newest :: _ =>
    { history with
      frames := (dropOldest history.historyDuration newest.1 history.frames.reverse).reverse }

/-- `addFrame`; the assertion that times do not decrease is compiled out. -/
def addFrame (history : TimedHistory α) (time : ℤ) (frame : α) : TimedHistory α :=
  purgeExcessHistory { history with frames := (time, frame) :: history.frames }

/-- `getFrameHavingAgeAtLeast`; `none` is `end()`. -/
def getFrameHavingAgeAtLeast (history : TimedHistory α) (age : ℤ) : Option (ℤ × α) :=
  match history.frames with
  | [] => none
  | newest :: _ => history.frames.find? fun entry ↦ !decide (newest.1 - entry.1 < age)

/-- The frames from `begin()` to the one `getFrameHavingAgeAtLeast` finds. -/
def framesYoungerThan (history : TimedHistory α) (age : ℤ) : List (ℤ × α) :=
  match history.frames with
  | [] => []
  | newest :: _ => history.frames.takeWhile fun entry ↦ decide (newest.1 - entry.1 < age)

/-- `hasSufficientHistory`. -/
def hasSufficientHistory (history : TimedHistory α) : Bool :=
  match history.frames.head?, history.frames.getLast? with
  | some newest, some oldest => decide (newest.1 - oldest.1 ≥ history.historyDuration)
  | _, _ => false

/-- `clear`. -/
def clear (history : TimedHistory α) : TimedHistory α := { history with frames := [] }

/-- The operations that change the deque. -/
inductive Operation (α : Type) where
  | addFrame (time : ℤ) (frame : α)
  | clear

/-- One operation. -/
def exec (history : TimedHistory α) : Operation α → TimedHistory α
  | .addFrame time frame => history.addFrame time frame
  | .clear => history.clear

/-- A sequence of operations. -/
def run (history : TimedHistory α) (operations : List (Operation α)) : TimedHistory α :=
  operations.foldl exec history

/-! ### The complete log -/

/-- The log after an operation. -/
def Operation.logAfter (log : List (ℤ × α)) : Operation α → List (ℤ × α)
  | addFrame time frame => (time, frame) :: log
  | clear => []

/-- All the frames added since the last `clear`, most recent first. -/
def completeLog (operations : List (Operation α)) : List (ℤ × α) :=
  operations.foldl Operation.logAfter []

/-- Frames are added in nondecreasing time order. -/
def Ordered (log : List (ℤ × α)) : Prop := log.Pairwise fun newer older ↦ older.1 ≤ newer.1

instance (log : List (ℤ × α)) : Decidable (Ordered log) :=
  inferInstanceAs (Decidable (log.Pairwise fun newer older ↦ older.1 ≤ newer.1))

/-- Is a frame younger than an age? -/
def younger (mostRecentTime age : ℤ) (entry : ℤ × α) : Bool :=
  decide (mostRecentTime - entry.1 < age)

variable {log : List (ℤ × α)} {history : TimedHistory α} {historyDuration time age : ℤ} {frame : α}

theorem younger_eq_false {entry : ℤ × α} :
    younger time age entry = false ↔ age ≤ time - entry.1 := by
  simp [younger]

theorem Ordered.graded (h : Ordered log) (time age : ℤ) :
    Retention.Graded (younger time age) log := by
  refine List.Pairwise.imp (fun {newer older} hle hyounger ↦ ?_) h
  rw [younger, decide_eq_true_eq] at hyounger ⊢
  omega

/-- **The purge** keeps the window. -/
theorem dropOldest_reverse (h : Ordered log) :
    (dropOldest historyDuration time log.reverse).reverse =
      Retention.keep (younger time historyDuration) log := by
  induction log using List.reverseRecOn with
  | nil => rfl
  | append_singleton log oldest ih =>
    have hbefore : Ordered log := (List.pairwise_append.1 h).1
    rcases List.eq_nil_or_concat' log with rfl | ⟨newer, next, rfl⟩
    · simp [dropOldest, Retention.keep]
    · have hnext : ∀ e ∈ newer ++ [next], next.1 ≤ e.1 := fun e he ↦ by
        rcases List.mem_append.1 he with hmem | hmem
        · exact (List.pairwise_append.1 hbefore).2.2 e hmem next (by simp)
        · exact Int.le_of_eq (congrArg Prod.fst (List.mem_singleton.1 hmem).symm)
      rw [List.reverse_append, List.reverse_singleton, List.singleton_append, List.reverse_concat,
        dropOldest]
      split_ifs with hspans
      · -- the next frame spans the window alone, so the oldest one goes
        rw [← List.reverse_concat, ih hbefore]
        have hold : ∃ e ∈ newer ++ [next], younger time historyDuration e = false :=
          ⟨next, by simp, younger_eq_false.2 hspans⟩
        exact (Retention.keep_append_of_old hold [oldest]).symm
      · -- all frames but the oldest are young, and it stays as the one behind them
        have hyoung : ∀ e ∈ newer ++ [next], younger time historyDuration e = true :=
          fun e he ↦ by
            have hle := hnext e he
            rw [younger, decide_eq_true_eq]
            omega
        rw [Retention.keep_concat hyoung]
        simp

/-- The time of the most recent frame, or 0 as in `mostRecentFrameTime`. -/
def mostRecentTime (log : List (ℤ × α)) : ℤ := log.head?.elim 0 Prod.fst

/-- The deque is the window of a log. -/
def Represents (history : TimedHistory α) (log : List (ℤ × α)) : Prop :=
  history.frames = Retention.keep (younger (mostRecentTime log) history.historyDuration) log

/-- **A new frame** moves the window on. -/
theorem Represents.addFrame (h : history.Represents log)
    (hordered : Ordered ((time, frame) :: log)) :
    (history.addFrame time frame).Represents ((time, frame) :: log) := by
  obtain ⟨hnewest, hlog⟩ := List.pairwise_cons.1 hordered
  have hpast : ∀ e ∈ log, younger time history.historyDuration e = true →
      younger (mostRecentTime log) history.historyDuration e = true := fun e he hyounger ↦ by
    obtain ⟨newest, rest, rfl⟩ := List.exists_cons_of_ne_nil (List.ne_nil_of_mem he)
    have hle : newest.1 ≤ time := hnewest newest List.mem_cons_self
    rw [younger, decide_eq_true_eq] at hyounger ⊢
    show newest.1 - e.1 < history.historyDuration
    omega
  have hshown : Ordered ((time, frame) :: history.frames) := by
    have hkept : history.frames <+: log := h ▸ Retention.prefix_keep _ log
    exact List.Pairwise.sublist (List.cons_sublist_cons.2 hkept.sublist) hordered
  show (dropOldest history.historyDuration time ((time, frame) :: history.frames).reverse).reverse =
    Retention.keep (younger time history.historyDuration) ((time, frame) :: log)
  rw [dropOldest_reverse hshown, h, Retention.keep_cons_keep hpast]

theorem run_concat (operations : List (Operation α)) (operation : Operation α) :
    history.run (operations ++ [operation]) = (history.run operations).exec operation :=
  List.foldl_concat ..

theorem completeLog_concat (operations : List (Operation α)) (operation : Operation α) :
    completeLog (operations ++ [operation]) = operation.logAfter (completeLog operations) :=
  List.foldl_concat ..

/-- Operations do not change the history duration. -/
theorem historyDuration_run (history : TimedHistory α) (operations : List (Operation α)) :
    (history.run operations).historyDuration = history.historyDuration := by
  induction operations using List.reverseRecOn with
  | nil => rfl
  | append_singleton operations operation ih =>
    rw [run_concat, ← ih]
    cases operation with
    | addFrame time frame => rfl
    | clear => rfl

/-- **Every run** leaves the window of its complete log. -/
theorem represents_run (historyDuration : ℤ) {operations : List (Operation α)}
    (hordered : Ordered (completeLog operations)) :
    ((construct historyDuration).run operations).Represents (completeLog operations) := by
  induction operations using List.reverseRecOn with
  | nil => rfl
  | append_singleton operations operation ih =>
    rw [completeLog_concat] at hordered ⊢
    rw [run_concat]
    cases operation with
    | addFrame time frame => exact (ih (List.pairwise_cons.1 hordered).2).addFrame hordered
    | clear => rfl

/-! ### What is read off the window -/

/-- The window of an ordered log consists of the young frames and of the newest old one. -/
theorem Represents.frames_eq (h : history.Represents log) (hordered : Ordered log) :
    history.frames =
      log.filter (younger (mostRecentTime log) history.historyDuration) ++
        (log.find? fun e ↦ !younger (mostRecentTime log) history.historyDuration e).toList :=
  h.trans (hordered.graded _ _).keep_eq

/-- The newest frame is always there. -/
theorem Represents.head? (h : history.Represents log) : history.frames.head? = log.head? :=
  h ▸ Retention.head?_keep

/-- **A search** up to the history duration finds what it finds in the log. -/
theorem Represents.getFrameHavingAgeAtLeast (h : history.Represents log)
    (hage : age ≤ history.historyDuration) :
    history.getFrameHavingAgeAtLeast age =
      log.find? fun e ↦ decide (age ≤ mostRecentTime log - e.1) := by
  have hfound : history.frames.find? (fun e ↦ decide (age ≤ mostRecentTime log - e.1)) =
      log.find? fun e ↦ decide (age ≤ mostRecentTime log - e.1) := by
    rw [h]
    -- what is too old for the window is old enough for the search
    refine Retention.find?_keep fun e _ hyoung ↦ ?_
    rw [younger, decide_eq_true_eq]
    rw [decide_eq_false_iff_not] at hyoung
    omega
  rw [← hfound]
  cases log with
  | nil =>
    have hempty : history.frames = [] := h
    simp [TimedHistory.getFrameHavingAgeAtLeast, hempty]
  | cons newest log =>
    obtain ⟨rest, hframes⟩ : ∃ rest, history.frames = newest :: rest :=
      List.head?_eq_some_iff.1 h.head?
    rw [TimedHistory.getFrameHavingAgeAtLeast, hframes]
    show (newest :: rest).find? (fun e ↦ !decide (newest.1 - e.1 < age)) = _
    congr 1
    funext e
    show (!decide (newest.1 - e.1 < age)) = decide (age ≤ newest.1 - e.1)
    rw [← decide_not]
    exact decide_eq_decide.2 Int.not_lt

/-- **The frames before the one that a search finds** are those of the log. -/
theorem Represents.framesYoungerThan (h : history.Represents log) (hordered : Ordered log)
    (hage : age ≤ history.historyDuration) :
    history.framesYoungerThan age = log.filter (younger (mostRecentTime log) age) := by
  have htaken : history.frames.takeWhile (younger (mostRecentTime log) age) =
      log.filter (younger (mostRecentTime log) age) := by
    rw [← (hordered.graded _ age).takeWhile_eq_filter, h]
    refine Retention.takeWhile_keep fun e _ hyoung ↦ ?_
    rw [younger, decide_eq_true_eq] at hyoung ⊢
    omega
  rw [← htaken]
  cases log with
  | nil =>
    have hempty : history.frames = [] := h
    simp [TimedHistory.framesYoungerThan, hempty]
  | cons newest log =>
    obtain ⟨rest, hframes⟩ : ∃ rest, history.frames = newest :: rest :=
      List.head?_eq_some_iff.1 h.head?
    rw [TimedHistory.framesYoungerThan, hframes]
    rfl

/-- **There is sufficient history** if the log spans the duration. -/
theorem Represents.hasSufficientHistory_iff (h : history.Represents log) (hordered : Ordered log) :
    history.hasSufficientHistory = true ↔
      ∃ oldest ∈ log.getLast?, history.historyDuration ≤ mostRecentTime log - oldest.1 := by
  simp only [← younger_eq_false]
  rw [(hordered.graded _ _).getLast?_old_iff, ← Retention.getLast?_keep_old_iff, ← h]
  cases log with
  | nil =>
    have hempty : history.frames = [] := h
    simp [hasSufficientHistory, hempty]
  | cons newest log =>
    have hhead : history.frames.head? = some newest := h.head?
    cases hlast : history.frames.getLast? with
    | none => simp [hasSufficientHistory, hhead, hlast]
    | some oldest =>
      have hspans : younger newest.1 history.historyDuration oldest = false ↔
          history.historyDuration ≤ newest.1 - oldest.1 := younger_eq_false
      simp [hasSufficientHistory, hhead, hlast, mostRecentTime, hspans]

/-- **The deque refines the complete log**: it is the newest-first prefix of the frames younger than
the history duration and the newest of the others; a search up to the history duration finds the
same as in the log; and there is sufficient history exactly if the log spans the duration. -/
theorem run_refines {historyDuration : ℤ} {operations : List (Operation α)}
    (hordered : Ordered (completeLog operations)) :
    let history := (construct historyDuration).run operations
    let log := completeLog operations
    (history.frames <+: log ∧
      history.frames = log.filter (fun e ↦ decide (mostRecentTime log - e.1 < historyDuration)) ++
        (log.find? fun e ↦ decide (historyDuration ≤ mostRecentTime log - e.1)).toList) ∧
    (∀ age ≤ historyDuration, history.getFrameHavingAgeAtLeast age =
      log.find? fun e ↦ decide (age ≤ mostRecentTime log - e.1)) ∧
    (history.hasSufficientHistory = true ↔
      ∃ oldest ∈ log.getLast?, historyDuration ≤ mostRecentTime log - oldest.1) := by
  intro history log
  have hduration : history.historyDuration = historyDuration := historyDuration_run _ operations
  have hrepresents : history.Represents log := represents_run historyDuration hordered
  refine ⟨⟨?_, ?_⟩, fun age hage ↦ ?_, ?_⟩
  · exact hrepresents ▸ Retention.prefix_keep _ log
  · rw [hrepresents.frames_eq hordered, hduration]
    congr 3
    funext e
    rw [younger, ← decide_not]
    exact decide_eq_decide.2 Int.not_lt
  · exact hrepresents.getFrameHavingAgeAtLeast (hduration ▸ hage)
  · rw [hrepresents.hasSufficientHistory_iff hordered, hduration]

/-- Five frames with a tie, of which the oldest two are dropped. -/
theorem run_refines_tie :
    ((construct 10).run [.addFrame 0 'a', .addFrame 4 'b', .addFrame 5 'c', .addFrame 15 'd',
      .addFrame 15 'e']).frames = [(15, 'e'), (15, 'd'), (5, 'c')] :=
  (run_refines (by decide)).1.2.trans (by decide)

end TimedHistory

end Touchless
