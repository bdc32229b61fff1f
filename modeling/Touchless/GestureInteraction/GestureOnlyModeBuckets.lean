import Touchless.GestureInteraction.GestureOnlyModeContract
import Mathlib.Tactic.Linarith
import Mathlib.Tactic.FieldSimp

/-!
# The buckets of gesture-only mode

Every frame that `GestureOnlyMode` processes adds its category to a timed history, and no state
handler touches the history (`timedCountHistory_handlers`). So the buckets of a run can be read off
the log of its frames (`run_buckets`): they are the shares of the categories among the frames of the
last 100 ms, where there have been frames before them.
-/

namespace Touchless

namespace GestureOnlyMode

open State

variable {leap : Leap}

/-- The input of a category that holds most of the frames. -/
def Category.input : Category → Input
  | two => .countTwo
  | threePlus => .countThreePlus
  | other => .countOther
  | palm => .countPalm

/-- The category of a frame does not depend on the frames before it. -/
def categoryOfFrame (frame : leap.Frame) : Category :=
  categoryOf ((FrameState.construct leap).processFrame (overrides leap) frame leap.invalidFrame)

/-- What a call adds to the history. -/
def countOperation : ModeCall leap → Option (TimedHistory.Operation Category)
  | .processFrame frame _ => some (.addFrame (leap.timestamp frame) (categoryOfFrame frame))
  | .stopActiveEvents => none

/-- The frames of a sequence of calls, most recent first. -/
def countLog (calls : List (ModeCall leap)) : List (ℤ × Category) :=
  TimedHistory.completeLog (calls.filterMap countOperation)

section

variable {env : Environment leap} {v : FrameState leap} {m n : GestureOnlyMode leap} {fuel : ℕ}
  {o o' : Object leap}

/-! ### The history of the categories -/

/-- Helpers of the base class leave the history alone. -/
@[simp]
theorem timedCountHistory_base (f : Manager leap → Manager leap) :
    (m.base f).timedCountHistory = m.timedCountHistory := rfl

theorem timedCountHistory_stateGestureRecognition (input : StateMachineInput Input) :
    (stateGestureRecognition v input m).owner.timedCountHistory = m.timedCountHistory := by
  simp only [stateGestureRecognition]
  split
  · rfl
  · split <;> rfl

theorem timedCountHistory_moveCursor :
    (moveCursor env v m).timedCountHistory = m.timedCountHistory := by
  simp only [moveCursor]
  split_ifs <;> rfl

theorem timedCountHistory_swipeFrame :
    (swipeFrame v m).owner.timedCountHistory = m.timedCountHistory := by
  rw [swipeFrame]
  split <;> rfl

theorem timedCountHistory_stateSwipe (gestureType : GestureType) (i : StateMachineInput Input) :
    (stateSwipe v gestureType i m).owner.timedCountHistory = m.timedCountHistory := by
  cases i with
  | enter => exact timedCountHistory_swipeFrame
  | exit => rfl
  | user i =>
    cases i with
    | processFrame => exact timedCountHistory_swipeFrame
    | _ => rfl

/-- **No state handler touches the history.** -/
theorem timedCountHistory_handlers (s : State) (i : StateMachineInput Input)
    (m : GestureOnlyMode leap) :
    (handlers env v s i m).owner.timedCountHistory = m.timedCountHistory := by
  cases s with
  | gestureRecognition => exact timedCountHistory_stateGestureRecognition i
  | cooldown =>
    have hframe : ∀ m : GestureOnlyMode leap,
        (cooldownFrame v m).owner.timedCountHistory = m.timedCountHistory := fun m ↦ by
      rw [cooldownFrame]
      split_ifs <;> rfl
    cases i with
    | enter => exact hframe _
    | exit => rfl
    | user i =>
      cases i with
      | processFrame => exact hframe m
      | _ => rfl
  | twoFingersHovering =>
    cases i with
    | user i =>
      cases i with
      | processFrame =>
        simp only [handlers, stateTwoFingersHovering, twoFingersHoveringFrame]
        split_ifs <;> rfl
      | _ => rfl
    | _ => rfl
  | twoFingersScrolling =>
    cases i with
    | enter => exact timedCountHistory_moveCursor
    | exit => rfl
    | user i =>
      cases i with
      | processFrame =>
        simp only [handlers, stateTwoFingersScrolling, scrollingFrame]
        split_ifs <;> rfl
      | _ => rfl
  | threePlusFingersSwipeVertical => exact timedCountHistory_stateSwipe _ i
  | threePlusFingersSwipeHorizontal => exact timedCountHistory_stateSwipe _ i
  | palmSwipe =>
    cases i with
    | exit =>
      simp only [handlers, statePalmSwipe, applyPalmSwipe]
      split <;> rfl
    | enter => rfl
    | user i => cases i <;> rfl

/-- The contract that the history stays as it is. -/
theorem historyContract (env : Environment leap) (history : TimedHistory Category) :
    ModeObject.Contract (handlers env) (fun _ _ m ↦ m.timedCountHistory = history)
      (fun _ m ↦ m.timedCountHistory = history) fun _ ↦ True := fun _ ↦
  { neverTransitionsOnExit := neverTransitionsOnExit
    input := fun s _ m h ↦ (timedCountHistory_handlers s _ m).trans h
    exit := fun s _ m h ↦ (timedCountHistory_handlers s _ m).trans h
    enter := fun t m h ↦ (timedCountHistory_handlers t _ m).trans h
    final := fun _ _ _ ↦ trivial }

/-- The history is `history`, and the machine is between two calls. -/
def HistoryIs (history : TimedHistory Category) (o : Object leap) : Prop :=
  o.machine.Kept (fun _ _ m ↦ m.timedCountHistory = history)
    (fun _ m ↦ m.timedCountHistory = history)
    gestureRecognition

theorem HistoryIs.eq {history : TimedHistory Category} (h : HistoryIs history o) :
    o.machine.owner.timedCountHistory = history := by
  cases hcur : o.machine.currentState with
  | none => exact h.start hcur
  | some s => exact (h.inside s hcur).2

theorem timedCountHistory_addCategory (v : FrameState leap) (m : GestureOnlyMode leap)
    (frame sinceFrame : leap.Frame) :
    (addCategory (v.processFrame (overrides leap) frame sinceFrame) m).timedCountHistory =
      m.timedCountHistory.addFrame (leap.timestamp frame) (categoryOfFrame frame) := rfl

/-- **A frame** adds its category, before it counts. -/
theorem HistoryIs.processFrame {history : TimedHistory Category} {frame sinceFrame : leap.Frame}
    (h : HistoryIs history o) (hrun : processFrame env fuel o frame sinceFrame = some o') :
    HistoryIs (history.addFrame (leap.timestamp frame) (categoryOfFrame frame)) o' := by
  obtain ⟨o₀, o₁, o₂, o₃, rfl, hinit, hcount, htouch, hframe⟩ := processFrame_some hrun
  have hcounted : HistoryIs (history.addFrame (leap.timestamp frame) (categoryOfFrame frame))
      (ModeObject.mapOwner ⟨o.frame.processFrame (overrides leap) frame sinceFrame, o.machine⟩
        (addCategory (o.frame.processFrame (overrides leap) frame sinceFrame))) :=
    ModeObject.kept_mapOwner h
      (fun _ h ↦ (timedCountHistory_addCategory _ _ frame sinceFrame).trans (h ▸ rfl))
      fun _ _ h ↦ (timedCountHistory_addCategory _ _ frame sinceFrame).trans (h ▸ rfl)
  have hcontract := historyContract env
    (history.addFrame (leap.timestamp frame) (categoryOfFrame frame))
  have h₁ := hcontract.ensureInitialized hcounted hinit
  have h₂ := hcontract.runInput h₁ hcount
  have htested : ∀ m : GestureOnlyMode leap,
      (refreshForTouch o₂.frame m).timedCountHistory = m.timedCountHistory := fun m ↦ by
    rw [refreshForTouch]
    split_ifs <;> rfl
  have h₃ := hcontract.runInput (h₂.mapOwner fun _ m h ↦ (htested m).trans h) htouch
  have hkept : HistoryIs (history.addFrame (leap.timestamp frame) (categoryOfFrame frame)) o₃ :=
    h₃.kept
  exact (hcontract.runCurrentState hkept hframe).kept

/-- **Every run** leaves the history of its frames. -/
theorem historyIs_run {memory : GestureOnlyMode leap} {calls : List (ModeCall leap)}
    (hrun : (methods env fuel).run (Object.construct memory) calls = some o) :
    HistoryIs ((TimedHistory.construct (500 * MILLISECONDS)).run (calls.filterMap countOperation))
      o := by
  have hstart : HistoryIs (TimedHistory.construct (500 * MILLISECONDS)) (Object.construct memory) :=
    StateMachine.Kept.construct rfl
  refine PartialRun.foldlM_invariant (P := fun done o ↦ HistoryIs
    ((TimedHistory.construct (500 * MILLISECONDS)).run (done.filterMap countOperation)) o)
    hstart (fun done o call o' _ h hcall ↦ ?_) hrun
  rw [List.filterMap_append]
  cases call with
  | processFrame frame sinceFrame =>
    show HistoryIs (TimedHistory.run _ (done.filterMap countOperation ++
      [.addFrame (leap.timestamp frame) (categoryOfFrame frame)])) o'
    rw [TimedHistory.run_concat]
    exact h.processFrame hcall
  | stopActiveEvents =>
    show HistoryIs (TimedHistory.run _ (done.filterMap countOperation ++ [])) o'
    rw [List.append_nil]
    exact ((historyContract env _).runCurrentState h hcall).kept

/-! ### The shares -/

/-- Every entry has one of the four categories. -/
theorem countP_categories (log : List (ℤ × Category)) :
    log.countP (fun e ↦ e.2 = .two) + log.countP (fun e ↦ e.2 = .threePlus) +
      log.countP (fun e ↦ e.2 = .other) + log.countP (fun e ↦ e.2 = .palm) = log.length := by
  induction log with
  | nil => rfl
  | cons e log ih =>
    obtain ⟨time, category⟩ := e
    cases category <;> simp <;> omega

/-- The frames of the last 100 ms. -/
def youngFrames (log : List (ℤ × Category)) : List (ℤ × Category) :=
  log.filter fun e ↦
    decide (TimedHistory.mostRecentTime log - e.1 < gestureRecognitionDuration)

/-- Has there been a frame before them? -/
def EnoughHistory (log : List (ℤ × Category)) : Prop :=
  ∃ e ∈ log, gestureRecognitionDuration ≤ TimedHistory.mostRecentTime log - e.1

/-- The last frame is one of the last 100 ms. -/
theorem length_youngFrames_pos {log : List (ℤ × Category)} (h : EnoughHistory log) :
    0 < (youngFrames log).length := by
  obtain ⟨e, he, -⟩ := h
  obtain ⟨newest, rest, rfl⟩ := List.exists_cons_of_ne_nil (List.ne_nil_of_mem he)
  refine List.length_pos_of_mem (a := newest) (List.mem_filter.2 ⟨List.mem_cons_self, ?_⟩)
  simp [TimedHistory.mostRecentTime, gestureRecognitionDuration, MILLISECONDS]

variable {log : List (ℤ × Category)}

/-- **With enough history**, a bucket counts the frames of the last 100 ms. -/
theorem bucket_eq (h : m.timedCountHistory.Represents log) (hordered : TimedHistory.Ordered log)
    (hduration : gestureRecognitionDuration ≤ m.timedCountHistory.historyDuration)
    (henough : EnoughHistory log) (category : Category) :
    m.bucket category = lit ((youngFrames log).countP fun e ↦ e.2 = category : ℕ) /
      lit ((youngFrames log).length : ℕ) := by
  obtain ⟨e, he, hold⟩ := henough
  have hsome : (log.find? fun e ↦
      decide (gestureRecognitionDuration ≤ TimedHistory.mostRecentTime log - e.1)).isSome = true :=
    List.find?_isSome.2 ⟨e, he, by simpa using hold⟩
  obtain ⟨found, hfound⟩ := Option.isSome_iff_exists.1 hsome
  rw [bucket, h.getFrameHavingAgeAtLeast hduration, hfound,
    h.framesYoungerThan hordered hduration]
  rfl

/-- **Without**, everything is in one of them. -/
theorem bucket_of_not_enough (h : m.timedCountHistory.Represents log)
    (hduration : gestureRecognitionDuration ≤ m.timedCountHistory.historyDuration)
    (henough : ¬EnoughHistory log) (category : Category) :
    m.bucket category = if category = .other then lit 1 else lit 0 := by
  have hnone : (log.find? fun e ↦
      decide (gestureRecognitionDuration ≤ TimedHistory.mostRecentTime log - e.1)) = none :=
    List.find?_eq_none.2 fun e he hold ↦ henough ⟨e, he, by simpa using hold⟩
  rw [bucket, h.getFrameHavingAgeAtLeast hduration, hnone]

end

/-! ### Exact arithmetic -/

section Exact

variable {K : Type} [Field K] [LinearOrder K] [IsStrictOrderedRing K]
  {exact : ExactArithmetic leap.Scalar K} {m : GestureOnlyMode leap} {log : List (ℤ × Category)}

omit [IsStrictOrderedRing K] in
/-- The share of a category among the frames of the last 100 ms. -/
theorem value_bucket (h : m.timedCountHistory.Represents log) (hordered : TimedHistory.Ordered log)
    (hduration : gestureRecognitionDuration ≤ m.timedCountHistory.historyDuration)
    (henough : EnoughHistory log) (category : Category) :
    exact.value (m.bucket category) =
      ((youngFrames log).countP fun e ↦ e.2 = category : ℕ) / ((youngFrames log).length : ℕ) := by
  rw [bucket_eq h hordered hduration henough, exact.value_div, exact.value_lit, exact.value_lit,
    Rat.cast_natCast, Rat.cast_natCast]

omit [IsStrictOrderedRing K] in
theorem value_bucket_of_not_enough (h : m.timedCountHistory.Represents log)
    (hduration : gestureRecognitionDuration ≤ m.timedCountHistory.historyDuration)
    (henough : ¬EnoughHistory log) (category : Category) :
    exact.value (m.bucket category) = if category = .other then 1 else 0 := by
  rw [bucket_of_not_enough h hduration henough]
  split_ifs
  · rw [exact.value_lit, Rat.cast_one]
  · rw [exact.value_lit, Rat.cast_zero]

/-- Buckets that are shares of a whole. -/
structure Shares (exact : ExactArithmetic leap.Scalar K) (m : GestureOnlyMode leap) : Prop where
  nonneg : ∀ category, 0 ≤ exact.value (m.bucket category)
  sum : exact.value (m.bucket .two) + exact.value (m.bucket .threePlus) +
    exact.value (m.bucket .other) + exact.value (m.bucket .palm) = 1

/-- **The buckets** are such, -/
theorem shares_of_represents (h : m.timedCountHistory.Represents log)
    (hordered : TimedHistory.Ordered log)
    (hduration : gestureRecognitionDuration ≤ m.timedCountHistory.historyDuration) :
    Shares exact m := by
  by_cases henough : EnoughHistory log
  · have hpos : (0 : K) < ((youngFrames log).length : ℕ) :=
      Nat.cast_pos.2 (length_youngFrames_pos henough)
    refine ⟨fun category ↦ ?_, ?_⟩
    · rw [value_bucket h hordered hduration henough]
      positivity
    · simp only [value_bucket h hordered hduration henough]
      rw [← add_div, ← add_div, ← add_div, ← Nat.cast_add, ← Nat.cast_add, ← Nat.cast_add,
        countP_categories, div_self hpos.ne']
  · refine ⟨fun category ↦ ?_, ?_⟩
    · rw [value_bucket_of_not_enough h hduration henough]
      split_ifs
      · exact zero_le_one
      · exact le_rfl
    · simp [value_bucket_of_not_enough h hduration henough]

/-- two of them are at most the whole, -/
theorem Shares.add_le_one (h : Shares exact m) {c c' : Category} (hne : c ≠ c') :
    exact.value (m.bucket c) + exact.value (m.bucket c') ≤ 1 := by
  have htwo := h.nonneg .two
  have hthreePlus := h.nonneg .threePlus
  have hother := h.nonneg .other
  have hpalm := h.nonneg .palm
  have hsum := h.sum
  cases c <;> cases c' <;> first
    | exact absurd rfl hne
    | linarith

/-- so **at most one** reaches the threshold, -/
theorem Shares.threshold_unique (h : Shares exact m) {c c' : Category}
    (hc : Arithmetic.le bucketThreshold (m.bucket c) = true)
    (hc' : Arithmetic.le bucketThreshold (m.bucket c') = true) : c = c' := by
  by_contra hne
  have hsum := h.add_le_one hne
  have hthreshold : exact.value bucketThreshold = 3 / 4 := by
    rw [bucketThreshold, exact.value_lit]
    norm_num
  rw [exact.le_iff, hthreshold] at hc hc'
  linarith

/-- and it gives the input, wherever the code asks for it. -/
theorem Shares.countInput_eq (h : Shares exact m) {c : Category}
    (hc : Arithmetic.le bucketThreshold (m.bucket c) = true) : countInput m = some c.input := by
  have hother : ∀ c', c' ≠ c → ¬Arithmetic.le bucketThreshold (m.bucket c') = true :=
    fun c' hne hc' ↦ hne (h.threshold_unique hc' hc)
  cases c with
  | two => rw [countInput, if_pos hc]; rfl
  | threePlus => rw [countInput, if_neg (hother .two (by decide)), if_pos hc]; rfl
  | other =>
    rw [countInput, if_neg (hother .two (by decide)), if_neg (hother .threePlus (by decide)),
      if_pos hc]
    rfl
  | palm =>
    rw [countInput, if_neg (hother .two (by decide)), if_neg (hother .threePlus (by decide)),
      if_neg (hother .other (by decide)), if_pos hc]
    rfl

end Exact

/-! ### Runs -/

/-- **After every run** whose frames come in nondecreasing order, the buckets are nonnegative and
their sum is 1; with enough history they are the shares of the categories among the frames of the
last 100 ms, which there are; and at most one reaches the threshold, so that the order in which the
code asks for them does not matter. -/
theorem run_buckets {K : Type} [Field K] [LinearOrder K] [IsStrictOrderedRing K]
    (exact : ExactArithmetic leap.Scalar K) {env : Environment leap} {fuel : ℕ}
    {memory : GestureOnlyMode leap} {calls : List (ModeCall leap)} {o : Object leap}
    (hordered : TimedHistory.Ordered (countLog calls))
    (hrun : (methods env fuel).run (Object.construct memory) calls = some o) :
    let m := o.machine.owner
    let young := youngFrames (countLog calls)
    ((∀ category, 0 ≤ exact.value (m.bucket category)) ∧
      exact.value (m.bucket .two) + exact.value (m.bucket .threePlus) +
        exact.value (m.bucket .other) + exact.value (m.bucket .palm) = 1) ∧
    (EnoughHistory (countLog calls) → 0 < young.length ∧ ∀ category,
      exact.value (m.bucket category) =
        (young.countP fun e ↦ e.2 = category : ℕ) / (young.length : ℕ)) ∧
    (∀ c c', Arithmetic.le bucketThreshold (m.bucket c) = true →
      Arithmetic.le bucketThreshold (m.bucket c') = true → c = c') ∧
    (∀ c, Arithmetic.le bucketThreshold (m.bucket c) = true → countInput m = some c.input) := by
  intro m young
  have hhistory : m.timedCountHistory = (TimedHistory.construct (500 * MILLISECONDS)).run
      (calls.filterMap countOperation) := (historyIs_run hrun).eq
  have hrepresents : m.timedCountHistory.Represents (countLog calls) :=
    hhistory ▸ TimedHistory.represents_run _ hordered
  have hduration : gestureRecognitionDuration ≤ m.timedCountHistory.historyDuration := by
    rw [hhistory, TimedHistory.historyDuration_run]
    decide
  have hshares : Shares exact m := shares_of_represents hrepresents hordered hduration
  refine ⟨⟨hshares.nonneg, hshares.sum⟩, fun henough ↦ ⟨length_youngFrames_pos henough, ?_⟩,
    fun c c' ↦ hshares.threshold_unique, fun c ↦ hshares.countInput_eq⟩
  exact value_bucket hrepresents hordered hduration henough

/-- One finger twice, and then three: each makes half of the last 100 ms. -/
theorem run_buckets_threeFingers :
    ∃ o, (methods (.plain fingerLeap) 2).run (Object.construct (.blank fingerLeap))
        [.processFrame (fingerFrame 0 1) (-1, 0), .processFrame (fingerFrame 1 1) (fingerFrame 0 1),
          .processFrame (fingerFrame 2 3) (fingerFrame 1 1)] = some o ∧
      fingerLeapExact.value (o.machine.owner.bucket .two) = 1 / 2 := by
  obtain ⟨o, hrun⟩ : ∃ o, (methods (.plain fingerLeap) 2).run (Object.construct (.blank fingerLeap))
      [.processFrame (fingerFrame 0 1) (-1, 0), .processFrame (fingerFrame 1 1) (fingerFrame 0 1),
        .processFrame (fingerFrame 2 3) (fingerFrame 1 1)] = some o :=
    Option.isSome_iff_exists.1 (by decide +kernel)
  have hshares := (run_buckets fingerLeapExact (by decide +kernel) hrun).2.1
    ⟨(0, .two), by decide +kernel, by decide +kernel⟩
  exact ⟨o, hrun, (hshares.2 .two).trans (by decide +kernel)⟩

end GestureOnlyMode

end Touchless
