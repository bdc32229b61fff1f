import Touchless.GestureInteraction.GestureOnlyMode

/-!
# The relevant pointables of a frame

`identifyRelevantPointables` compares each pointable with the foremost one of its hand. To find the
latter it walks through the pointables with a map from hand ids to pointable ids, and compares a
pointable with the one it looks up in the frame, but under the id of the hand instead of the id that
the map holds. So the map ends up with the last pointable of the hand that is before that other
pointable, or with the first one (`find?_bestPointables`), and that need not be the foremost.

`Relevant` says what is asked for, in terms of the foremost pointable, and `identify_iff` when it is
what is computed. Both modes that identify pointables are covered: gesture-only mode adds a test.
-/

namespace Touchless

namespace FrameState

variable {leap : Leap}

/-- The law of the SDK that the program relies on: a pointable of a frame is found under its id. -/
def FindsPointables (frame : leap.Frame) : Prop :=
  ∀ p ∈ leap.pointables frame, leap.pointable frame (leap.pointableId p) = p

/-- The id of the hand of a pointable. -/
def handIdOf (p : leap.Pointable) : ℤ := leap.handId (leap.handOf p)

/-- The pointables of a frame that have a hand id. -/
def ofHand (frame : leap.Frame) (handId : ℤ) : List leap.Pointable :=
  (leap.pointables frame).filter fun p ↦ handIdOf p = handId

/-! ### What is asked for -/

/-- The foremost of some pointables: the first of those with the least z. -/
def foremost : List leap.Pointable → Option leap.Pointable
  | [] => none
  | first :: rest => some (rest.foldl (fun best p ↦
      if Arithmetic.lt (leap.tipPosition p).z (leap.tipPosition best).z then p else best) first)

/-- **The foremost pointable is foremost**, where comparisons are those of an order. -/
theorem foremost_least {K : Type} [LinearOrder K] {value : leap.Scalar → K}
    (hlt : ∀ x y, Arithmetic.lt x y = true ↔ value x < value y) {pointables : List leap.Pointable}
    {best : leap.Pointable} (hbest : foremost pointables = some best) :
    best ∈ pointables ∧
      ∀ p ∈ pointables, value (leap.tipPosition best).z ≤ value (leap.tipPosition p).z := by
  cases pointables with
  | nil => cases hbest
  | cons first rest =>
    obtain rfl := Option.some.inj hbest
    clear hbest
    induction rest using List.reverseRecOn with
    | nil => simp
    | append_singleton rest p ih =>
      obtain ⟨hmem, hleast⟩ := ih
      simp only [List.foldl_append, List.foldl_cons, List.foldl_nil]
      set best := rest.foldl (fun best p ↦
        if Arithmetic.lt (leap.tipPosition p).z (leap.tipPosition best).z then p else best) first
      rw [← List.cons_append]
      split_ifs with hp
      · -- the new pointable is before the best of the others
        have hless := (hlt _ _).1 hp
        refine ⟨by simp, fun q hq ↦ ?_⟩
        rcases List.mem_append.1 hq with hq | hq
        · exact hless.le.trans (hleast q hq)
        · exact (congrArg (fun q ↦ value (leap.tipPosition q).z) (List.mem_singleton.1 hq)).ge
      · have hless := not_lt.1 (mt (hlt _ _).2 hp)
        refine ⟨List.mem_append_left _ hmem, fun q hq ↦ ?_⟩
        rcases List.mem_append.1 hq with hq | hq
        · exact hleast q hq
        · rw [List.mem_singleton.1 hq]
          exact hless

/-- The linear discriminant of a pointable against another. -/
def discriminant (p best : leap.Pointable) : leap.Scalar :=
  let dz := (leap.tipPosition p).z - (leap.tipPosition best).z
  let dy := (leap.tipPosition p).y - (leap.tipPosition best).y
  lit 160 * (lit 1 - (leap.pointableDirection p).dot (leap.pointableDirection best)) +
    Arithmetic.sqrt (dz * dz + dy * dy)

/-- The discriminant is above 50. -/
def isApart (p best : leap.Pointable) : Bool := Arithmetic.lt (lit 50) (discriminant p best)

/-- A pointable that is in a zone, does not point backwards and passes the test `upright` of the
mode. -/
def isCandidate (upright : leap.Pointable → Bool) (p : leap.Pointable) : Bool :=
  leap.touchZone p ≠ .none && !Arithmetic.lt (lit 0) (leap.pointableDirection p).z && upright p

/-- The candidates of a frame, in its order, that are not apart from the pointable that a function
tells for their hand. -/
def Relevant (upright : leap.Pointable → Bool) (reference : ℤ → Option leap.Pointable)
    (frame : leap.Frame) : List leap.Pointable :=
  (leap.pointables frame).filter fun p ↦
    isCandidate upright p && (reference (handIdOf p)).all fun best ↦ !isApart p best

/-! ### What is computed -/

/-- The last of some pointables that passes a test, or the first one if no other does. -/
def lastPassing (test : leap.Pointable → Bool) : List leap.Pointable → Option leap.Pointable
  | [] => none
  | first :: rest => some ((rest.filter test).getLast?.getD first)

theorem lastPassing_concat (test : leap.Pointable → Bool) (pointables : List leap.Pointable)
    (p : leap.Pointable) :
    lastPassing test (pointables ++ [p]) =
      match lastPassing test pointables with
      | none => some p
      | some best => some (if test p then p else best) := by
  cases pointables with
  | nil => rfl
  | cons first rest => cases htest : test p <;> simp [lastPassing, htest]

/-- The test by which the walk replaces the pointable of a hand: to be before the pointable that has
the id of the hand. -/
def isBeforeLookup (frame : leap.Frame) (handId : ℤ) (p : leap.Pointable) : Bool :=
  Arithmetic.lt (leap.tipPosition p).z (leap.tipPosition (leap.pointable frame handId)).z

/-- The pointable that the walk ends with, for a hand. -/
def reference (frame : leap.Frame) (handId : ℤ) : Option leap.Pointable :=
  lastPassing (isBeforeLookup frame handId) (ofHand frame handId)

/-- One step of the walk. -/
def walkStep (frame : leap.Frame) (best : OrderedMap ℤ ℤ) (p : leap.Pointable) : OrderedMap ℤ ℤ :=
  match best.find? (handIdOf p) with
  | none => best.insert (handIdOf p) (leap.pointableId p)
  | some _ =>
    if isBeforeLookup frame (handIdOf p) p then best.insert (handIdOf p) (leap.pointableId p)
    else best

theorem bestPointables_eq (frame : leap.Frame) :
    bestPointables frame = (leap.pointables frame).foldl (walkStep frame) OrderedMap.empty := rfl

/-- A step replaces the entry of its own hand if the test says so, -/
theorem find?_walkStep_self (frame : leap.Frame) (best : OrderedMap ℤ ℤ) (p : leap.Pointable) :
    (walkStep frame best p).find? (handIdOf p) =
      match best.find? (handIdOf p) with
      | none => some (leap.pointableId p)
      | some id =>
        some (if isBeforeLookup frame (handIdOf p) p then leap.pointableId p else id) := by
  rw [walkStep]
  cases hbest : best.find? (handIdOf p) with
  | none => exact OrderedMap.find?_insert_self _ _ _
  | some id =>
    simp only
    split_ifs
    · exact OrderedMap.find?_insert_self _ _ _
    · exact hbest

/-- and leaves the others alone. -/
theorem find?_walkStep_of_ne (frame : leap.Frame) (best : OrderedMap ℤ ℤ) {p : leap.Pointable}
    {handId : ℤ} (h : handId ≠ handIdOf p) :
    (walkStep frame best p).find? handId = best.find? handId := by
  rw [walkStep]
  split
  · rw [OrderedMap.find?_insert_of_ne _ h]
  · split_ifs
    · rw [OrderedMap.find?_insert_of_ne _ h]
    · rfl

/-- **The map of the walk** has the id of that pointable. -/
theorem find?_bestPointables (frame : leap.Frame) (handId : ℤ) :
    (bestPointables frame).find? handId =
      (reference frame handId).map fun p ↦ leap.pointableId p := by
  rw [bestPointables_eq, reference, ofHand]
  induction leap.pointables frame using List.reverseRecOn with
  | nil => rfl
  | append_singleton pointables p ih =>
    rw [List.foldl_append, List.foldl_cons, List.foldl_nil, List.filter_append]
    by_cases hhand : handIdOf p = handId
    · subst hhand
      rw [find?_walkStep_self, ih, List.filter_cons_of_pos (by simp), List.filter_nil,
        lastPassing_concat]
      cases lastPassing (isBeforeLookup frame (handIdOf p))
          (pointables.filter fun q ↦ handIdOf q = handIdOf p) with
      | none => rfl
      | some best => cases hbefore : isBeforeLookup frame (handIdOf p) p <;> simp
    · rw [find?_walkStep_of_ne frame _ (Ne.symm hhand), ih, List.filter_cons_of_neg (by simpa),
        List.filter_nil, List.append_nil]

theorem reference_mem {frame : leap.Frame} {handId : ℤ} {best : leap.Pointable}
    (h : reference frame handId = some best) : best ∈ leap.pointables frame := by
  have hmem : best ∈ ofHand frame handId := by
    rw [reference] at h
    cases hown : ofHand frame handId with
    | nil => simp [hown, lastPassing] at h
    | cons first rest =>
      rw [hown, lastPassing, Option.some.injEq] at h
      rw [← h]
      cases hlast : (rest.filter (isBeforeLookup frame handId)).getLast? with
      | none => exact List.mem_cons_self
      | some q =>
        exact List.mem_cons_of_mem _ (List.mem_of_mem_filter (List.mem_of_getLast? hlast))
  exact List.mem_of_mem_filter hmem

/-- A hand with a pointable has a reference. -/
theorem reference_ne_none {frame : leap.Frame} {p : leap.Pointable}
    (hp : p ∈ leap.pointables frame) : reference frame (handIdOf p) ≠ none := by
  have hmem : p ∈ ofHand frame (handIdOf p) := List.mem_filter.2 ⟨hp, by simp⟩
  rw [reference]
  cases hown : ofHand frame (handIdOf p) with
  | nil => simp [hown] at hmem
  | cons first rest => simp [lastPassing]

/-- **What the code tests** of a pointable of the frame. -/
theorem isIrrelevant_eq {frame : leap.Frame} (hfinds : FindsPointables frame) {p : leap.Pointable}
    (hp : p ∈ leap.pointables frame) :
    (!isIrrelevant frame p) = (isCandidate (fun _ ↦ true) p &&
      (reference frame (handIdOf p)).all fun best ↦ !isApart p best) := by
  obtain ⟨best, hbest⟩ := Option.ne_none_iff_exists'.1 (reference_ne_none hp)
  have hlookup : leap.pointable frame
      (((bestPointables frame).find? (leap.handId (leap.handOf p))).getD 0) = best := by
    show leap.pointable frame (((bestPointables frame).find? (handIdOf p)).getD 0) = best
    rw [find?_bestPointables, hbest]
    exact hfinds best (reference_mem hbest)
  have hapart : isIrrelevant frame p = (decide (leap.touchZone p = .none) ||
      Arithmetic.lt (lit 0) (leap.pointableDirection p).z || isApart p best) := by
    simp only [isIrrelevant, hlookup]
    rfl
  rw [hapart, hbest, Option.all_some, isCandidate]
  simp [Bool.and_assoc]

/-- **The code's result**, in both modes: the relevant pointables for the references of the walk. -/
theorem identifyRelevantPointables_eq {frame : leap.Frame} (hfinds : FindsPointables frame) :
    identifyRelevantPointables frame = Relevant (fun _ ↦ true) (reference frame) frame :=
  List.filter_congr fun _ hp ↦ isIrrelevant_eq hfinds hp

/-- The test that gesture-only mode adds: not to point up or down. -/
def isLevel (p : leap.Pointable) : Bool :=
  !Arithmetic.lt (lit (3 / 5)) (Arithmetic.abs (leap.pointableDirection p).y)

theorem gestureOnlyMode_identifyRelevantPointables_eq {frame : leap.Frame}
    (hfinds : FindsPointables frame) :
    GestureOnlyMode.identifyRelevantPointables frame =
      Relevant isLevel (reference frame) frame := by
  refine List.filter_congr fun p hp ↦ ?_
  rw [Bool.not_or, isIrrelevant_eq hfinds hp, isCandidate, isCandidate, isLevel]
  cases (reference frame (handIdOf p)).all fun best ↦ !isApart p best <;> simp

/-- Two lists of references give the same relevant pointables exactly when they give the same
verdicts on the candidates. -/
theorem relevant_eq_iff {upright : leap.Pointable → Bool} {first second : ℤ → Option leap.Pointable}
    {frame : leap.Frame} :
    Relevant upright first frame = Relevant upright second frame ↔
      ∀ p ∈ leap.pointables frame, isCandidate upright p = true →
        ((first (handIdOf p)).all fun best ↦ !isApart p best) =
          (second (handIdOf p)).all fun best ↦ !isApart p best := by
  constructor
  · intro heq p hp hcandidate
    have hmem : p ∈ Relevant upright first frame ↔ p ∈ Relevant upright second frame := by rw [heq]
    simp only [Relevant, List.mem_filter, hp, true_and, hcandidate, Bool.true_and] at hmem
    exact Bool.eq_iff_iff.2 hmem
  · intro h
    refine List.filter_congr fun p hp ↦ ?_
    cases hcandidate : isCandidate upright p with
    | false => rfl
    | true => rw [Bool.true_and, Bool.true_and, h p hp hcandidate]

/-! ### When the two agree -/

/-- The foremost pointable of a hand. -/
def foremostOfHand (frame : leap.Frame) (handId : ℤ) : Option leap.Pointable :=
  foremost (ofHand frame handId)

/-- Every candidate is apart from the reference of the walk exactly if it is apart from the foremost
pointable of its hand. -/
def SameVerdicts (upright : leap.Pointable → Bool) (frame : leap.Frame) : Prop :=
  ∀ p ∈ leap.pointables frame, isCandidate upright p = true →
    ((reference frame (handIdOf p)).all fun best ↦ !isApart p best) =
      (foremostOfHand frame (handIdOf p)).all fun best ↦ !isApart p best

instance (upright : leap.Pointable → Bool) (frame : leap.Frame) :
    Decidable (SameVerdicts upright frame) :=
  inferInstanceAs (Decidable (∀ p ∈ _, _ → _))

/-- **The relevant pointables** are those that are not apart from the foremost pointable of their
hand exactly when the reference of the walk gives the same verdicts: in the base class, and in
gesture-only mode with its further test. -/
theorem identify_iff {frame : leap.Frame} (hfinds : FindsPointables frame) :
    (identifyRelevantPointables frame = Relevant (fun _ ↦ true) (foremostOfHand frame) frame ↔
      SameVerdicts (fun _ ↦ true) frame) ∧
    (GestureOnlyMode.identifyRelevantPointables frame =
        Relevant isLevel (foremostOfHand frame) frame ↔ SameVerdicts isLevel frame) := by
  rw [identifyRelevantPointables_eq hfinds, gestureOnlyMode_identifyRelevantPointables_eq hfinds]
  exact ⟨relevant_eq_iff, relevant_eq_iff⟩

/-- Two fingers of a hand, the second behind the first and turned to the side. -/
def spreadFingers : List Finger :=
  [⟨1, 7, -2, ⟨0, 0, -1⟩, .hovering⟩, ⟨2, 7, -1, ⟨-1, 0, 0⟩, .hovering⟩]

/-- The same with both pointing forward: the reference does not matter. -/
def parallelFingers : List Finger :=
  [⟨1, 7, -2, ⟨0, 0, -1⟩, .hovering⟩, ⟨2, 7, -1, ⟨0, 0, -1⟩, .hovering⟩]

theorem identify_iff_parallel :
    identifyRelevantPointables (handFrame 0 parallelFingers) =
        Relevant (fun _ ↦ true) (foremostOfHand (handFrame 0 parallelFingers))
          (handFrame 0 parallelFingers) ∧
      GestureOnlyMode.identifyRelevantPointables (handFrame 0 parallelFingers) =
        Relevant isLevel (foremostOfHand (handFrame 0 parallelFingers))
          (handFrame 0 parallelFingers) := by
  have hfinds : @FindsPointables handLeap (handFrame 0 parallelFingers) := by
    unfold FindsPointables
    decide +kernel
  obtain ⟨hbase, hgesture⟩ := identify_iff hfinds
  exact ⟨hbase.2 (by decide +kernel), hgesture.2 (by decide +kernel)⟩

/-- Of the spread fingers, which are found under their ids, the one in front is dropped and the one
behind it kept. -/
theorem identify_spread :
    @FindsPointables handLeap (handFrame 0 spreadFingers) ∧
      identifyRelevantPointables (handFrame 0 spreadFingers) ≠
        Relevant (fun _ ↦ true) (foremostOfHand (handFrame 0 spreadFingers))
          (handFrame 0 spreadFingers) := by
  refine ⟨?_, by decide +kernel⟩
  unfold FindsPointables
  decide +kernel

end FrameState

end Touchless
