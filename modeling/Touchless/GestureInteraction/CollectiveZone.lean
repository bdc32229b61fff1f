import Touchless.GestureInteraction.BasicMode

/-!
# The collective zone

The zone that `processFrame` computes with
`GestureInteractionManager::identifyCollectivePointableZone`. It compares the number of touching
pointables of the frame with the filtered number of pointables, as the frames before have left it.
When that is 0 and the frame shows pointables none of which touches, the two agree, and the zone is
touching although nothing touches (`run_touching_iff`).
-/

namespace Touchless

namespace FrameState

variable {leap : Leap}

/-- A mode's functions, with the default for the zone. -/
def Overrides.withDefaultZone (overrides : Overrides leap) : Overrides leap :=
  { overrides with
    identifyCollectivePointableZone := FrameState.identifyCollectivePointableZone }

theorem withDefaultZone_basicMode :
    (BasicMode.overrides leap).withDefaultZone = BasicMode.overrides leap := rfl

/-- A sequence of frames, each with the one it follows. -/
def run (overrides : Overrides leap) (v : FrameState leap)
    (frames : List (leap.Frame × leap.Frame)) : FrameState leap :=
  frames.foldl (fun v frame ↦ v.processFrame overrides frame.1 frame.2) v

/-- A pointable that touches. -/
def Touches (p : leap.Pointable) : Prop := leap.touchZone p = .touching

instance (p : leap.Pointable) : Decidable (Touches p) := inferInstanceAs (Decidable (_ = _))

/-- The filter has settled on no pointables, and yet there are some, none of which touches. -/
structure Ghost (count : CategoricalFilter leap.Scalar) (pointables : List leap.Pointable) :
    Prop where
  settled : count.filteredCategory = some 0
  nonempty : pointables ≠ []
  untouched : ∀ p ∈ pointables, ¬ Touches p

theorem countP_touching_eq_zero {pointables : List leap.Pointable} :
    pointables.countP (fun p ↦ leap.touchZone p = .touching) = 0 ↔
      ∀ p ∈ pointables, ¬ Touches p := by
  simp [List.countP_eq_zero, Touches]

/-- **The zone of a frame** is touching although nothing touches exactly in that case. -/
theorem identifyCollectivePointableZone_touching {count : CategoricalFilter leap.Scalar}
    {pointables : List leap.Pointable} (huntouched : ∀ p ∈ pointables, ¬ Touches p) :
    identifyCollectivePointableZone count pointables = .touching ↔
      count.filteredCategory = some 0 ∧ pointables ≠ [] := by
  have hzero := countP_touching_eq_zero.2 huntouched
  simp only [identifyCollectivePointableZone, hzero]
  cases pointables with
  | nil => simp
  | cons p pointables => by_cases hcount : count.filteredCategory = some 0 <;> simp [hcount]

/-- **The zone in a run**: whatever frames have been processed, the next one gets a touching zone
only if one of its relevant pointables touches, unless the filter had settled on none. -/
theorem run_touching_iff (overrides : Overrides leap) (frames : List (leap.Frame × leap.Frame))
    (frame sinceFrame : leap.Frame) :
    let v := run overrides.withDefaultZone (construct leap) frames
    let v' := v.processFrame overrides.withDefaultZone frame sinceFrame
    (v'.collectiveZone = .touching → ∃ p ∈ v'.relevantPointables, Touches p) ↔
      ¬ Ghost v.filteredPointableCount v'.relevantPointables := by
  intro v v'
  have hzone : v'.collectiveZone =
      identifyCollectivePointableZone v.filteredPointableCount v'.relevantPointables := rfl
  rw [hzone]
  constructor
  · intro htouched hghost
    have htouching : identifyCollectivePointableZone v.filteredPointableCount
        v'.relevantPointables = .touching :=
      (identifyCollectivePointableZone_touching hghost.untouched).2
        ⟨hghost.settled, hghost.nonempty⟩
    obtain ⟨p, hp, htouches⟩ := htouched htouching
    exact hghost.untouched p hp htouches
  · intro hghost htouching
    by_contra hnone
    have huntouched : ∀ p ∈ v'.relevantPointables, ¬ Touches p :=
      fun p hp htouches ↦ hnone ⟨p, hp, htouches⟩
    obtain ⟨hsettled, hnonempty⟩ :=
      (identifyCollectivePointableZone_touching huntouched).1 htouching
    exact hghost ⟨hsettled, hnonempty, huntouched⟩

/-- The device of the examples, with pointables that hover. -/
def hoveringLeap : Leap :=
  { fingerLeap with touchZone := fun p : ℕ × ℕ ↦ if p.1 < p.2 then .hovering else .none }

/-- A frame of it. -/
def hoveringFrame (number fingers : ℕ) : hoveringLeap.Frame := fingerFrame number fingers

/-- Eight frames without a pointable, and then one hovers: a ghost touch. -/
theorem run_ghostTouch :
    let v := run (BasicMode.overrides hoveringLeap).withDefaultZone (construct hoveringLeap)
      ((List.range 8).map fun number ↦ (hoveringFrame (number + 1) 0, hoveringFrame number 0))
    let v' := v.processFrame (BasicMode.overrides hoveringLeap).withDefaultZone (hoveringFrame 9 1)
      (hoveringFrame 8 0)
    v'.collectiveZone = .touching ∧ ¬ ∃ p ∈ v'.relevantPointables, Touches p := by
  decide +kernel

end FrameState

end Touchless
