import Touchless.GestureInteraction.GestureInteractionManager
import Touchless.Overlay.OverlayDriver
import Touchless.Utility.AxisAlignedBox
import Touchless.Utility.LPVirtualScreenRuns

/-!
# From the device to the screen

`OverlayDriver` maps normalized positions to the screen: they are stretched by the aspect ratio, the
vertical axis is flipped, and what lies outside of the unit square is moved to its border. How far
it was moved is handed back, and tells whether the position is close enough to the screen. The
result is scaled to the bounds of the active screens and clipped to them.

* With exact arithmetic, the vector that is handed back is the shortest one to the unit square, and
  the position is okay where it is at most 0.6 long (`normalizedToAspect_spec`).
* Whatever the numbers are, a clamped position is on an active screen (`normalizedToScreen_mem`).
-/

namespace Touchless.OverlayDriver

variable {F : Type} [Arithmetic F] (casts : LPFloatCasts F) (v : LPVirtualScreen)

/-- `unitBox`. -/
def unitBox : AxisAlignedBox F 3 where
  min _ := lit 0
  max _ := lit 1

/-- The position in the unit square, where the screen has its aspect ratio. -/
def adjusted (position : Vector3 F) (scale : F) : Vector3 F :=
  let y := (position.y - lit (1 / 2)) * casts.toFloat v.aspectRatio + lit (1 / 2)
  { x := scale * (position.x - lit (1 / 2)) + lit (1 / 2)
    y := lit 1 - (scale * (y - lit (1 / 2)) + lit (1 / 2))
    z := scale * (position.z - lit (1 / 2)) + lit (1 / 2) }

/-- `normalizedToAspect`. -/
def normalizedToAspect (position : Vector3 F) (scale : F) (clamp : Bool) : ScreenPosition F :=
  let output := adjusted casts v position scale
  let temp := unitBox.closestPoint ![output.x, output.y, output.z]
  let clampedPos : Vector3 F := ⟨temp 0, temp 1, output.z⟩
  let clampVec := clampedPos - output
  { isOkay := Arithmetic.le clampVec.magnitude acceptableClampDistance
    output := if clamp then clampedPos else output
    clampVec := clampVec }

/-- `normalizedToScreen`. -/
def normalizedToScreen (position : Vector3 F) (scale : F) (clamp : Bool) : ScreenPosition F :=
  let aspect := normalizedToAspect casts v position scale clamp
  let pos : LPPoint := ⟨casts.toLPFloat aspect.output.x, casts.toLPFloat aspect.output.y⟩
  let pos := v.denormalize pos true
  let pos := if clamp then (v.clipPosition pos).1 else pos
  { aspect with output := ⟨casts.toFloat pos.x, casts.toFloat pos.y, aspect.output.z⟩ }

/-! ### The clamped position -/

section Exact

variable {casts v} {K : Type} [Field K] [LinearOrder K] [IsStrictOrderedRing K]

/-- A length is at most a bound where its square is at most that of the bound. -/
theorem magnitude_le_iff (exact : ExactRoots F K) (w : Vector3 F) {bound : ℚ} (hbound : 0 ≤ bound) :
    Arithmetic.le w.magnitude (lit bound) = true ↔
      exact.value w.x * exact.value w.x + exact.value w.y * exact.value w.y +
        exact.value w.z * exact.value w.z ≤ (bound : K) * bound := by
  have hsquared : exact.value w.magnitudeSquared =
      exact.value w.x * exact.value w.x + exact.value w.y * exact.value w.y +
        exact.value w.z * exact.value w.z := by
    simp [Vector3.magnitudeSquared, Vector3.dot]
  obtain ⟨hnonneg, hroot⟩ := exact.value_sqrt (x := w.magnitudeSquared) (by
    rw [hsquared]
    exact add_nonneg (add_nonneg (mul_self_nonneg _) (mul_self_nonneg _)) (mul_self_nonneg _))
  have hbound' : (0 : K) ≤ bound := by exact_mod_cast hbound
  rw [exact.le_iff, exact.value_lit, ← hsquared, ← hroot, Vector3.magnitude]
  exact mul_self_le_mul_self_iff hnonneg hbound'

/-- **The way to the unit square.** With exact arithmetic, the clamped position is in the unit
square, the clamp vector leads to it from the position that is not clamped, no way into the unit
square is shorter, and the position is okay where that way is at most 0.6 long. -/
theorem normalizedToAspect_spec (exact : ExactRoots F K) (casts : LPFloatCasts F)
    (v : LPVirtualScreen) (position : Vector3 F) (scale : F) :
    let free := normalizedToAspect casts v position scale false
    let clamped := normalizedToAspect casts v position scale true
    (exact.value clamped.output.x ∈ Set.Icc 0 1 ∧ exact.value clamped.output.y ∈ Set.Icc 0 1) ∧
      exact.vector clamped.output = exact.vector free.output + exact.vector clamped.clampVec ∧
      (∀ p ∈ Set.Icc (0 : K) 1, ∀ q ∈ Set.Icc (0 : K) 1,
        exact.value clamped.clampVec.x * exact.value clamped.clampVec.x +
            exact.value clamped.clampVec.y * exact.value clamped.clampVec.y ≤
          (p - exact.value free.output.x) * (p - exact.value free.output.x) +
            (q - exact.value free.output.y) * (q - exact.value free.output.y)) ∧
      (clamped.isOkay = true ↔
        exact.value clamped.clampVec.x * exact.value clamped.clampVec.x +
          exact.value clamped.clampVec.y * exact.value clamped.clampVec.y ≤ 3 / 5 * (3 / 5)) := by
  intro free clamped
  -- the unclamped position, and the way from it, coordinate by coordinate
  have hside : ∀ i, unitBox.side exact i = Set.Icc 0 1 := fun i ↦ by
    rw [AxisAlignedBox.side, unitBox, exact.value_zero, exact.value_one]
  have hvalid : ∀ i, exact.value ((unitBox : AxisAlignedBox F 3).min i) ≤
      exact.value ((unitBox : AxisAlignedBox F 3).max i) := fun i ↦ by
    rw [unitBox, exact.value_zero, exact.value_one]
    exact zero_le_one
  let pos : Fin 3 → F := ![free.output.x, free.output.y, free.output.z]
  have hx : exact.value clamped.clampVec.x =
      exact.value (unitBox.closestPoint pos 0) - exact.value (pos 0) := exact.value_sub _ _
  have hy : exact.value clamped.clampVec.y =
      exact.value (unitBox.closestPoint pos 1) - exact.value (pos 1) := exact.value_sub _ _
  have hz : exact.value clamped.clampVec.z = 0 :=
    (exact.value_sub _ _).trans (sub_self _)
  refine ⟨⟨?_, ?_⟩, ?_, fun p hp q hq ↦ ?_, ?_⟩
  · exact hside 0 ▸ AxisAlignedBox.closestPoint_mem (hvalid 0) pos
  · exact hside 1 ▸ AxisAlignedBox.closestPoint_mem (hvalid 1) pos
  · refine Prod.ext ?_ (Prod.ext ?_ ?_)
    · show exact.value (unitBox.closestPoint pos 0) =
        exact.value (pos 0) + exact.value clamped.clampVec.x
      rw [hx, add_sub_cancel]
    · show exact.value (unitBox.closestPoint pos 1) =
        exact.value (pos 1) + exact.value clamped.clampVec.y
      rw [hy, add_sub_cancel]
    · show exact.value free.output.z = exact.value free.output.z + exact.value clamped.clampVec.z
      rw [hz, add_zero]
  · have hp' := AxisAlignedBox.abs_sub_closestPoint_le pos (hside 0 ▸ hp)
    have hq' := AxisAlignedBox.abs_sub_closestPoint_le pos (hside 1 ▸ hq)
    rw [hx, hy]
    exact add_le_add (abs_le_iff_mul_self_le.1 hp') (abs_le_iff_mul_self_le.1 hq')
  · have hokay : clamped.isOkay = Arithmetic.le clamped.clampVec.magnitude (lit (3 / 5)) := rfl
    rw [hokay, magnitude_le_iff exact _ (by norm_num), hz, mul_zero, add_zero]
    norm_num

/-- A position to the right of the screen. -/
theorem normalizedToAspect_spec_right :
    letI := realArithmetic
    let clamped := normalizedToAspect (F := ℝ) ⟨fun x ↦ ⌊x⌋, fun q ↦ q⟩ LPVirtualScreen.construct
      ⟨2, 1 / 2, 0⟩ 1 true
    clamped.output.x ∈ Set.Icc 0 1 ∧ clamped.output.y ∈ Set.Icc 0 1 := by
  let _ : Arithmetic ℝ := realArithmetic
  exact (normalizedToAspect_spec ExactRoots.real ⟨fun x ↦ ⌊x⌋, fun q ↦ q⟩
    LPVirtualScreen.construct ⟨2, 1 / 2, 0⟩ 1).1

end Exact

/-! ### The screen -/

variable {casts v}

/-- **A clamped position is on an active screen**, whatever the numbers are, if the casts lose
nothing. -/
theorem normalizedToScreen_mem (hcasts : ∀ q, casts.toLPFloat (casts.toFloat q) = q)
    (hready : v.Ready) (position : Vector3 F) (scale : F) :
    let screen := normalizedToScreen casts v position scale true
    ∃ s ∈ v.activeScreens,
      s.bounds.containsPoint (iconPosition casts screen.output.x screen.output.y) := by
  intro screen
  obtain ⟨hne, hpixel⟩ := hready
  obtain ⟨pos, hpos⟩ : ∃ pos, iconPosition casts screen.output.x screen.output.y =
      (v.clipPosition pos).1 := ⟨_, LPPoint.ext (hcasts _) (hcasts _)⟩
  rw [hpos]
  exact LPVirtualScreen.containsPoint_clipPosition hne hpixel pos

end Touchless.OverlayDriver
