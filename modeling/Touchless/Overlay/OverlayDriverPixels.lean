import Touchless.Overlay.OverlayDriverScreen

/-!
# The pixels of an icon

What `drawRasterIcon` gives to `RasterCircle` is always in range: with exact arithmetic and a touch
distance between -1 and 1, the opacity is between 0 and 1, and where there is a velocity there is a
direction (`paintable_circleArguments`, `circleArguments_direction`), and the icons that the modes
draw for hands and fingers are such (`inRange_overlayIcon`). So every pixel of an icon that
has been drawn is transparent outside of the glow, and has the integer parts of the four channels
of the formula inside, none of which leaves its byte (`drawRasterIcon_pixels`).
-/

namespace Touchless.OverlayDriver

open LPImage (CircleArguments)

variable {F K : Type} [Arithmetic F] [Rounding F] [Field K] [LinearOrder K]

section Arguments

variable [IsStrictOrderedRing K]

/-- The ranges of what the callers give to `drawRasterIcon`. -/
structure InRange (exact : ExactRoots F K) (icon : RasterIcon F) : Prop where
  touchDistance : |exact.value icon.touchDistance| ≤ 1
  clampDistance : 0 ≤ exact.value icon.clampDistance
  alphaMult : exact.value icon.alphaMult ∈ Set.Icc 0 1
  radius : 0 < exact.value icon.radius

variable {exact : ExactRoots F K} {icon : RasterIcon F}

/-- The opacity of an icon. -/
theorem InRange.opacity (h : InRange exact icon) :
    exact.value (circleArguments icon).a ∈ Set.Icc 0 1 := by
  have htouch : exact.value (Arithmetic.min (lit 1 - icon.touchDistance * icon.touchDistance)
      (lit 1)) ∈ Set.Icc 0 1 := by
    rw [exact.value_min, exact.value_sub, exact.value_mul, exact.value_one]
    have hsq : exact.value icon.touchDistance * exact.value icon.touchDistance ≤ 1 := by
      rw [← abs_mul_abs_self]
      exact mul_le_one₀ h.touchDistance (abs_nonneg _) h.touchDistance
    exact ⟨le_min (sub_nonneg.2 hsq) zero_le_one, min_le_right _ _⟩
  have hclamp : exact.value (lit 1 -
      Arithmetic.min (lit 1) (icon.clampDistance / acceptableClampDistance)) ∈ Set.Icc 0 1 := by
    rw [exact.value_sub, exact.value_min, exact.value_div, exact.value_one, acceptableClampDistance,
      exact.value_lit]
    have hnonneg : 0 ≤ exact.value icon.clampDistance / ((3 / 5 : ℚ) : K) :=
      div_nonneg h.clampDistance (by norm_num)
    exact ⟨sub_nonneg.2 (min_le_left _ _), sub_le_self _ (le_min zero_le_one hnonneg)⟩
  rw [circleArguments]
  dsimp only
  rw [exact.value_mul, exact.value_mul]
  exact mul_mem_unit (mul_mem_unit htouch hclamp) h.alphaMult

/-- **What an icon is drawn with is in range.** -/
theorem paintable_circleArguments (h : InRange exact icon) :
    (circleArguments icon).Paintable exact where
  color := by
    have hbyte : ∀ {touching : Bool} {q : ℚ}, 0 ≤ q → q ≤ 255 →
        exact.value (if touching = true then lit q else (lit 255 : F)) ∈ Set.Icc 0 255 :=
      fun {touching _} hlow hhigh ↦ by
        cases touching with
        | true => exact CircleArguments.value_byte hlow hhigh
        | false => exact CircleArguments.value_byte (by norm_num) le_rfl
    exact ⟨hbyte (by norm_num) (by norm_num), hbyte (by norm_num) (by norm_num),
      hbyte (by norm_num) (by norm_num), CircleArguments.value_byte (by norm_num) le_rfl⟩
  opacity := h.opacity
  radius := h.radius

/-- Where there is a velocity, there is a direction. -/
theorem circleArguments_direction (exact : ExactRoots F K) (icon : RasterIcon F) :
    exact.value (circleArguments icon).velocity ≤ 50 ∨
      exact.value (circleArguments icon).direction.x ≠ 0 ∨
        exact.value (circleArguments icon).direction.y ≠ 0 := by
  by_contra! h
  obtain ⟨hfast, hx, hy⟩ := h
  have hnorm := (CircleArguments.value_norm exact (circleArguments icon).direction).2
  rw [hx, hy, mul_zero, add_zero] at hnorm
  have hzero : exact.value (circleArguments icon).direction.norm = 0 := mul_self_eq_zero.1 hnorm
  have hvelocity : (circleArguments icon).velocity = (circleArguments icon).direction.norm := rfl
  rw [hvelocity, hzero] at hfast
  linarith

end Arguments

/-! ### The icons of hands and fingers -/

section Callers

omit [Rounding F]

/-- `alphaFromTimeVisible`. -/
def alphaFromTimeVisible (timeVisible : F) : F :=
  Arithmetic.min (lit 1) (timeVisible / lit (2 / 5))

/-- What `drawOverlayForPointable` and `drawOverlayForHand` draw at a position on the screen. If the
position has been clamped, it is drawn as if it moved along the border. -/
def overlayIcon (screen : ScreenPosition F) (vel : Vector3 F)
    (touchDistance alphaMult timeVisible : F) : RasterIcon F :=
  let clampVec := screen.clampVec
  let clampDist := clampVec.magnitude
  { x := screen.output.x
    y := screen.output.y
    velocity :=
      if Arithmetic.lt (lit 0) clampDist then
        if Arithmetic.lt (lit 0) (Arithmetic.abs clampVec.x) then
          { vel with x := vel.x * lit 0, y := vel.y + lit 10000 * clampDist }
        else if Arithmetic.lt (lit 0) (Arithmetic.abs clampVec.y) then
          { vel with x := vel.x + lit 10000 * clampDist, y := vel.y * lit 0 }
        else vel
      else vel
    touchDistance := touchDistance
    radius :=
      if Arithmetic.lt touchDistance (lit 0) then lit 10 else touchDistanceToRadius touchDistance
    clampDistance := clampDist
    alphaMult := alphaMult * alphaFromTimeVisible timeVisible }

variable [IsStrictOrderedRing K] {exact : ExactRoots F K}

/-- A radius is between 10 and 38. -/
theorem value_touchDistanceToRadius (exact : ExactRoots F K) (touchDistance : F) :
    exact.value (touchDistanceToRadius touchDistance) ∈ Set.Icc 10 38 := by
  rw [touchDistanceToRadius, exact.value_add, exact.value_mul, exact.value_min, exact.value_max,
    exact.value_zero, exact.value_lit, exact.value_lit, exact.value_lit]
  have hnonneg : 0 ≤ min (max (exact.value touchDistance) 0) ((7 / 10 : ℚ) : K) :=
    le_min (le_max_right _ _) (by norm_num)
  have hle : min (max (exact.value touchDistance) 0) ((7 / 10 : ℚ) : K) ≤ ((7 / 10 : ℚ) : K) :=
    min_le_right _ _
  push_cast at hnonneg hle ⊢
  constructor <;> linarith

/-- **The icons of hands and fingers are in range**, where the device shows a touch distance between
-1 and 1. -/
theorem inRange_overlayIcon (screen : ScreenPosition F) (vel : Vector3 F)
    {touchDistance alphaMult timeVisible : F} (htouch : |exact.value touchDistance| ≤ 1)
    (halpha : exact.value alphaMult ∈ Set.Icc 0 1) (htime : 0 ≤ exact.value timeVisible) :
    InRange exact (overlayIcon screen vel touchDistance alphaMult timeVisible) where
  touchDistance := htouch
  clampDistance := (exact.value_sqrt (by
    simp only [Vector3.magnitudeSquared, Vector3.dot, exact.value_add, exact.value_mul]
    exact add_nonneg (add_nonneg (mul_self_nonneg _) (mul_self_nonneg _)) (mul_self_nonneg _))).1
  alphaMult := by
    have hvisible : exact.value (alphaFromTimeVisible timeVisible) ∈ Set.Icc 0 1 := by
      rw [alphaFromTimeVisible, exact.value_min, exact.value_one, exact.value_div, exact.value_lit]
      exact ⟨le_min zero_le_one (div_nonneg htime (by norm_num)), min_le_left _ _⟩
    rw [overlayIcon]
    dsimp only
    rw [exact.value_mul]
    exact mul_mem_unit halpha hvisible
  radius := by
    rw [overlayIcon]
    dsimp only
    split_ifs
    · rw [exact.value_lit]
      norm_num
    · have hradius := (value_touchDistanceToRadius exact touchDistance).1
      linarith

end Callers

/-- **The pixels of an icon.** With exact arithmetic, whatever was called before, every pixel of an
icon that is drawn has the channels of the blend inside of the glow, of which none leaves its byte,
and is transparent outside. -/
theorem drawRasterIcon_pixels [IsStrictOrderedRing K] [FloorRing K] (exact : ExactRoots F K)
    (hrounding : ExactRounding exact.toExactOperations) (casts : LPFloatCasts F)
    (address : ℕ → ℕ) (haddress : Function.Injective address) (file : Option (ℤ × ℤ))
    (fresh : ℕ → ℕ → UInt32) (calls : List (Call F)) {i : ℕ} (hi : i < 32) {icon : RasterIcon F}
    (hicon : InRange exact icon) :
    ∃ d image, (construct.initializeOverlay file fresh).run casts address
        (calls ++ [.drawRasterIcon i true icon]) = some d ∧
      d.overlayImages[i]? = some image ∧
      ∀ x y, Raster.Inside 100 100 (x, y) → ∃ pixel, image.pixelAt x y = some pixel ∧
        let circle := circleArguments icon
        let distSq := circle.distSq 100 100 x y
        if exact.value distSq < exact.value (circle.glowSq 100 100) then
          (circle.blended 100 100 distSq).IsStored exact pixel
        else pixel = 0 := by
  obtain ⟨d, hrun, hconsistent⟩ :
      ∃ d, (construct.initializeOverlay file fresh).run casts address calls = some d ∧
        d.Consistent address :=
    PartialRun.foldlM_isSome (consistent_initializeOverlay file fresh)
      fun s call _ h ↦ h.exec haddress call
  obtain ⟨d', hd', hconsistent', -, himages⟩ :
      ∃ d', d.drawRasterIcon casts address i true icon = some d' ∧ _ :=
    hconsistent.drawRasterIcon haddress i true icon
  obtain ⟨image, hcircle, -, -, -, hpixels⟩ :=
    LPImage.rasterCircle_pixels exact hrounding LPImage.iconImage (circleArguments icon) rfl
      (circleArguments_direction exact icon) hicon.radius.le
  refine ⟨d', image, PartialRun.foldlM_concat_eq_some.2 ⟨d, hrun, hd'⟩, ?_, fun x y hinside ↦ ?_⟩
  · have hlength : i < d.overlayImages.length := by
      rw [hconsistent.paired, hconsistent.count]
      exact hi
    rw [himages, List.getElem?_eq_getElem hlength, Option.bind_some, if_pos ⟨rfl, rfl⟩, hcircle]
  · refine ⟨_, hpixels x y hinside, ?_⟩
    dsimp only
    split_ifs with hglow
    · have hpixel : (circleArguments icon).pixel 100 100 x y = some
          ((circleArguments icon).blended 100 100
            ((circleArguments icon).distSq 100 100 x y)).finalColor :=
        if_pos (exact.lt_iff.2 hglow)
      have hpixel' : (circleArguments icon).pixel LPImage.iconImage.width LPImage.iconImage.height
          x y = _ := hpixel
      rw [hpixel', Option.getD_some]
      exact (paintable_circleArguments hicon).pixel_channels hrounding hpixel
    · have hpixel : (circleArguments icon).pixel LPImage.iconImage.width LPImage.iconImage.height
          x y = none := if_neg fun h ↦ hglow (exact.lt_iff.1 h)
      rw [hpixel]
      rfl

/-- An icon on its way to the right. -/
def movingIcon : RasterIcon F where
  x := lit 960
  y := lit 540
  velocity := ⟨lit 1000, lit 0, lit 0⟩
  touchDistance := lit (-1 / 2)
  radius := lit 10
  clampDistance := lit 0
  alphaMult := lit 1

theorem drawRasterIcon_pixels_moving :
    letI := realArithmetic
    letI := realRounding
    ∃ d image, (construct.initializeOverlay none fun _ _ ↦ 0).run (F := ℝ) ⟨fun x ↦ ⌊x⌋, fun q ↦ q⟩
        id [.drawRasterIcon 0 true movingIcon] = some d ∧
      d.overlayImages[0]? = some image ∧
      ∀ x y, Raster.Inside 100 100 (x, y) → (image.pixelAt x y).isSome = true := by
  let _ : Arithmetic ℝ := realArithmetic
  let _ : Rounding ℝ := realRounding
  have hicon : InRange ExactRoots.real movingIcon := by
    refine ⟨?_, ?_, ?_, ?_⟩
    · show |((-1 / 2 : ℚ) : ℝ)| ≤ 1
      norm_num [abs_le]
    · show (0 : ℝ) ≤ (0 : ℚ)
      norm_num
    · show ((1 : ℚ) : ℝ) ∈ Set.Icc 0 1
      norm_num
    · show (0 : ℝ) < (10 : ℚ)
      norm_num
  obtain ⟨d, image, hrun, himage, hpixels⟩ :=
    drawRasterIcon_pixels ExactRoots.real ExactRounding.real ⟨fun x ↦ ⌊x⌋, fun q ↦ q⟩ id
      Function.injective_id none (fun _ _ ↦ 0) [] (i := 0) (by decide) hicon
  refine ⟨d, image, hrun, himage, fun x y hinside ↦ ?_⟩
  obtain ⟨pixel, hpixel, -⟩ := hpixels x y hinside
  rw [hpixel]
  rfl

end Touchless.OverlayDriver
