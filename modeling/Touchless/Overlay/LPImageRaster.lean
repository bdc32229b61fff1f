import Mathlib.Tactic.IntervalCases
import Touchless.Foundations.Ellipse
import Touchless.Foundations.Raster
import Touchless.Foundations.RealArithmetic
import Touchless.Overlay.LPOverlay

/-!
# The raster of a circle

`LPImage::RasterCircle` draws an icon: an ellipse that is stretched along the velocity, with a
border and a glow around it. It only looks at the pixels of a box, and computes the four channels of
a pixel at a time, which are packed into one word by two shifts of the whole register.

* Whatever the numbers are, it writes inside the image only (`rasterCircle_isSome`).
* The packing puts the low bytes of the four channels next to each other (`packedColor_eq`).
* With exact arithmetic the box leaves no pixel out (`rasterCircle_pixels`): the image is the same
  as if every pixel had been looked at.

All floating-point types are one type here.
-/

namespace Touchless

variable {F : Type} [Arithmetic F]

/-- `Vector2`. -/
structure Vector2 (F : Type) where
  x : F
  y : F

namespace Vector2

/-- `dot`. -/
def dot (v w : Vector2 F) : F := v.x * w.x + v.y * w.y

/-- `norm`. -/
def norm (v : Vector2 F) : F := Arithmetic.sqrt (v.dot v)

/-- `normalized`. -/
def normalized (v : Vector2 F) : Vector2 F := ⟨v.x / v.norm, v.y / v.norm⟩

/-- `operator*=`. -/
def scale (v : Vector2 F) (s : F) : Vector2 F := ⟨v.x * s, v.y * s⟩

end Vector2

/-- Four `float`s in a register, the first in the lowest bits: the channels of a pixel. -/
structure Lanes (F : Type) where
  b : F
  g : F
  r : F
  a : F

namespace Lanes

/-- `_mm_add_ps`. -/
def add (v w : Lanes F) : Lanes F := ⟨v.b + w.b, v.g + w.g, v.r + w.r, v.a + w.a⟩

/-- `_mm_mul_ps` with `_mm_set1_ps`. -/
def mul (v : Lanes F) (s : F) : Lanes F := ⟨v.b * s, v.g * s, v.r * s, v.a * s⟩

variable [Rounding F]

/-- `_mm_cvttps_epi32` in one lane: what does not fit gives the indefinite integer. -/
def toInt32 (x : F) : BitVec 32 :=
  let n := Rounding.toInt x
  if -2 ^ 31 ≤ n ∧ n < 2 ^ 31 then BitVec.ofInt 32 n else 0x80000000#32

/-- `_mm_cvttps_epi32`. -/
def toRegister (v : Lanes F) : BitVec 128 :=
  toInt32 v.a ++ toInt32 v.r ++ toInt32 v.g ++ toInt32 v.b

/-- The low bytes of the lanes are moved together by shifts of 3 and of 6 bytes. -/
def packedColor (register : BitVec 128) : BitVec 128 :=
  let packedColor := register &&& (0xFF#32 ++ 0xFF#32 ++ 0xFF#32 ++ 0xFF#32)
  let packedColor := packedColor ||| (packedColor >>> 24)
  packedColor ||| (packedColor >>> 48)

/-- What `_mm_store_ss` stores. -/
def finalColor (v : Lanes F) : UInt32 := ⟨(packedColor v.toRegister).setWidth 32⟩

end Lanes

/-- The mask lets the low byte of every lane through. -/
theorem getLsbD_mask {i : ℕ} (hi : i < 128) :
    (0xFF#32 ++ 0xFF#32 ++ 0xFF#32 ++ 0xFF#32 : BitVec 128).getLsbD i = decide (i % 32 < 8) := by
  revert i
  decide +kernel

/-- **What the shifts do**: the low word has the low bytes of the lanes. -/
theorem packedColor_eq (a r g b : BitVec 32) :
    (Lanes.packedColor (a ++ r ++ g ++ b)).setWidth 32 =
      a.setWidth 8 ++ r.setWidth 8 ++ g.setWidth 8 ++ b.setWidth 8 := by
  apply BitVec.eq_of_getLsbD_eq
  intro i hi
  simp only [Lanes.packedColor, BitVec.getLsbD_setWidth, BitVec.getLsbD_or,
    BitVec.getLsbD_ushiftRight, BitVec.getLsbD_and, BitVec.getLsbD_append,
    getLsbD_mask (show i < 128 by omega), getLsbD_mask (show 24 + i < 128 by omega),
    getLsbD_mask (show 48 + i < 128 by omega), getLsbD_mask (show 24 + (48 + i) < 128 by omega)]
  interval_cases i <;> simp

namespace LPImage

/-- The arguments of `RasterCircle`. -/
structure CircleArguments (F : Type) where
  centerOffset : Vector2 F
  direction : Vector2 F
  velocity : F
  outerRadius : F
  borderRadius : F
  glow : F
  r : F
  g : F
  b : F
  a : F

namespace CircleArguments

variable (c : CircleArguments F) (width height : ℕ)

/-! ### The shape -/

def radiusSq : F := c.outerRadius * c.outerRadius

def borderSq : F := (c.outerRadius - c.borderRadius) * (c.outerRadius - c.borderRadius)

def minSize : F := Arithmetic.min (lit width / lit 2) (lit height / lit 2)

/-- The glow does not exceed the icon. -/
def glowSq : F :=
  Arithmetic.min (c.radiusSq * c.glow * c.glow) (minSize width height * minSize width height)

/-- `velocity`, where it counts. -/
def fastVelocity : F := Arithmetic.max (c.velocity - lit 50) (lit 0)

def yScale : F := lit 1 + Arithmetic.min (lit 2) (c.fastVelocity / lit 900)

def xScale : F := Arithmetic.sqrt (lit 1 / c.yScale)

def aunit : Vector2 F :=
  if Arithmetic.eq c.fastVelocity (lit 0) then ⟨lit 1, lit 0⟩ else c.direction.normalized

def bunit : Vector2 F := ⟨c.aunit.y, -c.aunit.x⟩

def center : Vector2 F where
  x := lit width / lit 2 - lit 1 + c.centerOffset.x
  y := lit height / lit 2 - lit 1 + c.centerOffset.y

/-! ### The box -/

/-- `xx` and `yy`, for the components of the axes. -/
def reach (a b : F) : F :=
  (⟨a / c.xScale, b / c.yScale⟩ : Vector2 F).norm * c.outerRadius * Arithmetic.abs c.glow

def xx : F := c.reach c.aunit.x c.bunit.x

def yy : F := c.reach c.aunit.y c.bunit.y

variable [Rounding F]

/-- A bound of the box, within the image. -/
def clampBound (size : ℕ) (bound : F) : ℤ := min (size : ℤ) (max 0 (Rounding.toInt bound))

/-- `minX` and `minY`. -/
def low : ℤ × ℤ :=
  (clampBound width ((c.center width height).x - c.xx),
    clampBound height ((c.center width height).y - c.yy))

/-- `maxX` and `maxY`. -/
def high : ℤ × ℤ :=
  (clampBound width ((c.center width height).x + c.xx + lit 1),
    clampBound height ((c.center width height).y + c.yy + lit 1))

/-! ### The pixels -/

def dark : Lanes F :=
  if Arithmetic.lt (lit 0) c.glow then
    let mult : F := if Arithmetic.lt (lit 1) c.glow then lit 1 else lit (1 / 5)
    ⟨mult * lit 255, mult * lit 255, mult * lit 255, lit 200⟩
  else ⟨c.b * lit (1 / 5), c.g * lit (1 / 5), c.r * lit (1 / 5), lit 200⟩

def color : Lanes F := ⟨c.b, c.g, c.r, lit 255⟩

def gray : Lanes F := (c.color.add ⟨lit 255, lit 255, lit 255, lit 255⟩).mul (lit (1 / 2))

/-- `pt`. -/
def point (x y : ℤ) : Vector2 F where
  x := lit x + lit (1 / 2) - (c.center width height).x
  y := lit y + lit (1 / 2) - (c.center width height).y

/-- The square of the distance from the center, in the axes of the ellipse. -/
def distSq (x y : ℤ) : F :=
  let pt := c.point width height x y
  let fx := pt.dot (c.aunit.scale c.xScale)
  let fy := pt.dot (c.bunit.scale c.yScale)
  fx * fx + fy * fy

/-- `orig`, `blend` and `alpha` of a pixel inside of the glow. -/
def shading (distSq : F) : Lanes F × F × F :=
  let glowSq := c.glowSq width height
  if Arithmetic.lt distSq c.radiusSq then
    let blend := Arithmetic.max (lit 0)
      (Arithmetic.min (lit 1) ((c.borderSq - distSq) / (lit 2 * c.outerRadius)))
    (c.gray, blend,
      c.a * Arithmetic.min (lit 1) ((glowSq - distSq) / (lit 2 * c.outerRadius)) *
        (lit 1 - blend * lit (2 / 5)))
  else
    let blend := Arithmetic.max (lit 0)
      (Arithmetic.min (lit 1) ((distSq - c.radiusSq) / (lit 2 * c.outerRadius)))
    let temp := lit 1 - (distSq - c.radiusSq) / (glowSq - c.radiusSq)
    (c.color, blend, c.a * (temp * temp * temp * lit (9 / 10)))

/-- `blended`. -/
def blended (distSq : F) : Lanes F :=
  let (orig, blend, alpha) := c.shading width height distSq
  ((orig.mul blend).add (c.dark.mul (lit 1 - blend))).mul alpha

/-- What is written for a pixel, if it is inside of the glow. -/
def pixel (x y : ℤ) : Option UInt32 :=
  if Arithmetic.lt (c.distSq width height x y) (c.glowSq width height) then
    some (c.blended width height (c.distSq width height x y)).finalColor
  else none

end CircleArguments

/-- `RasterCircle`. The image is filled with transparent pixels before, and keeps its size. -/
def rasterCircle [Rounding F] (image : LPImage) (c : CircleArguments F) : Option LPImage :=
  match image.colors with
  | none => some image
  | some _ => do
    let colors ← Raster.scan image.width (c.pixel image.width image.height)
      (c.low image.width image.height) (c.high image.width image.height)
      (List.replicate (image.width * image.height) 0)
    if hsize : colors.length = image.width * image.height then
      some { image with colors := some colors, sized := fun _ h ↦ Option.some.inj h ▸ hsize }
    else none

/-! ### What is written -/

section Writes

variable [Rounding F] {image : LPImage} {c : CircleArguments F}

/-- The pixel of an image at a place. -/
def pixelAt (image : LPImage) (x y : ℤ) : Option UInt32 :=
  image.colors.bind fun colors ↦ Raster.pixel image.width colors x y

omit [Arithmetic F] in
theorem clampBound_mem (size : ℕ) (bound : F) :
    0 ≤ CircleArguments.clampBound size bound ∧ CircleArguments.clampBound size bound ≤ size := by
  rw [CircleArguments.clampBound]
  omega

theorem sized_transparent (width height : ℕ) :
    Raster.Sized (width : ℤ) height (List.replicate (width * height) (0 : UInt32)) := by
  rw [Raster.Sized, List.length_replicate]
  push_cast
  rfl

theorem pixel_transparent {width height : ℕ} {x y : ℤ}
    (hinside : Raster.Inside (width : ℤ) height (x, y)) :
    Raster.pixel width (List.replicate (width * height) (0 : UInt32)) x y = some 0 := by
  obtain ⟨hlow, hhigh⟩ := hinside.index
  rw [Raster.pixel, List.getElem?_replicate, if_pos]
  have : ((width * height : ℕ) : ℤ) = (width : ℤ) * height := by push_cast; rfl
  dsimp only at hlow hhigh
  omega

/-- An image with the raster of a scan. -/
theorem rasterCircle_of_scan (hcolors : image.colors.isSome = true) {colors : List UInt32}
    (hscan : Raster.scan image.width (c.pixel image.width image.height)
      (c.low image.width image.height) (c.high image.width image.height)
      (List.replicate (image.width * image.height) 0) = some colors)
    (hsized : Raster.Sized (image.width : ℤ) image.height colors) :
    ∃ result, image.rasterCircle c = some result ∧ result.width = image.width ∧
      result.height = image.height ∧ result.hotspot = image.hotspot ∧
      result.colors = some colors := by
  obtain ⟨old, hold⟩ := Option.isSome_iff_exists.1 hcolors
  have hlength : colors.length = image.width * image.height := by
    have : (colors.length : ℤ) = image.width * image.height := hsized
    exact_mod_cast this
  rw [rasterCircle, hold]
  dsimp only
  rw [hscan, Option.bind_eq_bind, Option.bind_some, dif_pos hlength]
  exact ⟨_, rfl, rfl, rfl, rfl, rfl⟩

/-- **It writes inside the image only**, whatever the numbers are: nothing fails, the image keeps
its size, and a pixel outside of the box is transparent. -/
theorem rasterCircle_isSome (image : LPImage) (c : CircleArguments F)
    (hcolors : image.colors.isSome = true) :
    ∃ result, image.rasterCircle c = some result ∧ result.width = image.width ∧
      result.height = image.height ∧ result.hotspot = image.hotspot ∧
      ∀ x y, Raster.Inside (image.width : ℤ) image.height (x, y) → result.pixelAt x y =
        if ((c.low image.width image.height).1 ≤ x ∧ x < (c.high image.width image.height).1) ∧
            (c.low image.width image.height).2 ≤ y ∧ y < (c.high image.width image.height).2 then
          some ((c.pixel image.width image.height x y).getD 0)
        else some 0 := by
  obtain ⟨colors, hscan, hsized, hpixels⟩ :=
    Raster.scan_spec (f := c.pixel image.width image.height)
      (sized_transparent image.width image.height) (c.low image.width image.height)
      (c.high image.width image.height)
      ⟨(clampBound_mem _ _).1, (clampBound_mem _ _).1⟩
      ⟨(clampBound_mem _ _).2, (clampBound_mem _ _).2⟩
  obtain ⟨result, hresult, hwidth, hheight, hhotspot, hresultColors⟩ :=
    rasterCircle_of_scan hcolors hscan hsized
  refine ⟨result, hresult, hwidth, hheight, hhotspot, fun x y hinside ↦ ?_⟩
  rw [pixelAt, hresultColors, Option.bind_some, hwidth, hpixels x y hinside,
    pixel_transparent hinside]
  split_ifs
  · cases c.pixel image.width image.height x y <;> rfl
  · rfl

end Writes

/-! ### The box leaves nothing out -/

section Exact

variable {K : Type} [Field K] [LinearOrder K] (exact : ExactRoots F K)

namespace CircleArguments

variable (c : CircleArguments F) {width height : ℕ}

theorem value_fastVelocity :
    exact.value c.fastVelocity = max (exact.value c.velocity - 50) 0 := by
  rw [fastVelocity, exact.value_max, exact.value_sub, exact.value_lit, exact.value_zero]
  norm_num

/-- The middle of a pixel, from the center. -/
def place (width height : ℕ) (x y : ℤ) : K × K :=
  ((x : K) + (1 / 2 : ℚ) - exact.value (c.center width height).x,
    (y : K) + (1 / 2 : ℚ) - exact.value (c.center width height).y)

variable [IsStrictOrderedRing K]

/-- The distance is that of the ellipse. -/
theorem value_distSq (x y : ℤ) : exact.value (c.distSq width height x y) =
    Ellipse.distSq (exact.value c.aunit.x, exact.value c.aunit.y) (exact.value c.xScale)
      (exact.value c.yScale) (c.place exact width height x y) := by
  simp [distSq, point, Vector2.dot, Vector2.scale, bunit, place, Ellipse.distSq, exact.value_lit,
    exact.value_neg]

/-- The square of a norm. -/
theorem value_norm (v : Vector2 F) : 0 ≤ exact.value v.norm ∧
    exact.value v.norm * exact.value v.norm =
      exact.value v.x * exact.value v.x + exact.value v.y * exact.value v.y := by
  have hdot : exact.value (v.dot v) =
      exact.value v.x * exact.value v.x + exact.value v.y * exact.value v.y := by
    simp [Vector2.dot]
  rw [Vector2.norm, ← hdot]
  refine exact.value_sqrt ?_
  rw [hdot]
  exact add_nonneg (mul_self_nonneg _) (mul_self_nonneg _)

/-- A vector that is not zero is made a unit vector. -/
theorem unit_normalized {v : Vector2 F} (hv : exact.value v.x ≠ 0 ∨ exact.value v.y ≠ 0) :
    exact.value v.normalized.x * exact.value v.normalized.x +
      exact.value v.normalized.y * exact.value v.normalized.y = 1 := by
  have hnorm := (value_norm exact v).2
  have hpositive : 0 < exact.value v.norm * exact.value v.norm := by
    rw [hnorm]
    rcases hv with hx | hy
    · exact add_pos_of_pos_of_nonneg (mul_self_pos.2 hx) (mul_self_nonneg _)
    · exact add_pos_of_nonneg_of_pos (mul_self_nonneg _) (mul_self_pos.2 hy)
  have hne : exact.value v.norm ≠ 0 := fun h ↦ by
    rw [h, mul_zero] at hpositive
    exact lt_irrefl _ hpositive
  rw [Vector2.normalized]
  dsimp only
  rw [exact.value_div, exact.value_div, div_mul_div_comm, div_mul_div_comm, ← add_div, ← hnorm,
    div_self (mul_ne_zero hne hne)]

/-- The axis is a unit vector, unless there is a velocity without a direction. -/
theorem unit_aunit
    (hdirection : exact.value c.velocity ≤ 50 ∨
      exact.value c.direction.x ≠ 0 ∨ exact.value c.direction.y ≠ 0) :
    exact.value c.aunit.x * exact.value c.aunit.x +
      exact.value c.aunit.y * exact.value c.aunit.y = 1 := by
  rw [aunit]
  split_ifs with hslow
  · simp
  · refine unit_normalized exact (hdirection.resolve_left fun hle ↦ hslow (exact.eq_iff.2 ?_))
    rw [value_fastVelocity, exact.value_zero, max_eq_right]
    linarith

/-- The scales do not vanish. -/
theorem scales_pos : 0 < exact.value c.yScale ∧ 0 < exact.value c.xScale := by
  have hfast : 0 ≤ exact.value c.fastVelocity := by
    rw [value_fastVelocity]
    exact le_max_right _ _
  have hy : 0 < exact.value c.yScale := by
    rw [yScale, exact.value_add, exact.value_one, exact.value_min, exact.value_div,
      exact.value_lit, exact.value_lit]
    have hmin : (0 : K) ≤ min ((2 : ℚ) : K) (exact.value c.fastVelocity / ((900 : ℚ) : K)) :=
      le_min (by norm_num) (div_nonneg hfast (by norm_num))
    linarith
  refine ⟨hy, ?_⟩
  have hsquare : exact.value (lit 1 / c.yScale) = 1 / exact.value c.yScale := by
    rw [exact.value_div, exact.value_one]
  have hpositive : 0 < exact.value (lit 1 / c.yScale) := by
    rw [hsquare]
    exact one_div_pos.2 hy
  obtain ⟨hnonneg, hroot⟩ := exact.value_sqrt hpositive.le
  refine lt_of_le_of_ne hnonneg fun hzero ↦ ?_
  rw [xScale] at hzero
  rw [← hroot, ← hzero, mul_zero] at hpositive
  exact lt_irrefl _ hpositive

/-- How far the box reaches. -/
theorem value_reach (a b : F) :
    exact.value (c.reach a b) * exact.value (c.reach a b) =
      Ellipse.reachSq (exact.value c.xScale) (exact.value c.yScale) (exact.value a)
          (exact.value b) *
        exact.value (c.radiusSq * c.glow * c.glow) := by
  obtain ⟨-, hnorm⟩ := value_norm exact (⟨a / c.xScale, b / c.yScale⟩ : Vector2 F)
  simp only [exact.value_div] at hnorm
  simp only [reach, radiusSq, exact.value_mul, exact.value_abs]
  rw [Ellipse.reachSq, ← hnorm]
  have habs := abs_mul_abs_self (exact.value c.glow)
  linear_combination exact.value (⟨a / c.xScale, b / c.yScale⟩ : Vector2 F).norm *
    exact.value (⟨a / c.xScale, b / c.yScale⟩ : Vector2 F).norm * exact.value c.outerRadius *
    exact.value c.outerRadius * habs

theorem reach_nonneg (hradius : 0 ≤ exact.value c.outerRadius) (a b : F) :
    0 ≤ exact.value (c.reach a b) := by
  simp only [reach, exact.value_mul, exact.value_abs]
  exact mul_nonneg (mul_nonneg (value_norm exact _).1 hradius) (abs_nonneg _)

variable [FloorRing K] [Rounding F]

/-- **A pixel inside of the glow is in the box.** -/
theorem mem_box (hrounding : ExactRounding exact.toExactOperations)
    (hdirection : exact.value c.velocity ≤ 50 ∨
      exact.value c.direction.x ≠ 0 ∨ exact.value c.direction.y ≠ 0)
    (hradius : 0 ≤ exact.value c.outerRadius) {x y : ℤ}
    (hinside : Raster.Inside (width : ℤ) height (x, y))
    (hpixel : (c.pixel width height x y).isSome = true) :
    ((c.low width height).1 ≤ x ∧ x < (c.high width height).1) ∧
      (c.low width height).2 ≤ y ∧ y < (c.high width height).2 := by
  obtain ⟨⟨hx, hx'⟩, hy, hy'⟩ := hinside
  obtain ⟨hyScale, hxScale⟩ := scales_pos exact c
  have hunit := unit_aunit exact c hdirection
  -- the glow is at most as wide as the ellipse that the box is for
  have hglow : exact.value (c.distSq width height x y) ≤
      exact.value (c.radiusSq * c.glow * c.glow) := by
    rw [pixel] at hpixel
    split_ifs at hpixel with hlt
    · refine (exact.lt_iff.1 hlt).le.trans ?_
      rw [glowSq, exact.value_min]
      exact min_le_left _ _
    · cases hpixel
  rw [value_distSq] at hglow
  have hsq := Ellipse.sq_le_reach_mul (a := (exact.value c.aunit.x, exact.value c.aunit.y))
    (p := c.place exact width height x y) hunit hxScale.ne' hyScale.ne'
  have hsq' := Ellipse.sq_le_reach_mul' (a := (exact.value c.aunit.x, exact.value c.aunit.y))
    (p := c.place exact width height x y) hunit hxScale.ne' hyScale.ne'
  obtain ⟨hleft, hright⟩ := Ellipse.within_reach hsq (Ellipse.reachSq_nonneg _ _ _ _) hglow
    (reach_nonneg exact c hradius c.aunit.x c.bunit.x) (value_reach exact c _ _)
  obtain ⟨htop, hbottom⟩ := Ellipse.within_reach hsq' (Ellipse.reachSq_nonneg _ _ _ _) hglow
    (reach_nonneg exact c hradius c.aunit.y c.bunit.y) (by
      rw [value_reach, bunit, exact.value_neg])
  -- so the corners of the box are on the right sides, though they are rounded
  have hhalf : ((1 / 2 : ℚ) : K) = 1 / 2 := by norm_num
  have hlow : ∀ {center reach : F} {i : ℤ}, 0 ≤ i →
      -exact.value reach ≤ (i : K) + (1 / 2 : ℚ) - exact.value center →
      Rounding.toInt (center - reach) ≤ i := fun hi h ↦ by
    rw [hhalf] at h
    rw [hrounding.toInt_eq, exact.value_sub]
    exact Ellipse.truncate_le_of_reach hi h
  have hhigh : ∀ {center reach : F} {i : ℤ}, 0 ≤ i →
      (i : K) + (1 / 2 : ℚ) - exact.value center ≤ exact.value reach →
      i < Rounding.toInt (center + reach + lit 1) := fun hi h ↦ by
    rw [hhalf] at h
    rw [hrounding.toInt_eq, exact.value_add, exact.value_add, exact.value_one]
    exact Ellipse.lt_truncate_of_reach hi h
  have hx₀ := hlow hx hleft
  have hx₁ := hhigh hx hright
  have hy₀ := hlow hy htop
  have hy₁ := hhigh hy hbottom
  simp only [low, high, clampBound, xx, yy]
  omega

end CircleArguments

variable [FloorRing K] [Rounding F]

/-- **The box leaves nothing out.** With exact arithmetic, unless there is a velocity without a
direction, every pixel of the image is what the formula gives for it, and transparent where it gives
nothing. -/
theorem rasterCircle_pixels [IsStrictOrderedRing K]
    (hrounding : ExactRounding exact.toExactOperations)
    (image : LPImage) (c : CircleArguments F) (hcolors : image.colors.isSome = true)
    (hdirection : exact.value c.velocity ≤ 50 ∨
      exact.value c.direction.x ≠ 0 ∨ exact.value c.direction.y ≠ 0)
    (hradius : 0 ≤ exact.value c.outerRadius) :
    ∃ result, image.rasterCircle c = some result ∧ result.width = image.width ∧
      result.height = image.height ∧ result.hotspot = image.hotspot ∧
      ∀ x y, Raster.Inside (image.width : ℤ) image.height (x, y) → result.pixelAt x y =
        some ((c.pixel image.width image.height x y).getD 0) := by
  obtain ⟨colors, hscan, hsized, hpixels⟩ :=
    Raster.scan_full (f := c.pixel image.width image.height)
      (sized_transparent image.width image.height) (c.low image.width image.height)
      (c.high image.width image.height) ⟨(clampBound_mem _ _).1, (clampBound_mem _ _).1⟩
      ⟨(clampBound_mem _ _).2, (clampBound_mem _ _).2⟩
      fun x y hinside hpixel ↦ c.mem_box exact hrounding hdirection hradius hinside hpixel
  obtain ⟨result, hresult, hwidth, hheight, hhotspot, hresultColors⟩ :=
    rasterCircle_of_scan hcolors hscan hsized
  refine ⟨result, hresult, hwidth, hheight, hhotspot, fun x y hinside ↦ ?_⟩
  rw [pixelAt, hresultColors, Option.bind_some, hwidth, hpixels x y hinside,
    pixel_transparent hinside]
  cases c.pixel image.width image.height x y <;> rfl

end Exact

/-- An image of the size of an icon. -/
def iconImage : LPImage where
  hotspot := (50, 50)
  width := 100
  height := 100
  colors := some (List.replicate 10000 0)
  sized := by
    rintro pixels ⟨⟩
    exact List.length_replicate

/-- A circle that moves to the right. -/
def movingCircle : CircleArguments F where
  centerOffset := ⟨lit 0, lit 0⟩
  direction := ⟨lit 1000, lit 0⟩
  velocity := lit 1000
  outerRadius := lit 10
  borderRadius := lit 5
  glow := lit 1
  r := lit 255
  g := lit 255
  b := lit 255
  a := lit 1

theorem rasterCircle_pixels_moving :
    letI := realArithmetic
    letI := realRounding
    ∃ result, iconImage.rasterCircle (movingCircle : CircleArguments ℝ) = some result ∧
      ∀ x y, Raster.Inside 100 100 (x, y) → result.pixelAt x y =
        some (((movingCircle : CircleArguments ℝ).pixel 100 100 x y).getD 0) := by
  let _ : Arithmetic ℝ := realArithmetic
  let _ : Rounding ℝ := realRounding
  have hdirection : ((1000 : ℚ) : ℝ) ≠ 0 := by norm_num
  have hradius : (0 : ℝ) ≤ (10 : ℚ) := by norm_num
  obtain ⟨result, hresult, -, -, -, hpixels⟩ :=
    rasterCircle_pixels ExactRoots.real ExactRounding.real iconImage movingCircle rfl
      (.inr (.inl hdirection)) hradius
  exact ⟨result, hresult, hpixels⟩

end LPImage

end Touchless
