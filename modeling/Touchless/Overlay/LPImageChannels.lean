import Touchless.Overlay.LPImageRaster

/-!
# The channels of a pixel

`RasterCircle` blends two colors and multiplies the four channels of the result by an opacity. It
converts them to integers of 32 bits, of which only the low bytes are stored: a channel that leaves
its byte would wrap around. With exact arithmetic none does, as long as the color and the opacity of
the icon are in their ranges (`pixel_channels`): the weights of the blend are clamped, and the glow
is fainter than the icon.
-/

namespace Touchless

variable {F K : Type} [Arithmetic F] [Field K] [LinearOrder K]

/-- A blend of two colors in a range, at most as opaque as they are. -/
theorem blend_mem [IsStrictOrderedRing K] {top u v t s : K} (hu : u ∈ Set.Icc 0 top)
    (hv : v ∈ Set.Icc 0 top) (ht : t ∈ Set.Icc 0 1) (hs : s ∈ Set.Icc 0 1) :
    (u * t + v * (1 - t)) * s ∈ Set.Icc 0 top := by
  have hrest : 0 ≤ 1 - t := sub_nonneg.2 ht.2
  have hlow : 0 ≤ u * t + v * (1 - t) :=
    add_nonneg (mul_nonneg hu.1 ht.1) (mul_nonneg hv.1 hrest)
  have hhigh : u * t + v * (1 - t) ≤ top := by
    calc u * t + v * (1 - t) ≤ top * t + top * (1 - t) :=
          add_le_add (mul_le_mul_of_nonneg_right hu.2 ht.1)
            (mul_le_mul_of_nonneg_right hv.2 hrest)
      _ = top := by ring
  exact ⟨mul_nonneg hlow hs.1, (mul_le_of_le_one_right hlow hs.2).trans hhigh⟩

/-- The product of numbers of the unit interval. -/
theorem mul_mem_unit [IsStrictOrderedRing K] {s t : K} (hs : s ∈ Set.Icc 0 1)
    (ht : t ∈ Set.Icc 0 1) : s * t ∈ Set.Icc 0 1 :=
  ⟨mul_nonneg hs.1 ht.1, mul_le_one₀ hs.2 ht.1 ht.2⟩

namespace Lanes

variable (exact : ExactRoots F K)

/-- All channels are between zero and a bound. -/
structure Within (top : K) (v : Lanes F) : Prop where
  b : exact.value v.b ∈ Set.Icc 0 top
  g : exact.value v.g ∈ Set.Icc 0 top
  r : exact.value v.r ∈ Set.Icc 0 top
  a : exact.value v.a ∈ Set.Icc 0 top

variable {exact}

/-- Two colors are blended. -/
theorem Within.blend [IsStrictOrderedRing K] {top : K} {v w : Lanes F} {t s : F}
    (hv : v.Within exact top) (hw : w.Within exact top) (ht : exact.value t ∈ Set.Icc 0 1)
    (hs : exact.value s ∈ Set.Icc 0 1) :
    (((v.mul t).add (w.mul (lit 1 - t))).mul s).Within exact top where
  b := by simpa [mul, add] using blend_mem hv.b hw.b ht hs
  g := by simpa [mul, add] using blend_mem hv.g hw.g ht hs
  r := by simpa [mul, add] using blend_mem hv.r hw.r ht hs
  a := by simpa [mul, add] using blend_mem hv.a hw.a ht hs

variable [Rounding F] [FloorRing K]

/-- The low byte of a channel that has its place in it. -/
theorem toNat_setWidth_toInt32 [IsStrictOrderedRing K]
    (hrounding : ExactRounding exact.toExactOperations) {x : F}
    (hx : exact.value x ∈ Set.Icc 0 255) :
    ((toInt32 x).setWidth 8).toNat = truncate (exact.value x) := by
  have hle : truncate (exact.value x) ≤ 255 := by
    rw [truncate, if_pos hx.1]
    have hfloor := Int.floor_le_floor hx.2
    have h255 : ⌊(255 : K)⌋ = 255 := by exact_mod_cast Int.floor_natCast 255
    exact hfloor.trans_eq h255
  have hnonneg : 0 ≤ truncate (exact.value x) := by
    rw [truncate, if_pos hx.1]
    exact Int.floor_nonneg.2 hx.1
  rw [toInt32, hrounding.toInt_eq, if_pos (by omega), BitVec.toNat_setWidth, BitVec.toNat_ofInt]
  omega

variable (exact) in
/-- The pixel has the integer parts of the channels. -/
def IsStored (v : Lanes F) (pixel : UInt32) : Prop :=
  ∃ a r g b : BitVec 8, pixel.toBitVec = a ++ r ++ g ++ b ∧
    a.toNat = truncate (exact.value v.a) ∧ r.toNat = truncate (exact.value v.r) ∧
    g.toNat = truncate (exact.value v.g) ∧ b.toNat = truncate (exact.value v.b)

/-- **The bytes of a pixel**: each is the integer part of its channel. -/
theorem Within.finalColor [IsStrictOrderedRing K]
    (hrounding : ExactRounding exact.toExactOperations) {v : Lanes F} (hv : v.Within exact 255) :
    v.IsStored exact v.finalColor :=
  ⟨_, _, _, _, packedColor_eq _ _ _ _, toNat_setWidth_toInt32 hrounding hv.a,
    toNat_setWidth_toInt32 hrounding hv.r, toNat_setWidth_toInt32 hrounding hv.g,
    toNat_setWidth_toInt32 hrounding hv.b⟩

end Lanes

namespace LPImage.CircleArguments

variable {exact : ExactRoots F K} {c : CircleArguments F} {width height : ℕ}

/-- The color and the opacity are in their ranges. -/
structure Paintable (exact : ExactRoots F K) (c : CircleArguments F) : Prop where
  color : c.color.Within exact 255
  opacity : exact.value c.a ∈ Set.Icc 0 1
  radius : 0 < exact.value c.outerRadius

variable [IsStrictOrderedRing K]

theorem value_byte {q : ℚ} (hlow : 0 ≤ q) (hhigh : q ≤ 255) :
    exact.value (lit q) ∈ Set.Icc 0 255 := by
  rw [exact.value_lit]
  exact ⟨by exact_mod_cast hlow, by exact_mod_cast hhigh⟩

/-- The dark color. -/
theorem Paintable.dark (h : c.Paintable exact) : c.dark.Within exact 255 := by
  have hfifth : ∀ {x : F}, exact.value x ∈ Set.Icc 0 255 →
      exact.value (x * lit (1 / 5)) ∈ Set.Icc 0 255 := fun hx ↦ by
    obtain ⟨hlow, hhigh⟩ := hx
    rw [exact.value_mul, exact.value_lit]
    norm_num
    constructor <;> linarith
  have hwhite : ∀ {q : ℚ}, 0 ≤ q → q ≤ 1 → exact.value (lit q * (lit 255 : F)) ∈ Set.Icc 0 255 :=
    fun {q} hlow hhigh ↦ by
      have hlow' : (0 : K) ≤ q := by exact_mod_cast hlow
      have hhigh' : (q : K) ≤ 1 := by exact_mod_cast hhigh
      rw [exact.value_mul, exact.value_lit, exact.value_lit]
      norm_num
      constructor <;> linarith
  have hopaque : exact.value (lit 200 : F) ∈ Set.Icc 0 255 := value_byte (by norm_num) (by norm_num)
  rw [CircleArguments.dark]
  split_ifs
  · have hmult := hwhite (q := 1) (by norm_num) (by norm_num)
    exact ⟨hmult, hmult, hmult, hopaque⟩
  · have hmult := hwhite (q := 1 / 5) (by norm_num) (by norm_num)
    exact ⟨hmult, hmult, hmult, hopaque⟩
  · exact ⟨hfifth h.color.b, hfifth h.color.g, hfifth h.color.r, hopaque⟩

/-- The color of the inside is halfway to white. -/
theorem Paintable.gray (h : c.Paintable exact) : c.gray.Within exact 255 := by
  have hhalf : ∀ {x : F}, exact.value x ∈ Set.Icc 0 255 →
      exact.value ((x + lit 255) * lit (1 / 2)) ∈ Set.Icc 0 255 := fun hx ↦ by
    obtain ⟨hlow, hhigh⟩ := hx
    rw [exact.value_mul, exact.value_add, exact.value_lit, exact.value_lit]
    norm_num
    constructor <;> linarith
  exact ⟨hhalf h.color.b, hhalf h.color.g, hhalf h.color.r, hhalf h.color.a⟩

/-- A weight that is clamped. -/
theorem value_clamped (x : F) : exact.value
    (Arithmetic.max (lit 0) (Arithmetic.min (lit 1) x)) ∈ Set.Icc 0 1 := by
  rw [exact.value_max, exact.value_min, exact.value_zero, exact.value_one]
  exact ⟨le_max_left _ _, max_le zero_le_one (min_le_left _ _)⟩

/-- **The weights of a pixel inside of the glow.** -/
theorem Paintable.shading (h : c.Paintable exact) {distSq : F}
    (hglow : exact.value distSq < exact.value (c.glowSq width height)) :
    (c.shading width height distSq).1.Within exact 255 ∧
      exact.value (c.shading width height distSq).2.1 ∈ Set.Icc 0 1 ∧
      exact.value (c.shading width height distSq).2.2 ∈ Set.Icc 0 1 := by
  have hdiameter : 0 < exact.value (lit 2 * c.outerRadius) := by
    rw [exact.value_mul, exact.value_lit]
    exact mul_pos (by norm_num) h.radius
  rw [CircleArguments.shading]
  dsimp only
  split_ifs with hinside
  · -- inside of the ellipse: the border fades out, and the middle is darker
    refine ⟨h.gray, value_clamped _, ?_⟩
    have hblend : exact.value (Arithmetic.max (lit 0) (Arithmetic.min (lit 1)
        ((c.borderSq - distSq) / (lit 2 * c.outerRadius)))) ∈ Set.Icc 0 1 := value_clamped _
    generalize Arithmetic.max (lit 0) (Arithmetic.min (lit 1)
      ((c.borderSq - distSq) / (lit 2 * c.outerRadius))) = blend at hblend
    rw [exact.value_mul, exact.value_mul]
    refine mul_mem_unit (mul_mem_unit h.opacity ?_) ?_
    · rw [exact.value_min, exact.value_one, exact.value_div, exact.value_sub]
      exact ⟨le_min zero_le_one (div_nonneg (sub_nonneg.2 hglow.le) hdiameter.le),
        min_le_left _ _⟩
    · rw [exact.value_sub, exact.value_mul, exact.value_one, exact.value_lit]
      obtain ⟨hlow, hhigh⟩ := hblend
      norm_num
      constructor <;> linarith
  · -- in the glow: the opacity falls with the third power
    refine ⟨h.color, value_clamped _, ?_⟩
    have houtside : exact.value c.radiusSq ≤ exact.value distSq :=
      not_lt.1 fun hlt ↦ hinside (exact.lt_iff.2 hlt)
    have htemp : exact.value (lit 1 - (distSq - c.radiusSq) /
        (c.glowSq width height - c.radiusSq)) ∈ Set.Icc 0 1 := by
      rw [exact.value_sub, exact.value_one, exact.value_div, exact.value_sub, exact.value_sub]
      have hnumerator := sub_nonneg.2 houtside
      have hdenominator := sub_nonneg.2 (houtside.trans hglow.le)
      have hquotient := div_le_one_of_le₀ (sub_le_sub_right hglow.le (exact.value c.radiusSq))
        hdenominator
      exact ⟨sub_nonneg.2 hquotient, sub_le_self _ (div_nonneg hnumerator hdenominator)⟩
    generalize lit 1 - (distSq - c.radiusSq) / (c.glowSq width height - c.radiusSq) = temp at htemp
    rw [exact.value_mul, exact.value_mul, exact.value_mul, exact.value_mul]
    refine mul_mem_unit h.opacity (mul_mem_unit (mul_mem_unit (mul_mem_unit htemp htemp) htemp) ?_)
    rw [exact.value_lit]
    norm_num

variable [Rounding F] [FloorRing K]

/-- **No channel leaves its byte**: a pixel inside of the glow has the integer parts of the channels
of the blend. -/
theorem Paintable.pixel_channels (hrounding : ExactRounding exact.toExactOperations)
    (h : c.Paintable exact) {x y : ℤ} {color : UInt32}
    (hpixel : c.pixel width height x y = some color) :
    (c.blended width height (c.distSq width height x y)).IsStored exact color := by
  rw [pixel] at hpixel
  split_ifs at hpixel with hglow
  obtain rfl := Option.some.inj hpixel
  obtain ⟨horig, hblend, halpha⟩ := h.shading (exact.lt_iff.1 hglow)
  exact (horig.blend h.dark hblend halpha).finalColor hrounding

end LPImage.CircleArguments

end Touchless
