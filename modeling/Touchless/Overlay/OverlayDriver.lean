import Touchless.Foundations.PartialRun
import Touchless.Foundations.SortedAssoc
import Touchless.Overlay.LPImageChannels

/-!
# The overlay driver

`OverlayDriver` of `Overlay/Overlay.cpp` has an image for every icon. `drawRasterIcon` draws the
image of an icon anew, moves the icon and shows it, `setIconVisibility` shows or hides it, and on
the Mac the icons that are shown are kept in a set of pointers, from which `LPOverlay::Flush`
publishes.

* No call reaches outside of the vectors, and the set has the icons that are visible and no others
  (`Consistent`, `Consistent.exec`).
* What the icons show is a matter of the last calls about each of them: the driver follows a
  `Picture`, in which an icon is drawn by its arguments (`run_shows`).
* So whatever was called, `Flush` publishes the rasters of the last drawings of the icons that are
  shown (`flush_run`).

Icons are shared by pointers; here they are told by their places in the vector, and the set by the
addresses of the icons, which are arbitrary but different.
-/

namespace Touchless

/-- The casts between `float` and `LPFloat`. -/
structure LPFloatCasts (F : Type) where
  toLPFloat : F → LPFloat
  toFloat : LPFloat → F

namespace LPImage

/-- The constructor. -/
def construct : LPImage where
  hotspot := (0, 0)
  width := 0
  height := 0
  colors := none
  sized := by simp

/-- `InitImage`. `fresh` is what happens to be in the array that is allocated. -/
def initImage (fresh : ℕ → UInt32) (width height : ℕ) (hotspot : Option (ℤ × ℤ)) : LPImage where
  hotspot := hotspot.getD (width / 2, height / 2)
  width := width
  height := height
  colors := some ((List.range (width * height)).map fresh)
  sized := by
    rintro pixels ⟨⟩
    rw [List.length_map, List.length_range]

/-- An image of the size of an icon, into which can be drawn. -/
structure IsIcon (image : LPImage) : Prop where
  width : image.width = iconImage.width
  height : image.height = iconImage.height
  hotspot : image.hotspot = iconImage.hotspot
  colors : image.colors.isSome = true

theorem isIcon_initImage (fresh : ℕ → UInt32) : (initImage fresh 100 100 none).IsIcon where
  width := rfl
  height := rfl
  hotspot := by rw [initImage, iconImage]; norm_num
  colors := rfl

/-- What is drawn does not depend on what was there. -/
theorem IsIcon.rasterCircle {F : Type} [Arithmetic F] [Rounding F] {image : LPImage}
    (h : image.IsIcon) (c : CircleArguments F) :
    ∃ result, image.rasterCircle c = some result ∧ iconImage.rasterCircle c = some result ∧
      result.IsIcon := by
  have hsame : image.rasterCircle c = iconImage.rasterCircle c := by
    obtain ⟨hotspot, width, height, colors, sized⟩ := image
    obtain ⟨hwidth, hheight, hhotspot, hcolors⟩ := h
    dsimp only at hwidth hheight hhotspot hcolors
    subst hwidth hheight hhotspot
    cases colors with
    | none => cases hcolors
    | some old => rfl
  obtain ⟨result, hresult, hwidth, hheight, hhotspot, hpixels⟩ :=
    rasterCircle_isSome iconImage c rfl
  refine ⟨result, hsame.trans hresult, hresult, hwidth, hheight, hhotspot, ?_⟩
  -- its first pixel is there
  have hpixel := hpixels 0 0 ⟨by decide, by decide⟩
  rcases hcolors : result.colors with _ | colors
  · rw [pixelAt, hcolors, Option.bind_none] at hpixel
    split_ifs at hpixel
  · rfl

end LPImage

/-- An icon (`LPIconMac`), with its image by its place among those of the driver. -/
structure OverlayPoint where
  image : Option ℕ
  position : LPPoint
  visible : Bool

/-- The members of `OverlayDriver`. -/
structure OverlayDriver where
  overlayImages : List LPImage
  overlayPoints : List OverlayPoint
  numOverlayPoints : ℤ
  numOverlayImages : ℤ
  filledImageIdx : ℤ
  useProceduralOverlay : Bool
  /-- the icons of `m_overlay`, by their addresses -/
  icons : OrderedMap ℕ ℕ

/-- The arguments of `drawRasterIcon` but for the icon and its visibility; the number of fingers is
not used. -/
structure RasterIcon (F : Type) where
  x : F
  y : F
  velocity : Vector3 F
  touchDistance : F
  radius : F
  clampDistance : F
  alphaMult : F

namespace OverlayDriver

/-! ### The functions -/

/-- The constructor. -/
def construct : OverlayDriver where
  overlayImages := []
  overlayPoints := []
  numOverlayPoints := 0
  numOverlayImages := 0
  filledImageIdx := 0
  useProceduralOverlay := true
  icons := .empty

/-- `LPIcon::New`. -/
def newPoint : OverlayPoint := ⟨none, LPPoint.zero, false⟩

/-- `initializeOverlay`. `file` has the numbers in `icons.txt`. The images in the files are not
loaded on the Mac: `SetImage` of a file name only drops what was there. -/
def initializeOverlay (file : Option (ℤ × ℤ)) (fresh : ℕ → ℕ → UInt32) (d : OverlayDriver) :
    OverlayDriver :=
  let numOverlayPoints : ℤ := 32
  let (numOverlayImages, filledImageIdx) : ℤ × ℤ :=
    if d.useProceduralOverlay then (numOverlayPoints, 0)
    else
      match file with
      | some (numOverlayImages, filledImageIdx) => (numOverlayImages, filledImageIdx - 1)
      | none => (32, 24)
  let overlayImages :=
    d.overlayImages ++ List.replicate numOverlayImages.toNat LPImage.construct
  { d with
    numOverlayPoints := numOverlayPoints
    numOverlayImages := numOverlayImages
    filledImageIdx :=
      if filledImageIdx ≥ numOverlayImages then
        if 0 < numOverlayImages then numOverlayImages - 1 else 0
      else filledImageIdx
    overlayPoints := d.overlayPoints ++ List.replicate numOverlayPoints.toNat newPoint
    overlayImages :=
      if d.useProceduralOverlay then
        overlayImages.mapIdx fun i image ↦
          if (i : ℤ) < numOverlayImages then LPImage.initImage (fresh i) 100 100 none else image
      else overlayImages }

/-- `setIconVisibility`. -/
def setIconVisibility (address : ℕ → ℕ) (index : ℤ) (visible : Bool) (d : OverlayDriver) :
    Option OverlayDriver :=
  if index < 0 ∨ index ≥ d.numOverlayPoints then some d
  else do
    let i := index.toNat
    let point ← d.overlayPoints[i]?
    some { d with
      overlayPoints := d.overlayPoints.set i { point with visible := visible }
      -- `AddIcon` and `RemoveIcon`
      icons := if visible then d.icons.insert (address i) i else d.icons.erase (address i) }

section Numbers

variable {F : Type} [Arithmetic F]

/-- `acceptableClampDistance`. -/
def acceptableClampDistance : F := lit (3 / 5)

/-- `touchDistanceToRadius`. -/
def touchDistanceToRadius (touchDistance : F) : F :=
  lit 40 * Arithmetic.min (Arithmetic.max touchDistance (lit 0)) (lit (7 / 10)) + lit 10

variable [Rounding F]

/-- `fmod(x, 1)`. -/
def fmodOne (x : F) : F := x - lit (Rounding.toInt x)

/-- What `drawRasterIcon` gives to `RasterCircle`. -/
def circleArguments (icon : RasterIcon F) : LPImage.CircleArguments F :=
  let touching := Arithmetic.lt icon.touchDistance (lit 0)
  let velXY : Vector2 F := ⟨icon.velocity.x, icon.velocity.y⟩
  { centerOffset := ⟨fmodOne icon.x, lit 1 - fmodOne icon.y⟩
    direction := velXY
    velocity := velXY.norm
    outerRadius := icon.radius
    borderRadius :=
      if touching then lit 2
      else Arithmetic.min icon.radius
        (lit (5 / 2) + Arithmetic.max (lit 0) (lit 15 - icon.radius))
    glow :=
      Arithmetic.max (-icon.touchDistance * lit 2) (lit 0) + if touching then lit 3 else lit 1
    r := if touching then lit 100 else lit 255
    g := if touching then lit 225 else lit 255
    b := if touching then lit 100 else lit 255
    a := Arithmetic.min (lit 1 - icon.touchDistance * icon.touchDistance) (lit 1) *
      (lit 1 - Arithmetic.min (lit 1) (icon.clampDistance / acceptableClampDistance)) *
      icon.alphaMult }

variable (casts : LPFloatCasts F) (address : ℕ → ℕ)

/-- Where an icon is put. -/
def iconPosition (x y : F) : LPPoint := ⟨casts.toLPFloat x, casts.toLPFloat y⟩

/-- `drawRasterIcon`. -/
def drawRasterIcon (iconIndex : ℤ) (visible : Bool) (icon : RasterIcon F) (d : OverlayDriver) :
    Option OverlayDriver :=
  if iconIndex < 0 ∨ iconIndex ≥ d.numOverlayPoints then some d
  else do
    let i := iconIndex.toNat
    let d ←
      if visible then do
        let image ← d.overlayImages[i]?
        let image ← image.rasterCircle (circleArguments icon)
        let point ← d.overlayPoints[i]?
        some { d with
          overlayImages := d.overlayImages.set i image
          overlayPoints := d.overlayPoints.set i
            { point with image := some i, position := iconPosition casts icon.x icon.y } }
      else some d
    d.setIconVisibility address iconIndex visible

/-- `drawImageIcon`. -/
def drawImageIcon (iconIndex imageIndex : ℤ) (x y : F) (visible : Bool) (d : OverlayDriver) :
    Option OverlayDriver :=
  if (iconIndex < 0 ∨ iconIndex ≥ d.numOverlayPoints) ∨
      imageIndex < 0 ∨ imageIndex ≥ d.numOverlayImages then some d
  else do
    let i := iconIndex.toNat
    let point ← d.overlayPoints[i]?
    let _ ← d.overlayImages[imageIndex.toNat]?
    let d := { d with
      overlayPoints := d.overlayPoints.set i
        { point with image := some imageIndex.toNat, position := iconPosition casts x y } }
    d.setIconVisibility address iconIndex visible

/-- The calls that change what is shown. -/
inductive Call (F : Type) where
  | setIconVisibility (index : ℤ) (visible : Bool)
  | drawRasterIcon (iconIndex : ℤ) (visible : Bool) (icon : RasterIcon F)
  | drawImageIcon (iconIndex imageIndex : ℤ) (x y : F) (visible : Bool)

/-- A call, if it reaches what is there only. -/
def exec (d : OverlayDriver) : Call F → Option OverlayDriver
  | .setIconVisibility index visible => d.setIconVisibility address index visible
  | .drawRasterIcon iconIndex visible icon => d.drawRasterIcon casts address iconIndex visible icon
  | .drawImageIcon iconIndex imageIndex x y visible =>
    d.drawImageIcon casts address iconIndex imageIndex x y visible

/-- The driver after the calls. -/
def run (d : OverlayDriver) (calls : List (Call F)) : Option OverlayDriver :=
  calls.foldlM (exec casts address) d

end Numbers

/-- An icon as `Flush` reads it. -/
def icon? (d : OverlayDriver) (i : ℕ) : Option LPIcon :=
  d.overlayPoints[i]?.map fun point ↦
    { visibility := point.visible
      position := point.position
      image := point.image.bind fun k ↦ d.overlayImages[k]? }

/-- The icons of the set, in the order of their addresses. -/
def shownIcons (d : OverlayDriver) : List ℕ := d.icons.entries.map Prod.snd

/-- `flushOverlay`: what `Flush` publishes. -/
def flushOverlay (d : OverlayDriver) (fresh : ℕ → UInt32) (mainDisplayHeight : LPFloat) :
    Option LPOverlayCache :=
  LPOverlay.flush fresh mainDisplayHeight (d.shownIcons.filterMap d.icon?)

/-! ### What every call keeps -/

section Consistency

variable {F : Type} [Arithmetic F] [Rounding F] {casts : LPFloatCasts F} {address : ℕ → ℕ}
  {d : OverlayDriver}

/-- What holds of the driver at all times. -/
structure Consistent (address : ℕ → ℕ) (d : OverlayDriver) : Prop where
  count : d.overlayPoints.length = 32
  numPoints : d.numOverlayPoints = d.overlayPoints.length
  numImages : d.numOverlayImages = d.overlayImages.length
  procedural : d.useProceduralOverlay = true
  paired : d.overlayImages.length = d.overlayPoints.length
  images : ∀ image ∈ d.overlayImages, image.IsIcon
  sources : ∀ point ∈ d.overlayPoints, ∀ k, point.image = some k → k < d.overlayImages.length
  /-- the set has the icons that are visible -/
  listed : ∀ key i, d.icons.find? key = some i ↔
    key = address i ∧ ∃ point, d.overlayPoints[i]? = some point ∧ point.visible = true

/-- An index is out of range, or there is an icon and its image. -/
theorem Consistent.index_cases (h : d.Consistent address) (index : ℤ) :
    ((index < 0 ∨ index ≥ d.numOverlayPoints) ∧ ∀ i < d.overlayPoints.length, (i : ℤ) ≠ index) ∨
      ¬(index < 0 ∨ index ≥ d.numOverlayPoints) ∧ (index.toNat : ℤ) = index ∧
        ∃ point image, d.overlayPoints[index.toNat]? = some point ∧
          d.overlayImages[index.toNat]? = some image ∧ image.IsIcon := by
  have hnum := h.numPoints
  have hpaired := h.paired
  by_cases hrange : index < 0 ∨ index ≥ d.numOverlayPoints
  · exact .inl ⟨hrange, fun i hi ↦ by omega⟩
  · have hpoint : index.toNat < d.overlayPoints.length := by omega
    have himage : index.toNat < d.overlayImages.length := by omega
    exact .inr ⟨hrange, by omega, _, _, List.getElem?_eq_getElem hpoint,
      List.getElem?_eq_getElem himage, h.images _ (List.getElem_mem himage)⟩

/-- An icon is moved, or gets another image. -/
theorem Consistent.setPoint (h : d.Consistent address) {i : ℕ} {point new : OverlayPoint}
    (hpoint : d.overlayPoints[i]? = some point) (hvisible : new.visible = point.visible)
    (hsource : ∀ k, new.image = some k → k < d.overlayImages.length) :
    ({ d with overlayPoints := d.overlayPoints.set i new } : OverlayDriver).Consistent address where
  count := by simpa using h.count
  numPoints := by simpa using h.numPoints
  numImages := h.numImages
  procedural := h.procedural
  paired := by simpa using h.paired
  images := h.images
  sources := by
    intro p hp k hk
    rcases List.mem_or_eq_of_mem_set hp with hp | rfl
    · exact h.sources p hp k hk
    · exact hsource k hk
  listed := by
    intro key j
    rw [h.listed, List.getElem?_set]
    split_ifs with hj hi
    · subst hj
      simp [hpoint, hvisible]
    · exact absurd (List.getElem?_eq_some_iff.1 hpoint).1 hi
    · rfl

/-- An image is drawn anew. -/
theorem Consistent.setImage (h : d.Consistent address) (i : ℕ) {image : LPImage}
    (himage : image.IsIcon) :
    ({ d with overlayImages := d.overlayImages.set i image } : OverlayDriver).Consistent
      address where
  count := h.count
  numPoints := h.numPoints
  numImages := by simpa using h.numImages
  procedural := h.procedural
  paired := by simpa using h.paired
  images := by
    intro other hother
    rcases List.mem_or_eq_of_mem_set hother with hother | rfl
    · exact h.images other hother
    · exact himage
  sources := by simpa using h.sources
  listed := h.listed

/-- **What `setIconVisibility` does**: nothing fails, and the icon of the index is shown or hidden,
in the set as well. -/
theorem Consistent.setIconVisibility (haddress : Function.Injective address)
    (h : d.Consistent address) (index : ℤ) (visible : Bool) :
    ∃ d', d.setIconVisibility address index visible = some d' ∧ d'.Consistent address ∧
      d'.overlayImages = d.overlayImages ∧
      ∀ i : ℕ, d'.overlayPoints[i]? = d.overlayPoints[i]?.map fun point ↦
        if (i : ℤ) = index then { point with visible := visible } else point := by
  rcases h.index_cases index with ⟨hrange, hother⟩ | ⟨hrange, hindex, point, image, hpoint, -, -⟩
  · refine ⟨d, if_pos hrange, h, rfl, fun i ↦ ?_⟩
    rcases hp : d.overlayPoints[i]? with _ | point
    · rfl
    · rw [Option.map_some, if_neg (hother i (List.getElem?_eq_some_iff.1 hp).1)]
  · rw [OverlayDriver.setIconVisibility, if_neg hrange]
    generalize index.toNat = n at hindex hpoint ⊢
    subst hindex
    have hlength := (List.getElem?_eq_some_iff.1 hpoint).1
    have hpoints : ∀ i : ℕ, (d.overlayPoints.set n { point with visible := visible })[i]? =
        d.overlayPoints[i]?.map fun point ↦
          if (i : ℤ) = n then { point with visible := visible } else point := by
      intro i
      rw [List.getElem?_set]
      split_ifs with hi hi' hi'
      · subst hi
        simp [hpoint]
      · omega
      · omega
      · simp
    simp only [hpoint, Option.bind_eq_bind, Option.bind_some]
    refine ⟨_, rfl, ⟨by simpa using h.count, by simpa using h.numPoints, h.numImages, h.procedural,
      by simpa using h.paired, h.images, ?_, ?_⟩, rfl, hpoints⟩
    · intro p hp k hk
      rcases List.mem_or_eq_of_mem_set hp with hp | rfl
      · exact h.sources p hp k hk
      · exact h.sources point (List.mem_of_getElem? hpoint) k hk
    · intro key i
      dsimp only
      rw [hpoints]
      -- the key of another icon is another key
      by_cases hi : i = n
      · subst hi
        cases visible with
        | false =>
          simp only [Bool.false_eq_true, if_false, OrderedMap.find?_erase, hpoint, Option.map_some,
            if_true]
          split_ifs with hkey
          · simp
          · simp [h.listed, hkey]
        | true =>
          simp only [if_true, OrderedMap.find?_insert, hpoint, Option.map_some]
          split_ifs with hkey
          · simp [hkey]
          · simp [h.listed, hkey]
      · have hne : (i : ℤ) ≠ n := by omega
        have hmap : (d.overlayPoints[i]?.map fun point ↦
            if (i : ℤ) = n then { point with visible := visible } else point) =
              d.overlayPoints[i]? := by
          simp [hne]
        rw [hmap, ← h.listed]
        by_cases hkey : key = address n
        · subst hkey
          have hold : ¬d.icons.find? (address n) = some i := fun hfind ↦
            hi (haddress ((h.listed _ _).1 hfind).1).symm
          cases visible with
          | false => simp [OrderedMap.find?_erase, hold]
          | true => simp [OrderedMap.find?_insert, hold, Ne.symm hi]
        · cases visible with
          | false => simp [OrderedMap.find?_erase, hkey]
          | true => simp [OrderedMap.find?_insert, hkey]

/-- **What `drawRasterIcon` does**: the icon is drawn anew, moved and shown, or hidden. -/
theorem Consistent.drawRasterIcon (haddress : Function.Injective address)
    (h : d.Consistent address) (iconIndex : ℤ) (visible : Bool) (icon : RasterIcon F) :
    ∃ d', d.drawRasterIcon casts address iconIndex visible icon = some d' ∧
      d'.Consistent address ∧
      (∀ i : ℕ, d'.overlayPoints[i]? = d.overlayPoints[i]?.map fun point ↦
        if (i : ℤ) = iconIndex then
          if visible then ⟨some i, iconPosition casts icon.x icon.y, true⟩
          else { point with visible := false }
        else point) ∧
      ∀ i : ℕ, d'.overlayImages[i]? = d.overlayImages[i]?.bind fun image ↦
        if (i : ℤ) = iconIndex ∧ visible = true then
          LPImage.iconImage.rasterCircle (circleArguments icon)
        else some image := by
  rcases h.index_cases iconIndex with
    ⟨hrange, hother⟩ | ⟨hrange, hindex, point, image, hpoint, himage, hicon⟩
  · refine ⟨d, if_pos hrange, h, fun i ↦ ?_, fun i ↦ ?_⟩
    · rcases hp : d.overlayPoints[i]? with _ | point
      · rfl
      · rw [Option.map_some, if_neg (hother i (List.getElem?_eq_some_iff.1 hp).1)]
    · rcases hp : d.overlayImages[i]? with _ | image
      · rfl
      · have hi := (List.getElem?_eq_some_iff.1 hp).1
        rw [h.paired] at hi
        rw [Option.bind_some, if_neg fun hi' ↦ hother i hi hi'.1]
  · rw [OverlayDriver.drawRasterIcon, if_neg hrange]
    cases visible with
    | false =>
      obtain ⟨d', hd', hconsistent, himages, hpoints⟩ :=
        h.setIconVisibility haddress iconIndex false
      exact ⟨d', hd', hconsistent, by simpa using hpoints, fun i ↦ by simp [himages]⟩
    | true =>
      obtain ⟨result, hresult, hresult', hicon'⟩ := hicon.rasterCircle (circleArguments icon)
      generalize iconIndex.toNat = n at hindex hpoint himage ⊢
      subst hindex
      have hn := (List.getElem?_eq_some_iff.1 himage).1
      -- the icon is moved and its image is drawn, and then it is shown
      have hdrawn : ({ d with
          overlayImages := d.overlayImages.set n result
          overlayPoints := d.overlayPoints.set n
            { point with image := some n, position := iconPosition casts icon.x icon.y } } :
            OverlayDriver).Consistent address :=
        (h.setImage n hicon').setPoint hpoint rfl fun k hk ↦ by
          obtain rfl := Option.some.inj hk
          rwa [List.length_set]
      obtain ⟨d', hd', hconsistent, himages, hpoints⟩ :=
        hdrawn.setIconVisibility haddress n true
      refine ⟨d', ?_, hconsistent, fun i ↦ ?_, fun i ↦ ?_⟩
      · simpa only [if_true, himage, hresult, hpoint, Option.bind_eq_bind, Option.bind_some]
          using hd'
      · rw [hpoints]
        by_cases hi : i = n
        · subst hi
          simp [(List.getElem?_eq_some_iff.1 hpoint).1]
        · simp [hi, Ne.symm hi]
      · rw [himages]
        by_cases hi : i = n
        · subst hi
          simp [hn, hresult']
        · simp [hi, Ne.symm hi]

omit [Arithmetic F] [Rounding F] in
/-- `drawImageIcon` shows an image that is there. -/
theorem Consistent.drawImageIcon (haddress : Function.Injective address)
    (h : d.Consistent address) (iconIndex imageIndex : ℤ) (x y : F) (visible : Bool) :
    ∃ d', d.drawImageIcon casts address iconIndex imageIndex x y visible = some d' ∧
      d'.Consistent address := by
  rw [OverlayDriver.drawImageIcon]
  by_cases hrange : (iconIndex < 0 ∨ iconIndex ≥ d.numOverlayPoints) ∨
      imageIndex < 0 ∨ imageIndex ≥ d.numOverlayImages
  · exact ⟨d, if_pos hrange, h⟩
  · rw [if_neg hrange]
    rw [not_or] at hrange
    rcases h.index_cases iconIndex with hout | ⟨-, -, point, -, hpoint, -, -⟩
    · exact absurd hout.1 hrange.1
    · have hk : imageIndex.toNat < d.overlayImages.length := by
        have hnum := h.numImages
        omega
      have hmoved : ({ d with overlayPoints := d.overlayPoints.set iconIndex.toNat { point with
          image := some imageIndex.toNat, position := iconPosition casts x y } } :
          OverlayDriver).Consistent address :=
        h.setPoint hpoint rfl fun k hk' ↦ Option.some.inj hk' ▸ hk
      obtain ⟨d', hd', hconsistent, -, -⟩ := hmoved.setIconVisibility haddress iconIndex visible
      refine ⟨d', ?_, hconsistent⟩
      simpa only [hpoint, List.getElem?_eq_getElem hk, Option.bind_eq_bind, Option.bind_some]
        using hd'

/-- **No call reaches outside of the vectors**, and what holds at all times goes on to hold. -/
theorem Consistent.exec (haddress : Function.Injective address) (h : d.Consistent address)
    (call : Call F) : ∃ d', d.exec casts address call = some d' ∧ d'.Consistent address := by
  cases call with
  | setIconVisibility index visible =>
    obtain ⟨d', hd', hconsistent, -⟩ := h.setIconVisibility haddress index visible
    exact ⟨d', hd', hconsistent⟩
  | drawRasterIcon iconIndex visible icon =>
    obtain ⟨d', hd', hconsistent, -⟩ := h.drawRasterIcon haddress iconIndex visible icon
    exact ⟨d', hd', hconsistent⟩
  | drawImageIcon iconIndex imageIndex x y visible =>
    exact h.drawImageIcon haddress iconIndex imageIndex x y visible

/-- What `initializeOverlay` sets up. -/
theorem initializeOverlay_construct (file : Option (ℤ × ℤ)) (fresh : ℕ → ℕ → UInt32) :
    construct.initializeOverlay file fresh =
      { overlayImages := (List.replicate 32 LPImage.construct).mapIdx fun i image ↦
          if (i : ℤ) < 32 then LPImage.initImage (fresh i) 100 100 none else image
        overlayPoints := List.replicate 32 newPoint
        numOverlayPoints := 32
        numOverlayImages := 32
        filledImageIdx := 0
        useProceduralOverlay := true
        icons := .empty } := rfl

/-- **The driver after `initializeOverlay`.** -/
theorem consistent_initializeOverlay (file : Option (ℤ × ℤ)) (fresh : ℕ → ℕ → UInt32) :
    (construct.initializeOverlay file fresh).Consistent address := by
  rw [initializeOverlay_construct]
  constructor
  case count => simp
  case numPoints => simp
  case numImages => simp
  case procedural => rfl
  case paired => simp
  case images =>
    intro image himage
    dsimp only at himage
    rw [List.mem_mapIdx] at himage
    rcases himage with ⟨i, hi, himage⟩
    have hlt : (i : ℤ) < 32 := by
      rw [List.length_replicate] at hi
      omega
    rw [if_pos hlt] at himage
    rw [← himage]
    exact LPImage.isIcon_initImage _
  case sources =>
    intro point hpoint k hk
    rw [List.eq_of_mem_replicate hpoint] at hk
    cases hk
  case listed =>
    intro key i
    constructor
    · intro hfind
      rw [OrderedMap.find?_empty] at hfind
      cases hfind
    · rintro ⟨-, point, hpoint, hvisible⟩
      rw [List.eq_of_mem_replicate (List.mem_of_getElem? hpoint)] at hvisible
      cases hvisible

end Consistency

/-! ### What the icons show -/

section Pictures

variable {F : Type} [Arithmetic F] [Rounding F]

/-- What is known of an icon: is it shown, and what was drawn last? -/
structure Shown (F : Type) where
  visible : Bool
  drawn : Option (RasterIcon F)

/-- What the icons show. -/
def Picture (F : Type) : Type := ℕ → Shown F

namespace Picture

/-- Nothing has been drawn. -/
def empty : Picture F := fun _ ↦ ⟨false, none⟩

/-- A call changes what is known of one icon. -/
def exec (pic : Picture F) : Call F → Picture F
  | .setIconVisibility index visible => fun i ↦
    if (i : ℤ) = index then { pic i with visible := visible } else pic i
  | .drawRasterIcon iconIndex visible icon => fun i ↦
    if (i : ℤ) = iconIndex then
      if visible then ⟨true, some icon⟩ else { pic i with visible := false }
    else pic i
  | .drawImageIcon _ _ _ _ _ => pic

/-- What the icons show after the calls. -/
def run (calls : List (Call F)) : Picture F := calls.foldl exec empty

end Picture

/-- Is it no call of `drawImageIcon`? Nobody calls it, as `useProceduralOverlay` is asked before. -/
def Call.isProcedural : Call F → Bool
  | .drawImageIcon _ _ _ _ _ => false
  | _ => true

variable (casts : LPFloatCasts F) (address : ℕ → ℕ)

/-- The raster that an icon is to show. -/
def Shown.raster (shown : Shown F) : Option LPOverlay.Raster :=
  if shown.visible then do
    let icon ← shown.drawn
    let image ← LPImage.iconImage.rasterCircle (circleArguments icon)
    LPOverlay.raster? ⟨true, iconPosition casts icon.x icon.y, some image⟩
  else none

/-- An icon shows what was drawn last. -/
def OverlayPoint.IsDrawn (d : OverlayDriver) (i : ℕ) (point : OverlayPoint) :
    Option (RasterIcon F) → Prop
  | none => point.image = none
  | some icon => point.image = some i ∧ point.position = iconPosition casts icon.x icon.y ∧
      d.overlayImages[i]? = LPImage.iconImage.rasterCircle (circleArguments icon)

/-- The driver shows a picture. -/
structure Shows (d : OverlayDriver) (pic : Picture F) : Prop extends d.Consistent address where
  shown : ∀ i point, d.overlayPoints[i]? = some point →
    point.visible = (pic i).visible ∧ OverlayPoint.IsDrawn casts d i point (pic i).drawn

variable {casts address} {d d' : OverlayDriver} {pic : Picture F}

/-- What an icon shows depends on its image and its position only. -/
theorem OverlayPoint.IsDrawn.congr {i : ℕ} {point point' : OverlayPoint}
    {drawn : Option (RasterIcon F)} (h : OverlayPoint.IsDrawn casts d i point drawn)
    (himage : point'.image = point.image) (hposition : point'.position = point.position)
    (himages : d'.overlayImages[i]? = d.overlayImages[i]?) :
    OverlayPoint.IsDrawn casts d' i point' drawn := by
  cases drawn with
  | none => exact himage.trans h
  | some icon => exact ⟨himage.trans h.1, hposition.trans h.2.1, himages.trans h.2.2⟩

/-- **A call keeps what the driver shows.** -/
theorem Shows.exec (haddress : Function.Injective address) (h : Shows casts address d pic)
    {call : Call F} (hcall : call.isProcedural = true) :
    ∃ d', d.exec casts address call = some d' ∧ Shows casts address d' (pic.exec call) := by
  cases call with
  | setIconVisibility index visible =>
    obtain ⟨d', hd', hconsistent, himages, hpoints⟩ :=
      h.toConsistent.setIconVisibility haddress index visible
    refine ⟨d', hd', hconsistent, fun i point hpoint ↦ ?_⟩
    rw [hpoints, Option.map_eq_some_iff] at hpoint
    obtain ⟨old, hold, rfl⟩ := hpoint
    obtain ⟨hvisible, hdrawn⟩ := h.shown i old hold
    dsimp only [Picture.exec]
    split_ifs
    · exact ⟨rfl, hdrawn.congr rfl rfl (by rw [himages])⟩
    · exact ⟨hvisible, hdrawn.congr rfl rfl (by rw [himages])⟩
  | drawRasterIcon iconIndex visible icon =>
    obtain ⟨d', hd', hconsistent, hpoints, himages⟩ :
        ∃ d', d.drawRasterIcon casts address iconIndex visible icon = some d' ∧ _ :=
      h.toConsistent.drawRasterIcon haddress iconIndex visible icon
    refine ⟨d', hd', hconsistent, fun i point hpoint ↦ ?_⟩
    rw [hpoints, Option.map_eq_some_iff] at hpoint
    obtain ⟨old, hold, rfl⟩ := hpoint
    obtain ⟨hvisible, hdrawn⟩ := h.shown i old hold
    have himage : i < d.overlayImages.length :=
      h.paired ▸ (List.getElem?_eq_some_iff.1 hold).1
    have himages := himages i
    rw [List.getElem?_eq_getElem himage, Option.bind_some] at himages
    dsimp only [Picture.exec]
    by_cases hi : (i : ℤ) = iconIndex
    · cases visible with
      | true =>
        rw [if_pos ⟨hi, rfl⟩] at himages
        rw [if_pos hi, if_pos hi]
        exact ⟨rfl, rfl, rfl, himages⟩
      | false =>
        rw [if_neg (by simp), ← List.getElem?_eq_getElem himage] at himages
        rw [if_pos hi, if_pos hi]
        exact ⟨rfl, hdrawn.congr rfl rfl himages⟩
    · rw [if_neg (fun h ↦ hi h.1), ← List.getElem?_eq_getElem himage] at himages
      rw [if_neg hi, if_neg hi]
      exact ⟨hvisible, hdrawn.congr rfl rfl himages⟩
  | drawImageIcon => cases hcall

/-- Nothing is shown at the start. -/
theorem shows_initializeOverlay (file : Option (ℤ × ℤ)) (fresh : ℕ → ℕ → UInt32) :
    Shows casts address (construct.initializeOverlay file fresh) .empty where
  toConsistent := consistent_initializeOverlay file fresh
  shown := by
    intro i point hpoint
    rw [initializeOverlay_construct] at hpoint
    rw [List.eq_of_mem_replicate (List.mem_of_getElem? hpoint)]
    exact ⟨rfl, rfl⟩

/-- **The driver shows the picture of the calls**, whatever they are. -/
theorem run_shows (haddress : Function.Injective address) (file : Option (ℤ × ℤ))
    (fresh : ℕ → ℕ → UInt32) {calls : List (Call F)}
    (hcalls : ∀ call ∈ calls, call.isProcedural = true) :
    ∃ d, (construct.initializeOverlay file fresh).run casts address calls = some d ∧
      Shows casts address d (.run calls) :=
  PartialRun.foldlM_simulates (shows_initializeOverlay file fresh)
    fun _ _ call hcall h ↦ h.exec haddress (hcalls call hcall)

/-! ### What `Flush` publishes -/

/-- The icons of the set are those that the picture shows, in the order of their addresses. -/
theorem Shows.shownIcons (h : Shows casts address d pic) :
    d.shownIcons.Perm ((List.range 32).filter fun i ↦ (pic i).visible) ∧
      d.shownIcons.Pairwise fun i j ↦ address i < address j := by
  have hentry : ∀ entry ∈ d.icons.entries, entry.1 = address entry.2 := fun entry hentry ↦
    ((h.listed _ _).1 (OrderedMap.mem_entries.1 hentry)).1
  have hsorted : d.shownIcons.Pairwise fun i j ↦ address i < address j := by
    rw [OverlayDriver.shownIcons, List.pairwise_map]
    refine d.icons.sorted.imp_of_mem fun {a b} ha hb hlt ↦ ?_
    rw [← hentry a ha, ← hentry b hb]
    exact hlt
  have hnodup : d.shownIcons.Nodup := hsorted.imp fun hlt heq ↦ by simp [heq] at hlt
  refine ⟨(List.perm_ext_iff_of_nodup hnodup (List.nodup_range.filter _)).2 fun i ↦ ?_, hsorted⟩
  have hmem : i ∈ d.shownIcons ↔
      ∃ point, d.overlayPoints[i]? = some point ∧ point.visible = true := by
    rw [OverlayDriver.shownIcons, List.mem_map]
    constructor
    · rintro ⟨entry, hmem, rfl⟩
      exact ((h.listed _ _).1 (OrderedMap.mem_entries.1 hmem)).2
    · intro hpoint
      exact ⟨(address i, i), OrderedMap.mem_entries.2 ((h.listed _ _).2 ⟨rfl, hpoint⟩), rfl⟩
  rw [hmem, List.mem_filter, List.mem_range, ← h.count]
  constructor
  · rintro ⟨point, hpoint, hvisible⟩
    exact ⟨(List.getElem?_eq_some_iff.1 hpoint).1, (h.shown i point hpoint).1 ▸ hvisible⟩
  · rintro ⟨hi, hvisible⟩
    refine ⟨_, List.getElem?_eq_getElem hi, ?_⟩
    rw [(h.shown i _ (List.getElem?_eq_getElem hi)).1, hvisible]

/-- The raster that is copied for an icon is that of the picture. -/
theorem Shows.raster (h : Shows casts address d pic) {i : ℕ} (hi : i < 32) :
    (d.icon? i).bind LPOverlay.raster? = (pic i).raster casts := by
  obtain ⟨point, hpoint⟩ : ∃ point, d.overlayPoints[i]? = some point :=
    ⟨_, List.getElem?_eq_getElem (h.count ▸ hi)⟩
  obtain ⟨hvisible, hdrawn⟩ := h.shown i point hpoint
  rw [icon?, hpoint, Option.map_some, Option.bind_some, Shown.raster, ← hvisible]
  obtain ⟨source, position, visible⟩ := point
  cases visible with
  | false => rfl
  | true =>
    cases hpic : (pic i).drawn with
    | none =>
      rw [hpic] at hdrawn
      obtain rfl : source = none := hdrawn
      rfl
    | some icon =>
      rw [hpic] at hdrawn
      obtain ⟨rfl, rfl, himage⟩ := hdrawn
      obtain ⟨image, -, hresult, -⟩ :=
        (LPImage.IsIcon.mk rfl rfl rfl rfl : LPImage.iconImage.IsIcon).rasterCircle
          (circleArguments icon)
      simp only [Option.bind_some, himage, hresult, Option.bind_eq_bind, if_true]

/-- **What `Flush` publishes.** Whatever was called, no call fails; when no icon is shown, `Flush`
takes everything away, and else it publishes the rasters of the last drawings of the icons that are
shown, in the order of their addresses. -/
theorem flush_run (casts : LPFloatCasts F) (address : ℕ → ℕ)
    (haddress : Function.Injective address) (file : Option (ℤ × ℤ)) (fresh : ℕ → ℕ → UInt32)
    (calls : List (Call F)) (hcalls : ∀ call ∈ calls, call.isProcedural = true)
    (freshData : ℕ → UInt32) (mainDisplayHeight : LPFloat) :
    ∃ d order, (construct.initializeOverlay file fresh).run casts address calls = some d ∧
      order.Perm ((List.range 32).filter fun i ↦ (Picture.run calls i).visible) ∧
      order.Pairwise (fun i j ↦ address i < address j) ∧
      (order = [] → d.flushOverlay freshData mainDisplayHeight = none) ∧
      (order ≠ [] → ∃ cache, d.flushOverlay freshData mainDisplayHeight = some cache ∧
        cache.mainDisplayHeight = mainDisplayHeight ∧
        cache.overlayImageBoundingBox =
          (order.filterMap fun i ↦ (Picture.run calls i).raster casts).map LPOverlay.Raster.box ∧
        cache.buffer = ((order.filterMap fun i ↦ (Picture.run calls i).raster casts).map
          LPOverlay.Raster.pixels).flatten) := by
  obtain ⟨d, hrun, hshows⟩ :
      ∃ d, (construct.initializeOverlay file fresh).run casts address calls = some d ∧
        Shows casts address d (.run calls) := run_shows haddress file fresh hcalls
  obtain ⟨hperm, hsorted⟩ := hshows.shownIcons
  have hrange : ∀ i ∈ d.shownIcons, i < 32 := fun i hi ↦
    List.mem_range.1 (List.mem_filter.1 (hperm.mem_iff.1 hi)).1
  have hicons : ∀ i ∈ d.shownIcons, (d.icon? i).isSome = true := fun i hi ↦ by
    rw [icon?, List.getElem?_eq_getElem (hshows.count ▸ hrange i hi)]
    rfl
  have hrasters : LPOverlay.rasters (d.shownIcons.filterMap d.icon?) =
      d.shownIcons.filterMap fun i ↦ (Picture.run calls i).raster casts := by
    rw [LPOverlay.rasters, List.filterMap_filterMap]
    exact List.filterMap_congr fun i hi ↦ hshows.raster (hrange i hi)
  refine ⟨d, d.shownIcons, hrun, hperm, hsorted, fun hnil ↦ ?_, fun hne ↦ ?_⟩
  · rw [flushOverlay, hnil]
    rfl
  · have hnonempty : (d.shownIcons.filterMap d.icon?).isEmpty = false := by
      obtain ⟨i, hi⟩ := List.exists_mem_of_ne_nil _ hne
      obtain ⟨icon, hicon⟩ := Option.isSome_iff_exists.1 (hicons i hi)
      exact List.isEmpty_eq_false_iff_exists_mem.2 ⟨icon, List.mem_filterMap.2 ⟨i, hi, hicon⟩⟩
    obtain ⟨cache, hcache⟩ :
        ∃ cache, d.flushOverlay freshData mainDisplayHeight = some cache := by
      rw [flushOverlay, LPOverlay.flush, hnonempty]
      exact ⟨_, rfl⟩
    obtain ⟨hboxes, hheight, hbuffer⟩ := LPOverlay.flush_spec hcache
    rw [hrasters] at hboxes hbuffer
    exact ⟨cache, hcache, hheight, hboxes, hbuffer⟩

end Pictures

/-- An icon in the middle of a screen. -/
def middleIcon : RasterIcon ℚ where
  x := 960
  y := 540
  velocity := ⟨0, 0, 0⟩
  touchDistance := 0
  radius := 10
  clampDistance := 0
  alphaMult := 1

theorem flush_run_middle :
    letI := rationalArithmetic id
    letI := rationalRounding
    ∃ d cache, (construct.initializeOverlay none fun _ _ ↦ 0).run (F := ℚ) ⟨id, id⟩ id
        [.setIconVisibility 1 true, .drawRasterIcon 0 true middleIcon,
          .setIconVisibility 1 false] = some d ∧
      d.flushOverlay (fun _ ↦ 0) 1080 = some cache := by
  let _ : Arithmetic ℚ := rationalArithmetic id
  let _ : Rounding ℚ := rationalRounding
  obtain ⟨d, order, hrun, hperm, -, -, hcache⟩ :=
    flush_run (F := ℚ) ⟨id, id⟩ id Function.injective_id none (fun _ _ ↦ 0)
      [.setIconVisibility 1 true, .drawRasterIcon 0 true middleIcon, .setIconVisibility 1 false]
      (by decide) (fun _ ↦ 0) 1080
  have hshown : (List.range 32).filter (fun i ↦ (Picture.run
      [.setIconVisibility 1 true, .drawRasterIcon 0 true middleIcon,
        .setIconVisibility 1 false] i).visible) = [0] := by decide
  rw [hshown] at hperm
  obtain ⟨cache, hflush, -⟩ := hcache fun hnil ↦ by simp [hnil] at hperm
  exact ⟨d, cache, hrun, hflush⟩

end OverlayDriver

end Touchless
