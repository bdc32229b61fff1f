import Touchless.Foundations.Packing
import Touchless.OSInteraction.OSInteractionWin

/-!
# The overlay

`LPOverlay::Flush` copies the rasters of all visible icons into one buffer, next to the list of
their bounding boxes, and `drawRect` uploads from it the icons that lie on one display. `drawRect`
moves its address only past the icons that it draws, so it is right as long as no icon with pixels
that lies off the display comes before one that it draws (`drawRect_faithful_iff`).
-/

namespace Touchless

open OSInteractionDriverWin (toInt)

/-- The members of `LPImage` that the overlay reads. -/
structure LPImage where
  hotspot : ℤ × ℤ
  width : ℕ
  height : ℕ
  /-- `m_colors` -/
  colors : Option (List UInt32)
  /-- the raster has the size of the image -/
  sized : ∀ pixels, colors = some pixels → pixels.length = width * height

/-- An icon. -/
structure LPIcon where
  visibility : Bool
  position : LPPoint
  image : Option LPImage

structure LPOverlayCache where
  overlayImageBoundingBox : List LPRect
  mainDisplayHeight : LPFloat
  data : Option (List UInt32)

/-- What the data of a cache holds. -/
def LPOverlayCache.buffer (cache : LPOverlayCache) : List UInt32 := cache.data.getD []

namespace LPOverlay

/-! ### `Flush` -/

/-- The bounding box of an image at a position. -/
def boundingBox (position : LPPoint) (image : LPImage) : LPRect where
  origin := ⟨(⌊position.x⌋ - image.hotspot.1 : ℤ), (⌊position.y⌋ - image.hotspot.2 : ℤ)⟩
  size := ⟨image.width, image.height⟩

/-- The first pass: the bounding boxes, and the number of pixels. -/
def measure : List LPIcon → List LPRect × ℕ → List LPRect × ℕ
  | [], result => result
  | icon :: icons, (boxes, size) =>
    if icon.visibility then
      match icon.image with
      | some image =>
        if image.colors.isSome then
          measure icons (boxes ++ [boundingBox icon.position image],
            size + image.width * image.height)
        else measure icons (boxes, size)
      | none => measure icons (boxes, size)
    else measure icons (boxes, size)

/-- The second pass: the rasters are copied. -/
def copyRasters : List LPIcon → List UInt32 × ℕ → List UInt32 × ℕ
  | [], result => result
  | icon :: icons, (address, offset) =>
    if icon.visibility then
      match icon.image with
      | some image =>
        match image.colors with
        | some imageSource =>
          copyRasters icons
            (Packing.copy address offset imageSource, offset + image.width * image.height)
        | none => copyRasters icons (address, offset)
      | none => copyRasters icons (address, offset)
    else copyRasters icons (address, offset)

/-- `Flush`. `fresh` is what happens to be in the buffer that is allocated; `new` does not return a
null pointer, so the branch for one is left out. -/
def flush (fresh : ℕ → UInt32) (mainDisplayHeight : LPFloat) (icons : List LPIcon) :
    Option LPOverlayCache :=
  if icons.isEmpty then none
  else
    let (boxes, size) := measure icons ([], 0)
    some
      { overlayImageBoundingBox := boxes
        mainDisplayHeight := mainDisplayHeight
        data :=
          if 0 < size then some (copyRasters icons ((List.range size).map fresh, 0)).1 else none }

/-! ### `drawRect` -/

/-- The members of `LPOpenGLView`. -/
structure LPOpenGLView where
  overlayCache : Option LPOverlayCache
  isInitialized : Bool
  isDirty : Bool
  isShown : Bool

/-- A texture that is uploaded, and the quad that it is drawn on. -/
structure Upload where
  /-- the texture, and so the bounding box -/
  index : ℕ
  x : LPFloat
  y : LPFloat
  width : ℤ
  height : ℤ
  /-- the address, from the start of the data -/
  address : ℕ

/-- The pixels between the address and the end of the texture. -/
def pixelCount (iconRect : LPRect) : ℕ :=
  (toInt iconRect.size.width * toInt iconRect.size.height).toNat

variable (intersects : LPRect → LPRect → Bool)

/-- The loop over the bounding boxes. `intersects` is `CGRectIntersection` with a result that is not
null. -/
def drawTextures (rect : LPRect) : ℕ → ℕ → List LPRect → List Upload
  | _, _, [] => []
  | index, address, iconRect :: boxes =>
    if intersects rect iconRect then
      { index := index
        x := iconRect.origin.x - rect.origin.x
        y := rect.size.height - iconRect.size.height - iconRect.origin.y + rect.origin.y
        width := toInt iconRect.size.width
        height := toInt iconRect.size.height
        address := address } ::
        drawTextures rect (index + 1) (address + pixelCount iconRect) boxes
    else drawTextures rect (index + 1) address boxes

/-- The frame of a window in screen coordinates, which count from the upper left corner. -/
def screenRect (mainDisplayHeight : LPFloat) (frame : LPRect) : LPRect :=
  { frame with
    origin := ⟨frame.origin.x, mainDisplayHeight - (frame.origin.y + frame.size.height)⟩ }

/-- `drawRect`, with what it uploads. `frame` is the frame of the window. -/
def drawRect (frame : LPRect) (view : LPOpenGLView) : LPOpenGLView × List Upload :=
  match view.overlayCache with
  | none => ({ view with isDirty := false, isShown := false }, [])
  | some cache =>
    let boxes := cache.overlayImageBoundingBox
    let rect := screenRect cache.mainDisplayHeight frame
    let render := view.isDirty || boxes.any (intersects rect)
    if render then
      let uploads := drawTextures intersects rect 0 0 boxes
      ({ view with
          isInitialized := true
          isDirty := !uploads.isEmpty
          isShown := if view.isShown && boxes.isEmpty then false
            else if !view.isShown && !boxes.isEmpty then true else view.isShown }, uploads)
    else ({ view with isDirty := false }, [])

/-- `setOverlayCache`. -/
def setOverlayCache (view : LPOpenGLView) (cache : Option LPOverlayCache) : LPOpenGLView :=
  { view with overlayCache := cache }

/-! ### What `Flush` leaves -/

/-- A raster that is copied, with its bounding box. -/
structure Raster where
  box : LPRect
  pixels : List UInt32
  /-- the box tells the number of pixels -/
  sized : pixels.length = pixelCount box

theorem pixelCount_boundingBox (position : LPPoint) (image : LPImage) :
    pixelCount (boundingBox position image) = image.width * image.height := by
  have htoInt : ∀ n : ℕ, toInt (n : LPFloat) = n := fun n ↦ by
    rw [toInt, if_pos (Nat.cast_nonneg n), Int.floor_natCast]
  rw [pixelCount, boundingBox]
  simp only [htoInt]
  exact_mod_cast Int.toNat_natCast (image.width * image.height)

/-- The raster of an icon, if there is one to copy. -/
def raster? (icon : LPIcon) : Option Raster :=
  if icon.visibility then
    match icon.image with
    | some image =>
      match h : image.colors with
      | some pixels =>
        some ⟨boundingBox icon.position image, pixels,
          by rw [pixelCount_boundingBox, image.sized pixels h]⟩
      | none => none
    | none => none
  else none

/-- The rasters of the icons, in order. -/
def rasters (icons : List LPIcon) : List Raster := icons.filterMap raster?

/-- One icon: both passes skip it, or both take its raster. -/
theorem rasters_cons_cases (icon : LPIcon) :
    (∀ icons, rasters (icon :: icons) = rasters icons ∧
      (∀ result, measure (icon :: icons) result = measure icons result) ∧
      ∀ result, copyRasters (icon :: icons) result = copyRasters icons result) ∨
    ∃ r : Raster, ∀ icons, rasters (icon :: icons) = r :: rasters icons ∧
      (∀ boxes size, measure (icon :: icons) (boxes, size) =
        measure icons (boxes ++ [r.box], size + r.pixels.length)) ∧
      ∀ address offset, copyRasters (icon :: icons) (address, offset) =
        copyRasters icons (Packing.copy address offset r.pixels, offset + r.pixels.length) := by
  obtain ⟨visibility, position, image⟩ := icon
  cases visibility with
  | false => exact .inl fun _ ↦ ⟨rfl, fun _ ↦ rfl, fun _ ↦ rfl⟩
  | true =>
    cases image with
    -- an icon without an image is skipped, as is an image without pixels
    | none => exact .inl fun _ ↦ ⟨rfl, fun _ ↦ rfl, fun _ ↦ rfl⟩
    | some image =>
      obtain ⟨hotspot, width, height, colors, hsized⟩ := image
      cases colors with
      | none => exact .inl fun _ ↦ ⟨rfl, fun _ ↦ rfl, fun _ ↦ rfl⟩
      | some pixels =>
        refine .inr ⟨_, fun icons ↦ ⟨rfl, fun boxes size ↦ ?_, fun address offset ↦ ?_⟩⟩
        · rw [hsized pixels rfl]
          rfl
        · rw [hsized pixels rfl]
          rfl

/-- **The first pass.** -/
theorem measure_eq (icons : List LPIcon) : ∀ boxes size, measure icons (boxes, size) =
    (boxes ++ (rasters icons).map Raster.box,
      size + ((rasters icons).map Raster.pixels).flatten.length) := by
  induction icons with
  | nil => simp [measure, rasters]
  | cons icon icons ih =>
    intro boxes size
    rcases rasters_cons_cases icon with hskip | ⟨r, htake⟩
    · obtain ⟨hrasters, hmeasure, -⟩ := hskip icons
      rw [hmeasure, ih, hrasters]
    · obtain ⟨hrasters, hmeasure, -⟩ := htake icons
      rw [hmeasure, ih, hrasters]
      simp [Nat.add_assoc]

/-- **The second pass.** -/
theorem copyRasters_eq (icons : List LPIcon) : ∀ address offset,
    copyRasters icons (address, offset) =
      Packing.copyAll address offset ((rasters icons).map Raster.pixels) := by
  induction icons with
  | nil => exact fun _ _ ↦ rfl
  | cons icon icons ih =>
    intro address offset
    rcases rasters_cons_cases icon with hskip | ⟨r, htake⟩
    · obtain ⟨hrasters, -, hcopy⟩ := hskip icons
      rw [hcopy, ih, hrasters]
    · obtain ⟨hrasters, -, hcopy⟩ := htake icons
      rw [hcopy, ih, hrasters]
      rfl

/-- **What `Flush` leaves**: the boxes and, one behind the other, the pixels of the rasters. -/
theorem flush_spec {fresh : ℕ → UInt32} {mainDisplayHeight : LPFloat} {icons : List LPIcon}
    {cache : LPOverlayCache} (h : flush fresh mainDisplayHeight icons = some cache) :
    cache.overlayImageBoundingBox = (rasters icons).map Raster.box ∧
      cache.mainDisplayHeight = mainDisplayHeight ∧
      cache.buffer = ((rasters icons).map Raster.pixels).flatten := by
  rw [flush] at h
  split_ifs at h
  rw [measure_eq, Nat.zero_add, List.nil_append] at h
  obtain rfl := Option.some.inj h
  refine ⟨rfl, rfl, ?_⟩
  rw [LPOverlayCache.buffer]
  dsimp only
  split_ifs with hsize
  · rw [copyRasters_eq, Packing.copyAll_zero (by rw [List.length_map, List.length_range])]
    rfl
  · exact (List.eq_nil_of_length_eq_zero (by omega)).symm

/-- Only a set without icons leaves no cache. -/
theorem eq_nil_of_flush {fresh : ℕ → UInt32} {mainDisplayHeight : LPFloat} {icons : List LPIcon}
    (h : flush fresh mainDisplayHeight icons = none) : icons = [] := by
  rw [flush] at h
  split_ifs at h with hempty
  exact List.isEmpty_iff.1 hempty

/-! ### What `drawRect` uploads -/

/-- The pixels that an upload reads. -/
def Upload.count (u : Upload) : ℕ := (u.width * u.height).toNat

def Upload.pixels (u : Upload) (buffer : List UInt32) : List UInt32 :=
  (buffer.drop u.address).take u.count

/-- An upload reads the pixels that were copied for its icon. -/
structure Faithful (icons : List LPIcon) (cache : LPOverlayCache) (u : Upload) : Prop where
  /-- the address counts the pixels of all boxes before -/
  address : u.address = ((cache.overlayImageBoundingBox.take u.index).map pixelCount).sum
  pixels : (rasters icons)[u.index]?.map Raster.pixels = some (u.pixels cache.buffer)
  inBuffer : u.address + u.count ≤ cache.buffer.length

/-- No box with pixels off the display comes before one on it. -/
def NothingSkipped (rect : LPRect) (boxes : List LPRect) : Prop :=
  ∀ before box after, boxes = before ++ box :: after → intersects rect box = true →
    ∀ b ∈ before, intersects rect b = true ∨ pixelCount b = 0

variable {intersects} {rect frame : LPRect} {boxes : List LPRect} {view : LPOpenGLView}

/-- The upload for what the reader takes. -/
def uploadOf (rect : LPRect) (r : ℕ × ℕ × LPRect) : Upload where
  index := r.1
  x := r.2.2.origin.x - rect.origin.x
  y := rect.size.height - r.2.2.size.height - r.2.2.origin.y + rect.origin.y
  width := toInt r.2.2.size.width
  height := toInt r.2.2.size.height
  address := r.2.1

theorem drawTextures_eq (boxes : List LPRect) : ∀ index address,
    drawTextures intersects rect index address boxes =
      (Packing.reads (intersects rect) pixelCount index address boxes).map (uploadOf rect) := by
  induction boxes with
  | nil => exact fun _ _ ↦ rfl
  | cons box boxes ih =>
    intro index address
    rw [drawTextures, Packing.reads]
    split_ifs
    · rw [ih]
      rfl
    · exact ih _ _

/-- **What the loop uploads**: the boxes on the display, each from an address that counts the boxes
on the display before it. -/
theorem mem_drawTextures {u : Upload} : u ∈ drawTextures intersects rect 0 0 boxes ↔
    ∃ before box after, boxes = before ++ box :: after ∧ intersects rect box = true ∧
      u = uploadOf rect (before.length, ((before.filter (intersects rect)).map pixelCount).sum,
        box) := by
  rw [drawTextures_eq, List.mem_map]
  simp only [Packing.mem_reads, Nat.zero_add]
  constructor
  · rintro ⟨r, ⟨before, box, after, hsplit, hbox, rfl⟩, rfl⟩
    exact ⟨before, box, after, hsplit, hbox, rfl⟩
  · rintro ⟨before, box, after, hsplit, hbox, rfl⟩
    exact ⟨_, ⟨before, box, after, hsplit, hbox, rfl⟩, rfl⟩

/-- If `drawRect` does not come to the loop, the loop would do nothing. -/
theorem drawRect_uploads {cache : LPOverlayCache} :
    (drawRect intersects frame (setOverlayCache view (some cache))).2 =
      drawTextures intersects (screenRect cache.mainDisplayHeight frame) 0 0
        cache.overlayImageBoundingBox := by
  rw [drawRect, setOverlayCache]
  dsimp only
  by_cases hrender : (view.isDirty || cache.overlayImageBoundingBox.any
      (intersects (screenRect cache.mainDisplayHeight frame))) = true
  · rw [if_pos hrender]
  · rw [if_neg hrender]
    refine (List.eq_nil_iff_forall_not_mem.2 fun u hu ↦ hrender ?_).symm
    obtain ⟨before, box, after, hsplit, hbox, -⟩ := mem_drawTextures.1 hu
    rw [Bool.or_eq_true, List.any_eq_true]
    exact .inr ⟨box, by simp [hsplit], hbox⟩

/-- The pixels that lie before those of an icon are those of the boxes before its box. -/
theorem sum_pixelCount (rs : List Raster) :
    ((rs.map Raster.box).map pixelCount).sum = ((rs.map Raster.pixels).map List.length).sum := by
  rw [List.map_map, List.map_map]
  exact congrArg List.sum (List.map_congr_left fun r _ ↦ r.sized.symm)

/-- **An upload** is faithful exactly if nothing was skipped before it. -/
theorem faithful_iff {icons : List LPIcon} {cache : LPOverlayCache}
    (hboxes : cache.overlayImageBoundingBox = (rasters icons).map Raster.box)
    (hbuffer : cache.buffer = ((rasters icons).map Raster.pixels).flatten)
    {before after : List LPRect} {box : LPRect}
    (hsplit : cache.overlayImageBoundingBox = before ++ box :: after) :
    Faithful icons cache (uploadOf rect (before.length,
        ((before.filter (intersects rect)).map pixelCount).sum, box)) ↔
      ∀ b ∈ before, intersects rect b = true ∨ pixelCount b = 0 := by
  rw [← Packing.sum_skipped_iff]
  have htake : cache.overlayImageBoundingBox.take before.length = before := by
    rw [hsplit, List.take_left]
  constructor
  · intro h
    have haddress := h.address
    rwa [show (uploadOf rect (before.length, _, box)).index = before.length from rfl, htake]
      at haddress
  · intro h
    -- the icons split like their boxes
    obtain ⟨rsBefore, rest, hrs, hrsBefore, hrest⟩ := List.map_eq_append_iff.1 (hboxes ▸ hsplit)
    obtain ⟨r, rsAfter, rfl, rfl, -⟩ := List.map_eq_cons_iff.1 hrest
    have hpixels : (rasters icons).map Raster.pixels =
        rsBefore.map Raster.pixels ++ r.pixels :: rsAfter.map Raster.pixels := by
      rw [hrs, List.map_append, List.map_cons]
    have haddress : ((before.filter (intersects rect)).map pixelCount).sum =
        ((rsBefore.map Raster.pixels).map List.length).sum := by
      rw [h, ← hrsBefore, sum_pixelCount]
    refine ⟨?_, ?_, ?_⟩
    · show _ = ((cache.overlayImageBoundingBox.take before.length).map pixelCount).sum
      rw [htake]
      exact h
    · -- the pixels of the raster begin where the uploads before it have ended
      show (rasters icons)[before.length]?.map Raster.pixels =
        some ((cache.buffer.drop ((before.filter (intersects rect)).map pixelCount).sum).take
          (pixelCount r.box))
      have hindex : (rasters icons)[before.length]? = some r := by
        rw [hrs, ← hrsBefore, List.length_map, List.getElem?_append_right le_rfl, Nat.sub_self]
        rfl
      rw [hindex, haddress, hbuffer, ← r.sized, Packing.flatten_take_drop hpixels]
      rfl
    · show ((before.filter (intersects rect)).map pixelCount).sum + pixelCount r.box ≤ _
      rw [haddress, hbuffer, hpixels, List.length_flatten, ← r.sized]
      simp

/-- **`drawRect` is faithful**, for a flushed set of icons and a display, exactly if no icon with
pixels that is off the display comes before one that is on it. -/
theorem drawRect_faithful_iff (intersects : LPRect → LPRect → Bool) (fresh : ℕ → UInt32)
    (mainDisplayHeight : LPFloat) (icons : List LPIcon) (view : LPOpenGLView) (frame : LPRect) :
    (∀ cache, flush fresh mainDisplayHeight icons = some cache →
      ∀ u ∈ (drawRect intersects frame (setOverlayCache view (some cache))).2,
        Faithful icons cache u) ↔
    NothingSkipped intersects (screenRect mainDisplayHeight frame)
      ((rasters icons).map Raster.box) := by
  cases hflush : flush fresh mainDisplayHeight icons with
  | none =>
    refine ⟨fun _ before box after hsplit ↦ ?_, fun _ cache hcache ↦ by cases hcache⟩
    simp [eq_nil_of_flush hflush, rasters] at hsplit
  | some cache =>
    obtain ⟨hboxes, hheight, hbuffer⟩ := flush_spec hflush
    rw [← hboxes, ← hheight]
    constructor
    · intro h before box after hsplit hbox
      refine (faithful_iff hboxes hbuffer hsplit).1 (h cache rfl _ ?_)
      rw [drawRect_uploads, mem_drawTextures]
      exact ⟨before, box, after, hsplit, hbox, rfl⟩
    · rintro h _ hcache u hu
      obtain rfl := Option.some.inj hcache
      rw [drawRect_uploads, mem_drawTextures] at hu
      obtain ⟨before, box, after, hsplit, hbox, rfl⟩ := hu
      exact (faithful_iff hboxes hbuffer hsplit).2 (h before box after hsplit hbox)

/-- **Reads stay in the buffer**, whichever icons are drawn. -/
theorem drawRect_inBuffer (fresh : ℕ → UInt32) (mainDisplayHeight : LPFloat) (icons : List LPIcon)
    (view : LPOpenGLView) (frame : LPRect) {cache : LPOverlayCache}
    (hflush : flush fresh mainDisplayHeight icons = some cache) :
    ∀ u ∈ (drawRect intersects frame (setOverlayCache view (some cache))).2,
      u.address + u.count ≤ cache.buffer.length := by
  obtain ⟨hboxes, -, hbuffer⟩ := flush_spec hflush
  intro u hu
  rw [drawRect_uploads, mem_drawTextures] at hu
  obtain ⟨before, box, after, hsplit, -, rfl⟩ := hu
  have hkept := Packing.sum_kept_le (intersects (screenRect cache.mainDisplayHeight frame))
    pixelCount before
  have htotal : cache.buffer.length =
      (before.map pixelCount).sum + (pixelCount box + (after.map pixelCount).sum) := by
    rw [hbuffer, List.length_flatten, ← sum_pixelCount, ← hboxes, hsplit]
    simp
  show ((before.filter (intersects _)).map pixelCount).sum + pixelCount box ≤ _
  omega

/-- Rectangles with a common point inside. -/
def overlap (r s : LPRect) : Bool :=
  r.getMinX < s.getMaxX && s.getMinX < r.getMaxX && r.getMinY < s.getMaxY && s.getMinY < r.getMaxY

/-- An icon of one pixel on each of two displays. -/
def iconPerDisplay : List LPIcon :=
  [⟨true, ⟨100, 100⟩, some ⟨(0, 0), 1, 1, some [1], by simp⟩⟩,
    ⟨true, ⟨2020, 100⟩, some ⟨(0, 0), 1, 1, some [2], by simp⟩⟩]

/-- On the second display, the second icon is drawn with the pixel of the first. -/
theorem drawRect_faithful_iconPerDisplay :
    ¬∀ (fresh : ℕ → UInt32) mainDisplayHeight icons view frame cache,
      flush fresh mainDisplayHeight icons = some cache →
        ∀ u ∈ (drawRect overlap frame (setOverlayCache view (some cache))).2,
          Faithful icons cache u := by
  intro h
  let first : LPRect := boundingBox ⟨100, 100⟩ ⟨(0, 0), 1, 1, some [1], by simp⟩
  let second : LPRect := boundingBox ⟨2020, 100⟩ ⟨(0, 0), 1, 1, some [2], by simp⟩
  let frame : LPRect := ⟨⟨1920, 0⟩, ⟨1280, 1080⟩⟩
  obtain ⟨cache, hflush⟩ : ∃ cache, flush (fun _ ↦ 0) 1080 iconPerDisplay = some cache := ⟨_, rfl⟩
  obtain ⟨hboxes, hheight, hbuffer⟩ := flush_spec hflush
  have hsplit : cache.overlayImageBoundingBox = [first] ++ second :: [] := hboxes
  have hsecond : overlap (screenRect cache.mainDisplayHeight frame) second = true := by
    rw [hheight]
    norm_num [overlap, screenRect, frame, second, boundingBox, LPRect.getMinX, LPRect.getMinY,
      LPRect.getMaxX, LPRect.getMaxY]
  have hfirst : overlap (screenRect cache.mainDisplayHeight frame) first = false := by
    rw [hheight]
    norm_num [overlap, screenRect, frame, first, boundingBox, LPRect.getMinX, LPRect.getMinY,
      LPRect.getMaxX, LPRect.getMaxY]
  have hfaithful := h _ _ _ ⟨none, false, false, false⟩ frame cache hflush _
    (drawRect_uploads.symm ▸ mem_drawTextures.2 ⟨[first], second, [], hsplit, hsecond, rfl⟩)
  have hskipped := (faithful_iff hboxes hbuffer hsplit).1 hfaithful first List.mem_cons_self
  rw [hfirst, pixelCount_boundingBox] at hskipped
  simp at hskipped

end LPOverlay

end Touchless
