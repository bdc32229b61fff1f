import Mathlib.Data.List.Induction
import Touchless.Foundations.FirstLeast
import Touchless.Utility.LPVirtualScreen

/-!
# The closest screen

`ClipPosition` looks for the nearest active screen by the distance to the clipped position, and
`ClosestScreen` first for a screen that contains the position. On screens of whole pixels the two
agree in every layout (`clipPosition_closestScreen`).

The distance to the clipped position is not the distance to the screen: a position beyond the far
side is clipped to the last pixel, `maximum - 1`, and one within that pixel is left where it is.
Where the sides are at integers, no screen that contains the result is farther than the screen
found (`clipDistance_le_of_containsPoint`), and this is why clipping again finds the same screen.
-/

namespace Touchless

namespace LPVirtualScreen

/-- `ClosestScreen`. An index beyond the active screens is `none`. -/
def closestScreen (v : LPVirtualScreen) (position : LPPoint) : Option LPScreen :=
  if v.activeScreens.length > 1 then
    match v.activeScreens.find? fun screen ↦ screen.bounds.containsPoint position with
    | some screen => some screen
    | none => v.activeScreens[(v.clipPosition position).2]?
  else v.activeScreens[0]?

/-- The squared distance of a position from where a screen clips it to. -/
def clipDistance (position : LPPoint) (screen : LPScreen) : LPFloat :=
  distanceSquared position (clipTo screen.bounds position)

/-- A screen of whole pixels, at least one in each direction. -/
def OfPixels (screen : LPScreen) : Prop :=
  ∃ x y width height : ℤ, 1 ≤ width ∧ 1 ≤ height ∧
    screen.bounds = ⟨⟨(x : LPFloat), (y : LPFloat)⟩, ⟨(width : LPFloat), (height : LPFloat)⟩⟩

theorem OfPixels.hasPixel {screen : LPScreen} (h : OfPixels screen) : HasPixel screen := by
  obtain ⟨x, y, width, height, hwidth, hheight, hbounds⟩ := h
  rw [HasPixel, hbounds]
  exact ⟨Int.cast_one_le_of_pos (by omega), Int.cast_one_le_of_pos (by omega)⟩

/-! ### Distances -/

theorem distanceSquared_nonneg (p q : LPPoint) : 0 ≤ distanceSquared p q :=
  add_nonneg (mul_self_nonneg _) (mul_self_nonneg _)

@[simp]
theorem distanceSquared_self (p : LPPoint) : distanceSquared p p = 0 := by
  simp [distanceSquared]

theorem eq_of_distanceSquared_eq_zero {p q : LPPoint} (h : distanceSquared p q = 0) : p = q := by
  obtain ⟨hx, hy⟩ := (add_eq_zero_iff_of_nonneg (mul_self_nonneg _) (mul_self_nonneg _)).1 h
  exact LPPoint.ext (sub_eq_zero.1 (mul_self_eq_zero.1 hx))
    (sub_eq_zero.1 (mul_self_eq_zero.1 hy))

theorem clipCoordinate_eq_self {minimum maximum x : LPFloat} (h : minimum ≤ x) (h' : x < maximum) :
    clipCoordinate minimum maximum x = x := by
  rw [clipCoordinate]
  split_ifs with hlow hhigh
  · exact le_antisymm h hlow
  · exact absurd h' (not_lt.2 hhigh)
  · rfl

/-- A position on a screen is not clipped. -/
theorem clipTo_eq_self {screen : LPScreen} {position : LPPoint}
    (h : screen.bounds.containsPoint position) : clipTo screen.bounds position = position := by
  obtain ⟨hx, hx', hy, hy'⟩ := h
  exact LPPoint.ext (clipCoordinate_eq_self hx hx') (clipCoordinate_eq_self hy hy')

/-- The screens at distance 0 are those that contain the position. -/
theorem clipDistance_eq_zero_iff {screen : LPScreen} (h : HasPixel screen) (position : LPPoint) :
    clipDistance position screen = 0 ↔ screen.bounds.containsPoint position := by
  constructor
  · intro hzero
    have hclip := containsPoint_clipTo h position
    rwa [← eq_of_distanceSquared_eq_zero hzero] at hclip
  · intro hcontains
    rw [clipDistance, clipTo_eq_self hcontains, distanceSquared_self]

/-- On one axis, with sides at integers: what is clipped to one screen and lies on another is not
nearer to the position than what is clipped to the other. -/
theorem abs_sub_clipCoordinate_le {a b c d : ℤ} {x : LPFloat}
    (h : (c : LPFloat) ≤ clipCoordinate a b x) (h' : clipCoordinate a b x < d) :
    |x - clipCoordinate c d x| ≤ |x - clipCoordinate a b x| := by
  rcases le_or_gt x c with hlow | hlow
  · have hclip : clipCoordinate c d x = c := if_pos hlow
    rw [hclip, abs_of_nonpos (by linarith), abs_of_nonpos (by linarith)]
    linarith
  rcases lt_or_ge x d with hhigh | hhigh
  · rw [clipCoordinate_eq_self hlow.le hhigh, sub_self, abs_zero]
    exact abs_nonneg _
  have hclip : clipCoordinate (c : LPFloat) d x = d - 1 := by
    rw [clipCoordinate, if_neg (not_le.2 hlow), if_pos hhigh]
  -- beyond the far side: clipping to the first screen has led to its last pixel
  have hlast : clipCoordinate (a : LPFloat) b x ≤ d - 1 := by
    rw [clipCoordinate] at h' ⊢
    split_ifs at h' ⊢ with hlow' hhigh'
    · linarith
    · have hint : b - 1 < d := by exact_mod_cast h'
      have hint' : b ≤ d := by omega
      have hcast : (b : LPFloat) ≤ d := by exact_mod_cast hint'
      linarith
    · linarith
  rw [hclip, abs_of_nonneg (by linarith), abs_of_nonneg (by linarith)]
  linarith

/-- **A screen that contains what is clipped to another** is at least as near as the other. -/
theorem clipDistance_le_of_containsPoint {s t : LPScreen} (hs : OfPixels s) (ht : OfPixels t)
    {position : LPPoint} (h : t.bounds.containsPoint (clipTo s.bounds position)) :
    clipDistance position t ≤ clipDistance position s := by
  obtain ⟨x, y, width, height, -, -, hsBounds⟩ := hs
  obtain ⟨x', y', width', height', -, -, htBounds⟩ := ht
  simp only [LPRect.containsPoint, clipTo, LPRect.getMinX, LPRect.getMaxX, LPRect.getMinY,
    LPRect.getMaxY, hsBounds, htBounds, ← Int.cast_add] at h
  obtain ⟨hx, hx', hy, hy'⟩ := h
  simp only [clipDistance, distanceSquared, clipTo, LPRect.getMinX, LPRect.getMaxX, LPRect.getMinY,
    LPRect.getMaxY, hsBounds, htBounds, ← Int.cast_add]
  exact add_le_add (abs_le_iff_mul_self_le.1 (abs_sub_clipCoordinate_le hx hx'))
    (abs_le_iff_mul_self_le.1 (abs_sub_clipCoordinate_le hy hy'))

/-! ### The loop -/

theorem foldl_clipStep_concat (position : LPPoint) (screens : List LPScreen) (s : LPScreen) :
    (screens ++ [s]).zipIdx.foldl (clipStep position) none =
      clipStep position (screens.zipIdx.foldl (clipStep position) none) (s, screens.length) := by
  rw [List.zipIdx_append, List.foldl_append]
  simp

/-- The loop finds the first of the nearest screens. -/
theorem foldl_clipStep (position : LPPoint) {screens : List LPScreen} (hne : screens ≠ []) :
    ∃ i s, FirstLeast (clipDistance position) screens i s ∧
      screens.zipIdx.foldl (clipStep position) none =
        some ⟨clipTo s.bounds position, clipDistance position s, i⟩ := by
  induction screens using List.reverseRecOn with
  | nil => exact absurd rfl hne
  | append_singleton screens t ih =>
    rw [foldl_clipStep_concat]
    rcases eq_or_ne screens [] with rfl | hscreens
    · exact ⟨0, t, FirstLeast.singleton t, rfl⟩
    · obtain ⟨i, s, hleast, hfold⟩ := ih hscreens
      rw [hfold]
      rcases lt_or_ge (clipDistance position t) (clipDistance position s) with hlt | hle
      · exact ⟨_, t, hleast.append_of_lt hlt, if_pos hlt⟩
      · exact ⟨i, s, hleast.append_of_le hle, if_neg hle.not_gt⟩

/-- **What `ClipPosition` returns**: the index of the first of the nearest active screens, and the
position clipped to that screen. -/
theorem clipPosition_spec {v : LPVirtualScreen} (hne : v.activeScreens ≠ []) (position : LPPoint) :
    ∃ s, FirstLeast (clipDistance position) v.activeScreens (v.clipPosition position).2 s ∧
      (v.clipPosition position).1 = clipTo s.bounds position := by
  obtain ⟨i, s, hleast, hfold⟩ := foldl_clipStep position hne
  simp only [clipPosition, hfold]
  exact ⟨s, hleast, rfl⟩

/-- The result is determined by the first of the nearest screens. -/
theorem clipPosition_eq_of_firstLeast {v : LPVirtualScreen} {position : LPPoint} {i : ℕ}
    {s : LPScreen} (h : FirstLeast (clipDistance position) v.activeScreens i s) :
    v.clipPosition position = (clipTo s.bounds position, i) := by
  obtain ⟨t, hleast, hclipped⟩ := clipPosition_spec (List.ne_nil_of_mem h.mem) position
  have hindex := hleast.unique h
  have hscreen : t = s := Option.some.inj ((hindex ▸ hleast.get).symm.trans h.get)
  exact Prod.ext (hclipped.trans (by rw [hscreen])) hindex

/-- `ClosestScreen` finds the screen that `ClipPosition` names. -/
theorem closestScreen_eq {v : LPVirtualScreen} (hpixel : ∀ s ∈ v.activeScreens, HasPixel s)
    (position : LPPoint) :
    v.closestScreen position = v.activeScreens[(v.clipPosition position).2]? := by
  rw [closestScreen]
  split_ifs with hlength
  · cases hfind : v.activeScreens.find? fun screen ↦ screen.bounds.containsPoint position with
    | none => rfl
    | some s =>
      obtain ⟨i, hleast⟩ := FirstLeast.of_find?_eq_some
        (fun t _ ↦ distanceSquared_nonneg position (clipTo t.bounds position))
        (fun t ht ↦ by rw [decide_eq_true_iff]; exact
          (clipDistance_eq_zero_iff (hpixel t ht) position).symm) hfind
      rw [clipPosition_eq_of_firstLeast hleast]
      exact hleast.get.symm
  -- with one screen the index is 0, and with none nothing is found
  · match hscreens : v.activeScreens with
    | [] => rfl
    | [s] => rw [clipPosition, hscreens]; rfl
    | s :: t :: rest => exact absurd (by simp [hscreens]) hlength

/-- Clipping again finds the same screen. -/
theorem firstLeast_clipTo {v : LPVirtualScreen} (hpixels : ∀ s ∈ v.activeScreens, OfPixels s)
    {position : LPPoint} {i : ℕ} {s : LPScreen}
    (h : FirstLeast (clipDistance position) v.activeScreens i s) :
    FirstLeast (clipDistance (clipTo s.bounds position)) v.activeScreens i s := by
  have hs := hpixels s h.mem
  have hzero : clipDistance (clipTo s.bounds position) s = 0 :=
    (clipDistance_eq_zero_iff hs.hasPixel _).2 (containsPoint_clipTo hs.hasPixel position)
  refine ⟨h.get, fun t _ ↦ hzero.le.trans (distanceSquared_nonneg _ _), fun j t hj hget ↦ ?_⟩
  -- an earlier screen with the clipped position on it would have been found before
  have ht := hpixels t (List.mem_of_getElem? hget)
  rw [hzero]
  refine lt_of_le_of_ne (distanceSquared_nonneg _ _) fun heq ↦ ?_
  have hcontains := (clipDistance_eq_zero_iff ht.hasPixel _).1 heq.symm
  exact (h.lt j t hj hget).not_ge (clipDistance_le_of_containsPoint hs ht hcontains)

/-- **`ClipPosition` and `ClosestScreen`**, on active screens of whole pixels: the result is on the
screen with the index reported, which is the first of those whose clipped position is nearest; what
is on a screen stays; clipping again changes nothing; and the closest screen is the one with that
index. -/
theorem clipPosition_closestScreen {v : LPVirtualScreen} (hne : v.activeScreens ≠ [])
    (hpixels : ∀ s ∈ v.activeScreens, OfPixels s) (position : LPPoint) :
    (∃ s, v.activeScreens[(v.clipPosition position).2]? = some s ∧
        s.bounds.containsPoint (v.clipPosition position).1) ∧
      (∀ j t, v.activeScreens[j]? = some t →
        distanceSquared position (v.clipPosition position).1 ≤
            distanceSquared position (clipTo t.bounds position) ∧
          (distanceSquared position (clipTo t.bounds position) =
            distanceSquared position (v.clipPosition position).1 →
              (v.clipPosition position).2 ≤ j)) ∧
      ((∃ s ∈ v.activeScreens, s.bounds.containsPoint position) →
        (v.clipPosition position).1 = position) ∧
      v.clipPosition (v.clipPosition position).1 = v.clipPosition position ∧
      v.closestScreen position = v.activeScreens[(v.clipPosition position).2]? := by
  obtain ⟨s, hleast, hclipped⟩ := clipPosition_spec hne position
  have hpixel : ∀ t ∈ v.activeScreens, HasPixel t := fun t ht ↦ (hpixels t ht).hasPixel
  refine ⟨⟨s, hleast.get, ?_⟩, fun j t hget ↦ ⟨?_, fun htie ↦ ?_⟩, ?_, ?_, ?_⟩
  · rw [hclipped]
    exact containsPoint_clipTo (hpixel s hleast.mem) position
  · rw [hclipped]
    exact hleast.le t (List.mem_of_getElem? hget)
  · rw [hclipped] at htie
    exact not_lt.1 fun hj ↦ (hleast.lt j t hj hget).ne' htie
  · rintro ⟨t, ht, hcontains⟩
    -- a screen at distance 0 makes the least distance 0
    have hle := hleast.le t ht
    rw [(clipDistance_eq_zero_iff (hpixel t ht) position).2 hcontains] at hle
    have hzero : clipDistance position s = 0 := le_antisymm hle (distanceSquared_nonneg _ _)
    rw [hclipped]
    exact (eq_of_distanceSquared_eq_zero hzero).symm
  · have hagain := clipPosition_eq_of_firstLeast (firstLeast_clipTo hpixels hleast)
    rw [clipPosition_eq_of_firstLeast hleast, hagain]
    rw [clipTo_eq_self (containsPoint_clipTo (hpixel s hleast.mem) position)]
  · exact closestScreen_eq hpixel position

/-- Beside and below two adjacent screens, the second is the closest. -/
theorem clipPosition_closestScreen_adjacent :
    let left : LPScreen := ⟨⟨⟨-100, 0⟩, ⟨100, 50⟩⟩, false⟩
    let right : LPScreen := ⟨⟨⟨0, 0⟩, ⟨200, 80⟩⟩, true⟩
    let v := construct.update [left, right]
    v.clipPosition ⟨-5 / 2, 90⟩ = (⟨0, 79⟩, 1) ∧
      v.closestScreen ⟨-5 / 2, 90⟩ = v.activeScreens[(v.clipPosition ⟨-5 / 2, 90⟩).2]? := by
  intro left right v
  have hpixels : ∀ s ∈ v.activeScreens, OfPixels s := by
    intro s hs
    rcases List.mem_pair.1 hs with rfl | rfl
    · exact ⟨-100, 0, 100, 50, by decide, by decide, by norm_num [left]⟩
    · exact ⟨0, 0, 200, 80, by decide, by decide, by norm_num [right]⟩
  exact ⟨by decide +kernel,
    (clipPosition_closestScreen (List.cons_ne_nil _ _) hpixels ⟨-5 / 2, 90⟩).2.2.2.2⟩

end LPVirtualScreen

end Touchless
