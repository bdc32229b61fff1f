import Mathlib.Algebra.Order.Floor.Ring
import Mathlib.Data.Rat.Floor
import Mathlib.Tactic.Linarith

/-!
# The virtual screen

`Utility/LPGeometry.h` and `Utility/LPVirtualScreen.cpp`: the screens of the desktop, of which all
or only the primary one are active, a position that is kept on the active ones, and coordinates
normalized against the bounds of the active or of all detected screens.

A position is clipped to the nearest active screen. Screens are half-open, so a screen of size at
least 1 contains what is clipped to it (`containsPoint_clipTo`), and the bounds of a list of screens
contain each of them (`computeBounds_contains`). Arithmetic is exact.
-/

namespace Touchless

/-- `LPFloat`, with exact arithmetic. -/
abbrev LPFloat := ℚ

@[ext]
structure LPPoint where
  x : LPFloat
  y : LPFloat
  deriving DecidableEq

structure LPSize where
  width : LPFloat
  height : LPFloat
  deriving DecidableEq

structure LPRect where
  origin : LPPoint
  size : LPSize
  deriving DecidableEq

/-- `LPPointZero`. -/
def LPPoint.zero : LPPoint := ⟨0, 0⟩

namespace LPRect

variable (r r₁ r₂ : LPRect)

/-- `LPRectZero`. -/
def zero : LPRect := ⟨⟨0, 0⟩, ⟨0, 0⟩⟩

/-- `LPRectGetMinX`. -/
def getMinX : LPFloat := r.origin.x

/-- `LPRectGetMinY`. -/
def getMinY : LPFloat := r.origin.y

/-- `LPRectGetMaxX`. -/
def getMaxX : LPFloat := r.origin.x + r.size.width

/-- `LPRectGetMaxY`. -/
def getMaxY : LPFloat := r.origin.y + r.size.height

/-- `LPRectContainsPoint`. -/
def containsPoint (p : LPPoint) : Prop :=
  r.origin.x ≤ p.x ∧ p.x < r.origin.x + r.size.width ∧
    r.origin.y ≤ p.y ∧ p.y < r.origin.y + r.size.height

instance (p : LPPoint) : Decidable (r.containsPoint p) :=
  inferInstanceAs (Decidable (_ ∧ _ ∧ _ ∧ _))

/-- `LPRectUnion`. -/
def union : LPRect :=
  let x0 := min r₁.origin.x r₂.origin.x
  let x1 := max (r₁.origin.x + r₁.size.width) (r₂.origin.x + r₂.size.width)
  let y0 := min r₁.origin.y r₂.origin.y
  let y1 := max (r₁.origin.y + r₁.size.height) (r₂.origin.y + r₂.size.height)
  ⟨⟨x0, y0⟩, ⟨x1 - x0, y1 - y0⟩⟩

variable {r₁ r₂} {p : LPPoint}

theorem containsPoint_union_left (h : r₁.containsPoint p) : (r₁.union r₂).containsPoint p := by
  obtain ⟨hx, hx', hy, hy'⟩ := h
  simp only [containsPoint, union, add_sub_cancel, min_le_iff, lt_max_iff]
  exact ⟨.inl hx, .inl hx', .inl hy, .inl hy'⟩

theorem containsPoint_union_right (h : r₂.containsPoint p) : (r₁.union r₂).containsPoint p := by
  obtain ⟨hx, hx', hy, hy'⟩ := h
  simp only [containsPoint, union, add_sub_cancel, min_le_iff, lt_max_iff]
  exact ⟨.inr hx, .inr hx', .inr hy, .inr hy'⟩

end LPRect

/-- The members of `LPScreen` that the virtual screen reads. -/
structure LPScreen where
  bounds : LPRect
  isPrimary : Bool
  deriving DecidableEq

/-- The members of `LPVirtualScreen`. -/
structure LPVirtualScreen where
  activeScreens : List LPScreen
  detectedScreens : List LPScreen
  screenIndex : ℕ
  position : LPPoint
  activeBounds : LPRect
  detectedBounds : LPRect
  useDefaultScreen : Bool

namespace LPVirtualScreen

/-- `ComputeBounds`. -/
def computeBounds : List LPScreen → LPRect
  | [] => LPRect.zero
  | [screen] => screen.bounds
  | screen :: screens => screens.foldl (fun bounds s ↦ bounds.union s.bounds) screen.bounds

/-- `Update`, with the screens that the system reports. -/
def update (v : LPVirtualScreen) (screens : List LPScreen) : LPVirtualScreen :=
  let activeScreens :=
    if v.useDefaultScreen ∧ screens.length > 1 then
      match screens.find? LPScreen.isPrimary with
      | some screen => [screen]
      | none => screens.head?.toList
    else screens
  { v with
    detectedScreens := screens
    activeScreens := activeScreens
    activeBounds := computeBounds activeScreens
    detectedBounds := computeBounds screens }

/-- The constructor, before its call of `Update`. -/
def construct : LPVirtualScreen where
  activeScreens := []
  detectedScreens := []
  screenIndex := 0
  position := LPPoint.zero
  activeBounds := LPRect.zero
  detectedBounds := LPRect.zero
  useDefaultScreen := false

/-- `UseDefaultScreen`. -/
def setUseDefaultScreen (v : LPVirtualScreen) (useDefaultScreen : Bool) (screens : List LPScreen) :
    LPVirtualScreen :=
  if v.useDefaultScreen ≠ useDefaultScreen then
    { v with useDefaultScreen := useDefaultScreen }.update screens
  else v

/-- `Normalize`. -/
def normalize (v : LPVirtualScreen) (position : LPPoint) (activeOnly : Bool) : LPPoint :=
  let bounds := if activeOnly then v.activeBounds else v.detectedBounds
  if bounds.size.width > 0 ∧ bounds.size.height > 0 then
    ⟨(position.x - bounds.origin.x) / bounds.size.width,
      (position.y - bounds.origin.y) / bounds.size.height⟩
  else LPPoint.zero

/-- `Denormalize`. -/
def denormalize (v : LPVirtualScreen) (position : LPPoint) (activeOnly : Bool) : LPPoint :=
  let bounds := if activeOnly then v.activeBounds else v.detectedBounds
  ⟨position.x * bounds.size.width + bounds.origin.x,
    position.y * bounds.size.height + bounds.origin.y⟩

/-- `AspectRatio`. -/
def aspectRatio (v : LPVirtualScreen) : LPFloat :=
  if v.activeBounds.size.height < 1 then 1
  else v.activeBounds.size.width / v.activeBounds.size.height

/-- A coordinate clipped to one side of a screen. -/
def clipCoordinate (minimum maximum x : LPFloat) : LPFloat :=
  if x ≤ minimum then minimum else if x ≥ maximum then maximum - 1 else x

/-- The position clipped to one screen, in the loop of `ClipPosition`. -/
def clipTo (rect : LPRect) (position : LPPoint) : LPPoint :=
  ⟨clipCoordinate rect.getMinX rect.getMaxX position.x,
    clipCoordinate rect.getMinY rect.getMaxY position.y⟩

def distanceSquared (p q : LPPoint) : LPFloat :=
  (p.x - q.x) * (p.x - q.x) + (p.y - q.y) * (p.y - q.y)

/-- The variables of the loop. -/
structure Clipped where
  clippedPosition : LPPoint
  bestDistanceSquared : LPFloat
  index : ℕ

/-- One turn of the loop, for the screen with index `s.2`. -/
def clipStep (position : LPPoint) (best : Option Clipped) (s : LPScreen × ℕ) : Option Clipped :=
  let clipped := clipTo s.1.bounds position
  let distance := distanceSquared position clipped
  match best with
  | none => some ⟨clipped, distance, 0⟩
  | some best =>
    if distance < best.bestDistanceSquared then some ⟨clipped, distance, s.2⟩ else some best

/-- `ClipPosition`, with the screen index it stores. -/
def clipPosition (v : LPVirtualScreen) (position : LPPoint) : LPPoint × ℕ :=
  match v.activeScreens.zipIdx.foldl (clipStep position) none with
  | none => (position, 0)
  | some best => (best.clippedPosition, best.index)

/-- `SetPosition`. -/
def setPosition (v : LPVirtualScreen) (position : LPPoint) : LPVirtualScreen :=
  { v with
    position := (v.clipPosition position).1
    screenIndex := (v.clipPosition position).2 }

/-! ### Clipping -/

/-- A screen on which a pixel can be. -/
def HasPixel (screen : LPScreen) : Prop :=
  1 ≤ screen.bounds.size.width ∧ 1 ≤ screen.bounds.size.height

theorem clipCoordinate_mem {minimum maximum : LPFloat} (h : minimum + 1 ≤ maximum)
    (x : LPFloat) : minimum ≤ clipCoordinate minimum maximum x ∧
      clipCoordinate minimum maximum x < maximum := by
  rw [clipCoordinate]
  split_ifs with hlow hhigh
  · exact ⟨le_rfl, by linarith⟩
  · exact ⟨by linarith, by linarith⟩
  · exact ⟨(not_le.1 hlow).le, not_le.1 hhigh⟩

/-- What is clipped to a screen is on it. -/
theorem containsPoint_clipTo {screen : LPScreen} (h : HasPixel screen) (position : LPPoint) :
    screen.bounds.containsPoint (clipTo screen.bounds position) := by
  have hwidth : screen.bounds.getMinX + 1 ≤ screen.bounds.getMaxX := by
    simpa [LPRect.getMinX, LPRect.getMaxX] using h.1
  have hheight : screen.bounds.getMinY + 1 ≤ screen.bounds.getMaxY := by
    simpa [LPRect.getMinY, LPRect.getMaxY] using h.2
  have hx := clipCoordinate_mem hwidth position.x
  have hy := clipCoordinate_mem hheight position.y
  exact ⟨hx.1, hx.2, hy.1, hy.2⟩

/-- A clipped position is clipped to one of the screens. -/
theorem exists_clipTo (position : LPPoint) (screens : List (LPScreen × ℕ)) :
    ∀ start best, screens.foldl (clipStep position) start = some best →
      (∃ s ∈ screens, best.clippedPosition = clipTo s.1.bounds position) ∨ start = some best := by
  induction screens with
  | nil => exact fun start best h ↦ .inr h
  | cons s screens ih =>
    intro start best h
    rw [List.foldl_cons] at h
    rcases ih _ _ h with ⟨t, ht, hclipped⟩ | hstep
    · exact .inl ⟨t, List.mem_cons_of_mem s ht, hclipped⟩
    · cases start with
      | none =>
        obtain rfl := Option.some.inj hstep
        exact .inl ⟨s, List.mem_cons_self, rfl⟩
      | some old =>
        simp only [clipStep] at hstep
        split_ifs at hstep
        · obtain rfl := Option.some.inj hstep
          exact .inl ⟨s, List.mem_cons_self, rfl⟩
        · exact .inr hstep

theorem clipStep_isSome (position : LPPoint) (best : Option Clipped) (s : LPScreen × ℕ) :
    (clipStep position best s).isSome = true := by
  cases best with
  | none => rfl
  | some best =>
    simp only [clipStep]
    split_ifs <;> rfl

/-- With a screen, something is found. -/
theorem foldl_clipStep_isSome (position : LPPoint) (screens : List (LPScreen × ℕ)) :
    ∀ start, (screens ≠ [] ∨ start.isSome = true) →
      (screens.foldl (clipStep position) start).isSome = true := by
  induction screens with
  | nil => exact fun start h ↦ h.resolve_left (by simp)
  | cons s screens ih => exact fun start _ ↦ ih _ (.inr (clipStep_isSome position start s))

/-- **`ClipPosition`** leads to one of the active screens. -/
theorem containsPoint_clipPosition {v : LPVirtualScreen} (hne : v.activeScreens ≠ [])
    (hpixel : ∀ s ∈ v.activeScreens, HasPixel s) (position : LPPoint) :
    ∃ s ∈ v.activeScreens, s.bounds.containsPoint (v.clipPosition position).1 := by
  have hindexed : v.activeScreens.zipIdx ≠ [] := by simpa using hne
  obtain ⟨best, hbest⟩ := Option.isSome_iff_exists.1
    (foldl_clipStep_isSome position v.activeScreens.zipIdx none (.inl hindexed))
  rcases exists_clipTo position _ _ _ hbest with ⟨s, hs, hclipped⟩ | hnone
  · have hmem : s.1 ∈ v.activeScreens := (List.mem_zipIdx' hs).2 ▸ List.getElem_mem _
    refine ⟨s.1, hmem, ?_⟩
    simp only [clipPosition, hbest, hclipped]
    exact containsPoint_clipTo (hpixel s.1 hmem) position
  · cases hnone

/-! ### Bounds -/

theorem foldl_union_contains {p : LPPoint} (screens : List LPScreen) :
    ∀ bounds : LPRect, (bounds.containsPoint p ∨ ∃ s ∈ screens, s.bounds.containsPoint p) →
      (screens.foldl (fun bounds s ↦ bounds.union s.bounds) bounds).containsPoint p := by
  induction screens with
  | nil => exact fun bounds h ↦ h.resolve_right (by simp)
  | cons t screens ih =>
    intro bounds h
    refine ih _ ?_
    rcases h with h | ⟨s, hs, h⟩
    · exact .inl (LPRect.containsPoint_union_left h)
    · rcases List.mem_cons.1 hs with rfl | hs
      · exact .inl (LPRect.containsPoint_union_right h)
      · exact .inr ⟨s, hs, h⟩

/-- **The bounds of a list of screens** contain each of them. -/
theorem computeBounds_contains {screens : List LPScreen} {s : LPScreen} (hs : s ∈ screens)
    {p : LPPoint} (hp : s.bounds.containsPoint p) : (computeBounds screens).containsPoint p := by
  match screens with
  | [] => cases hs
  | [t] => rwa [List.mem_singleton.1 hs] at hp
  | t :: u :: rest =>
    rw [computeBounds]
    · rcases List.mem_cons.1 hs with rfl | hs
      · exact foldl_union_contains _ _ (.inl hp)
      · exact foldl_union_contains _ _ (.inr ⟨s, hs, hp⟩)
    · simp

/-- What the bounds contain is normalized into the unit square, which is half-open too. -/
theorem normalize_mem {v : LPVirtualScreen} {p : LPPoint} (h : v.detectedBounds.containsPoint p) :
    (0 ≤ (v.normalize p false).x ∧ (v.normalize p false).x < 1) ∧
      0 ≤ (v.normalize p false).y ∧ (v.normalize p false).y < 1 := by
  obtain ⟨hx, hx', hy, hy'⟩ := h
  have hwidth : 0 < v.detectedBounds.size.width := by linarith
  have hheight : 0 < v.detectedBounds.size.height := by linarith
  simp only [normalize, Bool.false_eq_true, if_false, gt_iff_lt, hwidth, hheight, and_self, if_true]
  refine ⟨⟨div_nonneg (by linarith) hwidth.le, ?_⟩, div_nonneg (by linarith) hheight.le, ?_⟩
  · rw [div_lt_one hwidth]
    linarith
  · rw [div_lt_one hheight]
    linarith

/-! ### After `Update` -/

/-- Active screens are detected ones. -/
theorem activeScreens_update_subset (v : LPVirtualScreen) (screens : List LPScreen) :
    (v.update screens).activeScreens ⊆ screens := by
  intro s hs
  simp only [update] at hs
  split_ifs at hs
  · cases hfind : screens.find? LPScreen.isPrimary with
    | some t =>
      rw [hfind] at hs
      rw [List.mem_singleton.1 hs]
      exact List.mem_of_find?_eq_some hfind
    | none =>
      rw [hfind] at hs
      exact List.mem_of_mem_head? (Option.mem_toList.1 hs)
  · exact hs

/-- There is an active screen if any is detected. -/
theorem activeScreens_update_ne_nil (v : LPVirtualScreen) {screens : List LPScreen}
    (h : screens ≠ []) : (v.update screens).activeScreens ≠ [] := by
  simp only [update]
  split_ifs
  · cases screens.find? LPScreen.isPrimary with
    | some t => simp
    | none =>
      obtain ⟨s, rest, rfl⟩ := List.exists_cons_of_ne_nil h
      simp
  · exact h

/-- **The position that `SetPosition` stores** is within the detected bounds. -/
theorem detectedBounds_contains_setPosition (v : LPVirtualScreen) {screens : List LPScreen}
    (hne : screens ≠ []) (hpixel : ∀ s ∈ screens, HasPixel s) (position : LPPoint) :
    (v.update screens).detectedBounds.containsPoint
      ((v.update screens).setPosition position).position := by
  have hsubset := activeScreens_update_subset v screens
  obtain ⟨s, hs, hcontains⟩ := containsPoint_clipPosition (activeScreens_update_ne_nil v hne)
    (fun s hs ↦ hpixel s (hsubset hs)) position
  exact computeBounds_contains (hsubset hs) hcontains

end LPVirtualScreen

end Touchless
