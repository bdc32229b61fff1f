import Touchless.Utility.LPVirtualScreen

/-!
# The cursor under Windows

`OSInteractionDriverWin::setCursorPosition`: the requested position is put on the active screens,
then normalized against all detected screens, and injected in absolute coordinates, which Windows
takes from 0 to 65535. The two rectangles differ when only the primary screen is in use.
-/

namespace Touchless.OSInteractionDriverWin

/-- The fields of the `MOUSEINPUT` that is injected. -/
structure MouseInput where
  dx : ℤ
  dy : ℤ
  deriving DecidableEq

/-- The conversion to `int`, toward zero. -/
def toInt (x : LPFloat) : ℤ := if 0 ≤ x then ⌊x⌋ else ⌈x⌉

/-- The position that is asked of the virtual screen. `cursor` is the answer of `GetCursorPos`. -/
def requestedPosition (cursor : Option (ℤ × ℤ)) (fx fy : LPFloat) (absolute : Bool) : LPPoint :=
  if absolute then ⟨fx + 1 / 2, fy + 1 / 2⟩
  else
    match cursor with
    | some (x, y) => ⟨fx + x, fy + y⟩
    | none => ⟨fx, fy⟩

/-- `SetPosition` followed by `Normalize(position, false)`. -/
def normalizedPosition (v : LPVirtualScreen) (position : LPPoint) : LPPoint :=
  (v.setPosition position).normalize (v.setPosition position).position false

/-- `setCursorPosition`, with the input it sends. -/
def setCursorPosition (v : LPVirtualScreen) (cursor : Option (ℤ × ℤ)) (fx fy : LPFloat)
    (absolute : Bool) : LPVirtualScreen × MouseInput :=
  let position := requestedPosition cursor fx fy absolute
  let normalized := normalizedPosition v position
  (v.setPosition position,
    { dx := toInt (65535 * normalized.x + 1 / 2), dy := toInt (65535 * normalized.y + 1 / 2) })

/-- The scaling to absolute coordinates. -/
theorem toInt_mem {x : LPFloat} (h : 0 ≤ x ∧ x < 1) :
    0 ≤ toInt (65535 * x + 1 / 2) ∧ toInt (65535 * x + 1 / 2) ≤ 65535 := by
  have hnonneg : 0 ≤ 65535 * x + 1 / 2 := by linarith [h.1]
  rw [toInt, if_pos hnonneg]
  have hlt : 65535 * x + 1 / 2 < (65536 : ℤ) := by
    push_cast
    linarith [h.2]
  have hfloor := Int.floor_lt.2 hlt
  exact ⟨Int.floor_nonneg.2 hnonneg, by omega⟩

/-- **The injected coordinates** are in range, whichever screens are active and whatever position is
requested, once `Update` has seen a screen. -/
theorem setCursorPosition_inRange (v : LPVirtualScreen) {screens : List LPScreen}
    (hne : screens ≠ []) (hpixel : ∀ s ∈ screens, LPVirtualScreen.HasPixel s)
    (cursor : Option (ℤ × ℤ)) (fx fy : LPFloat) (absolute : Bool) :
    (∀ position,
      (0 ≤ (normalizedPosition (v.update screens) position).x ∧
        (normalizedPosition (v.update screens) position).x < 1) ∧
      0 ≤ (normalizedPosition (v.update screens) position).y ∧
        (normalizedPosition (v.update screens) position).y < 1) ∧
    (0 ≤ (setCursorPosition (v.update screens) cursor fx fy absolute).2.dx ∧
      (setCursorPosition (v.update screens) cursor fx fy absolute).2.dx ≤ 65535) ∧
    0 ≤ (setCursorPosition (v.update screens) cursor fx fy absolute).2.dy ∧
      (setCursorPosition (v.update screens) cursor fx fy absolute).2.dy ≤ 65535 := by
  have hrange : ∀ position,
      (0 ≤ (normalizedPosition (v.update screens) position).x ∧
        (normalizedPosition (v.update screens) position).x < 1) ∧
      0 ≤ (normalizedPosition (v.update screens) position).y ∧
        (normalizedPosition (v.update screens) position).y < 1 := fun position ↦
    LPVirtualScreen.normalize_mem
      (LPVirtualScreen.detectedBounds_contains_setPosition v hne hpixel position)
  obtain ⟨hx, hy⟩ := hrange (requestedPosition cursor fx fy absolute)
  exact ⟨hrange, toInt_mem hx, toInt_mem hy⟩

/-- Two screens with the primary one on the right and below, which alone is in use. -/
theorem setCursorPosition_inRange_twoScreens :
    let screens : List LPScreen :=
      [⟨⟨⟨-1280, -200⟩, ⟨1280, 1024⟩⟩, false⟩, ⟨⟨⟨0, 0⟩, ⟨1920, 1080⟩⟩, true⟩]
    let v := { LPVirtualScreen.construct with useDefaultScreen := true }.update screens
    let input := (setCursorPosition v none (-500) 2000 true).2
    (0 ≤ input.dx ∧ input.dx ≤ 65535) ∧ 0 ≤ input.dy ∧ input.dy ≤ 65535 := by
  intro screens v input
  have hne : screens ≠ [] := by simp [screens]
  have hpixel : ∀ s ∈ screens, LPVirtualScreen.HasPixel s := by
    simp [screens, LPVirtualScreen.HasPixel]
  exact (setCursorPosition_inRange { LPVirtualScreen.construct with useDefaultScreen := true } hne
    hpixel none (-500) 2000 true).2

end Touchless.OSInteractionDriverWin
