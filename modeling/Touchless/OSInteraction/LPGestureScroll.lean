import Touchless.Foundations.Carry
import Touchless.Foundations.ExactOperations
import Touchless.OSInteraction.LPGesture

/-!
# The distance of a scroll

`applyScroll` adds the distance of each call to a partial pixel and a partial line of each axis, and
takes whole pixels and lines from them. It is called by the driver while the gesture is open, once
with distance 0 at its end, and by the timer with the momentum afterwards; where it returns early it
leaves the partials alone.

In exact arithmetic no distance is lost or invented by this (`scroll_conserved`). Whole lines are
left out on Windows, where they wait for the event timer.
-/

namespace Touchless

/-- The axes of the screen. -/
inductive Axis where
  | x
  | y

/-- The coordinate on an axis. -/
def GesturePoint.get {F : Type} (p : GesturePoint F) : Axis → F
  | .x => p.x
  | .y => p.y

/-- Is `m_windowsEventTimer` compiled in? -/
def Platform.hasEventTimer : Platform → Bool
  | .windows _ _ => true
  | _ => false

/-- A call of `applyScroll` that returned true: the distance, and the whole pixels and lines that it
takes from the partials. -/
structure Scroll (F : Type) where
  distance : GesturePoint F
  pixels : GesturePoint F
  lines : GesturePoint ℤ

/-- The pixels and lines of a scroll wheel event of the Mac. -/
def GestureEvent.wheelOutput {F : Type} : GestureEvent F → Option (GesturePoint F × GesturePoint ℤ)
  | .scrollWheel _ _ px py ilx ily => some (⟨px, py⟩, ⟨ilx, ily⟩)
  | _ => none

/-- The members that carry the distance of a scroll, and what the wheel events have had of it. -/
structure ScrollState (F : Type) where
  scrollPartialLine : GesturePoint F
  scrollPartialPixel : GesturePoint F
  horizontalPixelsPerLine : F
  verticalPixelsPerLine : F
  wheelOutputs : List (GesturePoint F × GesturePoint ℤ)

/-- The pixels per line on an axis. -/
def ScrollState.pixelsPerLine {F : Type} (s : ScrollState F) : Axis → F
  | .x => s.horizontalPixelsPerLine
  | .y => s.verticalPixelsPerLine

namespace LPGesture

variable {F : Type}

/-- The members of a gesture that a scroll is about. -/
def scrollState (g : LPGesture F) : ScrollState F where
  scrollPartialLine := g.scrollPartialLine
  scrollPartialPixel := g.scrollPartialPixel
  horizontalPixelsPerLine := g.horizontalPixelsPerLine
  verticalPixelsPerLine := g.verticalPixelsPerLine
  wheelOutputs := g.events.filterMap GestureEvent.wheelOutput

section Calls

variable [Arithmetic F] [Rounding F] (platform : Platform) (g : LPGesture F)

/-- `ppmm`. -/
def pixelsPerMillimeter (F : Type) [Arithmetic F] : F := lit 120 / lit (127 / 5)

/-- The first part of `applyScroll`; the flag is false where it returns. -/
def prepareScroll (dx dy : F) (timeDiff : ℤ) : LPGesture F × Bool :=
  if g.momentumPhase ≠ .undefined then
    g.decayMomentum (dx * pixelsPerMillimeter F) (dy * pixelsPerMillimeter F)
  else if g.phase ≠ .ended then g.recordMomentum dx dy timeDiff
  else (g, true)

/-- The partials once whole pixels and lines are taken from them, with these. -/
def takeWhole (px py lx ly : F) (timeDiff : ℤ) : LPGesture F × GesturePoint F × GesturePoint ℤ :=
  let partialPixel : GesturePoint F :=
    ⟨g.scrollPartialPixel.x + px, g.scrollPartialPixel.y + py⟩
  let px := Rounding.round partialPixel.x
  let py := Rounding.round partialPixel.y
  let g := { g with
    scrollPartialPixel := ⟨partialPixel.x - px, partialPixel.y - py⟩
    scrollPartialLine := ⟨g.scrollPartialLine.x + lx, g.scrollPartialLine.y + ly⟩ }
  let (g, ilx, ily) := g.takeLines platform timeDiff
  (g, ⟨px, py⟩, ⟨ilx, ily⟩)

/-- A call of `applyScroll`, if it returns true. -/
def scrollOf (dx dy : F) (timeDiff : ℤ) : Option (Scroll F) :=
  if (g.applyScroll platform dx dy timeDiff).2 then
    let px := dx * pixelsPerMillimeter F
    let py := dy * pixelsPerMillimeter F
    let (_, pixels, lines) := (g.prepareScroll dx dy timeDiff).1.takeWhole platform px py
      (px / g.horizontalPixelsPerLine) (py / g.verticalPixelsPerLine) timeDiff
    some ⟨⟨dx, dy⟩, pixels, lines⟩
  else none

/-- The state in which `end` applies its scroll. -/
def endingScroll : LPGesture F :=
  let g := { g with phase := .ended }.applyNothing platform
  let g := if platform = .mac then g.endMac else g
  { g with momentumTimer := false }

/-- The calls of `applyScroll` that an operation makes and that return true. That of `begin` ends
the scroll before it, so it does not count. -/
def scrollsOf : Operation F → List (Scroll F)
  | .applyScroll dx dy timeDiff => (g.scrollOf platform dx dy timeDiff).toList
  | .applyMomentum =>
    if g.momentumPhase ≠ .undefined then
      (g.scrollOf platform g.momentum.x g.momentum.y
        (Rounding.toInt (lit 1000000 / momentumFPS F))).toList
    else []
  | .endGesture =>
    if (g.type ≠ .none ∧ (g.phase = .began ∨ g.phase = .changed)) ∧
        (g.endingScroll platform).type = .scroll then
      ((g.endingScroll platform).scrollOf platform (lit 0) (lit 0) 0).toList
    else []
  | _ => []

/-- Those of a sequence of operations. -/
def scrollTrace (platform : Platform) : LPGesture F → List (Operation F) → List (Scroll F)
  | _, [] => []
  | g, operation :: operations =>
    g.scrollsOf platform operation ++ scrollTrace platform (g.exec platform operation) operations

/-- The pixels per line that `begin` sets. -/
def beginPixelsPerLine (platform : Platform) : Axis → F
  | .x => horizontalPixels platform
  | .y => verticalPixels platform

theorem applyScroll_eq (dx dy : F) (timeDiff : ℤ) :
    g.applyScroll platform dx dy timeDiff =
      if g.type = .scroll ∨ g.momentumPhase ≠ .undefined then
        if (g.prepareScroll dx dy timeDiff).2 then
          ((g.prepareScroll dx dy timeDiff).1.scrollBy platform (dx * pixelsPerMillimeter F)
            (dy * pixelsPerMillimeter F) (dx * pixelsPerMillimeter F / g.horizontalPixelsPerLine)
            (dy * pixelsPerMillimeter F / g.verticalPixelsPerLine) timeDiff, true)
        else ((g.prepareScroll dx dy timeDiff).1, false)
      else (g, false) := rfl

theorem scrollBy_eq (px py lx ly : F) (timeDiff : ℤ) :
    g.scrollBy platform px py lx ly timeDiff =
      ((g.takeWhole platform px py lx ly timeDiff).1.postScroll platform
        (g.takeWhole platform px py lx ly timeDiff).2.1.x
        (g.takeWhole platform px py lx ly timeDiff).2.1.y
        (g.takeWhole platform px py lx ly timeDiff).2.2.x
        (g.takeWhole platform px py lx ly timeDiff).2.2.y).advancePhases := rfl

/-! What is taken is the same on all platforms, but for the lines on Windows. -/

theorem takeWhole_partialPixel (px py lx ly : F) (timeDiff : ℤ) :
    (g.takeWhole platform px py lx ly timeDiff).1.scrollPartialPixel =
      ⟨g.scrollPartialPixel.x + px - Rounding.round (g.scrollPartialPixel.x + px),
        g.scrollPartialPixel.y + py - Rounding.round (g.scrollPartialPixel.y + py)⟩ := by
  cases platform with
  | windows wheelScrollChars wheelScrollLines =>
    simp only [takeWhole, takeLines]
    split_ifs <;> rfl
  | mac => rfl
  | linux => rfl

theorem takeWhole_lines (htimer : platform.hasEventTimer = false) (px py lx ly : F)
    (timeDiff : ℤ) :
    (g.takeWhole platform px py lx ly timeDiff).1.scrollPartialLine =
        ⟨g.scrollPartialLine.x + lx - Rounding.floor (g.scrollPartialLine.x + lx),
          g.scrollPartialLine.y + ly - Rounding.floor (g.scrollPartialLine.y + ly)⟩ ∧
      (g.takeWhole platform px py lx ly timeDiff).2.2 =
        ⟨Rounding.toInt (Rounding.floor (g.scrollPartialLine.x + lx)),
          Rounding.toInt (Rounding.floor (g.scrollPartialLine.y + ly))⟩ := by
  cases platform with
  | windows wheelScrollChars wheelScrollLines => cases htimer
  | mac => exact ⟨rfl, rfl⟩
  | linux => exact ⟨rfl, rfl⟩

theorem takeWhole_others (px py lx ly : F) (timeDiff : ℤ) :
    (g.takeWhole platform px py lx ly timeDiff).1.scrollState.pixelsPerLine =
        g.scrollState.pixelsPerLine ∧
      (g.takeWhole platform px py lx ly timeDiff).1.scrollState.wheelOutputs =
        g.scrollState.wheelOutputs := by
  cases platform with
  | windows wheelScrollChars wheelScrollLines =>
    simp only [takeWhole, takeLines]
    split_ifs <;> exact ⟨rfl, rfl⟩
  | mac => exact ⟨rfl, rfl⟩
  | linux => exact ⟨rfl, rfl⟩

end Calls

/-! ### What leaves the partials alone -/

section Frame

variable {platform : Platform} {g : LPGesture F}

theorem scrollState_post {event : GestureEvent F} (h : event.wheelOutput = none) :
    (g.post event).scrollState = g.scrollState := by
  simp only [scrollState, post, List.filterMap_append, List.filterMap_cons, h, List.filterMap_nil,
    List.append_nil]

theorem scrollState_postMac {event : GestureEvent F} (h : event.wheelOutput = none) :
    (g.postMac platform event).scrollState = g.scrollState := by
  rw [postMac]
  split_ifs
  · exact scrollState_post h
  · rfl

@[simp]
theorem scrollState_changePhase : g.changePhase.scrollState = g.scrollState := by
  rw [changePhase]
  split_ifs <;> rfl

@[simp]
theorem scrollState_advancePhases : g.advancePhases.scrollState = g.scrollState := by
  rw [advancePhases]
  split_ifs <;> rfl

theorem scrollState_applyZoom (zoom : F) :
    (g.applyZoom platform zoom).1.scrollState = g.scrollState := by
  rw [applyZoom]
  split_ifs
  · exact scrollState_changePhase.trans (scrollState_postMac rfl)
  · rfl

theorem scrollState_applyRotation (rotation : F) :
    (g.applyRotation platform rotation).1.scrollState = g.scrollState := by
  rw [applyRotation]
  split_ifs
  · exact scrollState_changePhase.trans (scrollState_postMac rfl)
  · rfl

variable [Arithmetic F]

theorem scrollState_applyDesktopSwipe (dx dy : F) :
    (g.applyDesktopSwipe platform dx dy).1.scrollState = g.scrollState := by
  rw [applyDesktopSwipe]
  split_ifs
  · exact scrollState_changePhase.trans (scrollState_post rfl)
  · exact scrollState_changePhase
  · rfl

theorem scrollState_applyNothing : (g.applyNothing platform).scrollState = g.scrollState := by
  rw [applyNothing]
  split_ifs
  · exact scrollState_applyZoom _
  · exact scrollState_applyRotation _
  · rfl

theorem scrollState_endMac : g.endMac.scrollState = g.scrollState := by
  rw [endMac]
  split_ifs
  · refine (scrollState_post rfl).trans ?_
    split_ifs <;> rfl
  · exact scrollState_post rfl

omit [Arithmetic F] in
theorem scrollState_postWheel {event : ℤ → GestureEvent F}
    (h : ∀ mouseData, (event mouseData).wheelOutput = none) (lines mouseData : ℤ) :
    (g.postWheel event lines mouseData).scrollState = g.scrollState := by
  rw [postWheel]
  split_ifs
  · exact scrollState_post (h mouseData)
  · rfl

omit [Arithmetic F] in
/-- Only the scroll wheel events of the Mac have pixels and lines. -/
theorem scrollState_postScroll (px py : F) (ilx ily : ℤ) :
    (g.postScroll platform px py ilx ily).scrollState =
      { g.scrollState with
        wheelOutputs := g.scrollState.wheelOutputs ++
          if platform = .mac then [(⟨px, py⟩, ⟨ilx, ily⟩)] else [] } := by
  cases platform with
  | mac =>
    have hgesture : ∀ h : LPGesture F, h.scrollState = g.scrollState →
        (h.post (.scrollWheel h.phase h.momentumPhase px py ilx ily)).scrollState =
          { g.scrollState with
            wheelOutputs := g.scrollState.wheelOutputs ++ [(⟨px, py⟩, ⟨ilx, ily⟩)] } := by
      intro h heq
      rw [← heq]
      simp [scrollState, post, GestureEvent.wheelOutput]
    rw [postScroll, if_pos rfl]
    refine hgesture _ ?_
    split_ifs
    · exact scrollState_post rfl
    · rfl
  | windows wheelScrollChars wheelScrollLines =>
    rw [postScroll, scrollState_postWheel fun _ ↦ rfl, scrollState_postWheel fun _ ↦ rfl]
    simp
  | linux => simp [postScroll]

/-- The momentum is recorded or decays without the partials. -/
theorem scrollState_prepareScroll (dx dy : F) (timeDiff : ℤ) :
    (g.prepareScroll dx dy timeDiff).1.scrollState = g.scrollState := by
  rw [prepareScroll]
  split_ifs
  · simp only [decayMomentum]
    split_ifs <;> rfl
  · simp only [recordMomentum]
    split_ifs <;> rfl
  · rfl

theorem scrollState_endingScroll : (g.endingScroll platform).scrollState = g.scrollState := by
  have hnothing : ({ g with phase := .ended }.applyNothing platform).scrollState =
      g.scrollState := scrollState_applyNothing
  show (if platform = .mac then _ else _ : LPGesture F).scrollState = _
  split_ifs
  · exact scrollState_endMac.trans hnothing
  · exact hnothing

variable [Rounding F]

/-- Nothing else in the start of the momentum concerns the partials than its scroll. -/
theorem scrollState_startMomentum :
    (g.startMomentum platform).scrollState =
      ({ g with momentumTimer := false }.applyScroll platform (lit 0) (lit 0) 0).1.scrollState := by
  simp only [startMomentum]
  split_ifs <;> rfl

/-- At the end of a gesture a scroll makes its last call, by nothing. -/
theorem scrollState_endGesture
    (hopen : g.type ≠ .none ∧ (g.phase = .began ∨ g.phase = .changed)) :
    (g.endGesture platform).1.scrollState =
      if (g.endingScroll platform).type = .scroll then
        ((g.endingScroll platform).applyScroll platform (lit 0) (lit 0) 0).1.scrollState
      else (g.endingScroll platform).scrollState := by
  simp only [endGesture, if_pos hopen]
  generalize hended : ite (platform = .mac) _ _ = ended
  have hending : g.endingScroll platform = { ended with momentumTimer := false } := by
    rw [← hended]
    rfl
  rw [hending]
  by_cases htype : ended.type = .scroll
  · rw [if_pos htype, if_pos htype]
    exact scrollState_startMomentum
  · rw [if_neg htype, if_neg htype]
    rfl

/-- `begin` starts without partials. -/
theorem scrollState_beginGesture {number : ℕ} (h : (g.beginGesture platform number).2 = true) :
    let begun := (g.beginGesture platform number).1
    begun.scrollPartialPixel = .zero ∧ begun.scrollPartialLine = .zero ∧
      begun.scrollState.pixelsPerLine = beginPixelsPerLine platform := by
  have hopens : g.type = .none ∧ (GestureType.ofNumber number).eventType ≠ .null := by
    simpa using beginGesture_succeeds_iff.1 h
  simp only [beginGesture, if_pos hopens]
  generalize ite (g.momentumPhase ≠ .undefined) _ g = stopped
  generalize hposted : ite (GestureType.isDesktopSwipe _ = true) _ _ = posted
  have hrestarted : posted.scrollState =
      (stopped.restart platform (.ofNumber number)).scrollState := by
    rw [← hposted]
    split_ifs
    · rfl
    · exact scrollState_postMac rfl
  have hbegun : (posted.applyNothing platform).scrollState =
      (stopped.restart platform (.ofNumber number)).scrollState :=
    scrollState_applyNothing.trans hrestarted
  refine ⟨congrArg ScrollState.scrollPartialPixel hbegun,
    congrArg ScrollState.scrollPartialLine hbegun, funext fun axis ↦ ?_⟩
  rw [hbegun]
  cases axis with
  | x => rfl
  | y => rfl

end Frame

/-! ### One call -/

section Exact

variable {K : Type} [Field K] [LinearOrder K]

/-- The whole number of pixels that `round` finds. -/
def nearest [FloorRing K] (x : K) : K := roundHalfAway x

/-- The whole number of lines that `floor` finds. -/
def down [FloorRing K] (x : K) : K := ⌊x⌋

variable [Arithmetic F] (exact : ExactOperations F K)

/-- A distance in pixels: 120 of them are an inch. -/
def inPixels (distance : F) : K := exact.value distance * (120 / (127 / 5))

theorem value_mul_pixelsPerMillimeter [IsStrictOrderedRing K] (distance : F) :
    exact.value (distance * pixelsPerMillimeter F) = inPixels exact distance := by
  rw [exact.value_mul, pixelsPerMillimeter, exact.value_div, exact.value_lit, exact.value_lit,
    inPixels]
  norm_num

variable [FloorRing K]

/-- What a scroll does to the partials: it adds its distance to them, and takes from them what is
whole; on the Mac this is what it posts. -/
structure ScrollStep (platform : Platform) (s s' : ScrollState F) (scroll : Scroll F) : Prop where
  pixels : ∀ axis, exact.value (scroll.pixels.get axis) =
      nearest (exact.value (s.scrollPartialPixel.get axis) +
        inPixels exact (scroll.distance.get axis)) ∧
    exact.value (s'.scrollPartialPixel.get axis) = exact.value (s.scrollPartialPixel.get axis) +
      inPixels exact (scroll.distance.get axis) - exact.value (scroll.pixels.get axis)
  lines : platform.hasEventTimer = false → ∀ axis, (scroll.lines.get axis : K) =
      down (exact.value (s.scrollPartialLine.get axis) +
        inPixels exact (scroll.distance.get axis) / exact.value (s.pixelsPerLine axis)) ∧
    exact.value (s'.scrollPartialLine.get axis) = exact.value (s.scrollPartialLine.get axis) +
      inPixels exact (scroll.distance.get axis) / exact.value (s.pixelsPerLine axis) -
        (scroll.lines.get axis : K)
  pixelsPerLine : s'.pixelsPerLine = s.pixelsPerLine
  wheelOutputs : platform = .mac →
    s'.wheelOutputs = s.wheelOutputs ++ [(scroll.pixels, scroll.lines)]

/-- The scrolls that lead from one state to another. -/
inductive ScrollRun (platform : Platform) (s : ScrollState F) :
    List (Scroll F) → ScrollState F → Prop
  | nil : ScrollRun platform s [] s
  | concat {scrolls : List (Scroll F)} {s' s'' : ScrollState F} {scroll : Scroll F}
    (h : ScrollRun platform s scrolls s') (step : ScrollStep exact platform s' s'' scroll) :
    ScrollRun platform s (scrolls ++ [scroll]) s''

namespace ScrollRun

variable {exact} {platform : Platform} {s s' s'' : ScrollState F}
  {scrolls scrolls' : List (Scroll F)}

theorem trans (h : ScrollRun exact platform s scrolls s')
    (h' : ScrollRun exact platform s' scrolls' s'') :
    ScrollRun exact platform s (scrolls ++ scrolls') s'' := by
  induction h' with
  | nil => rwa [List.append_nil]
  | concat _ step ih =>
    rw [← List.append_assoc]
    exact .concat ih step

theorem pixelsPerLine (h : ScrollRun exact platform s scrolls s') :
    s'.pixelsPerLine = s.pixelsPerLine := by
  induction h with
  | nil => rfl
  | concat _ step ih => exact step.pixelsPerLine.trans ih

/-- The partial pixels carry the distance, -/
theorem carried_pixels (h : ScrollRun exact platform s scrolls s') (axis : Axis) :
    Carried nearest (exact.value (s.scrollPartialPixel.get axis))
      (scrolls.map fun scroll ↦
        (inPixels exact (scroll.distance.get axis), exact.value (scroll.pixels.get axis)))
      (exact.value (s'.scrollPartialPixel.get axis)) := by
  induction h with
  | nil => exact .nil
  | concat _ step ih =>
    obtain ⟨hpixels, hrest⟩ := step.pixels axis
    rw [List.map_append, List.map_singleton, hrest, hpixels]
    exact ih.concat _

/-- and so do the partial lines without the event timer. -/
theorem carried_lines (h : ScrollRun exact platform s scrolls s')
    (htimer : platform.hasEventTimer = false) (axis : Axis) :
    Carried down (exact.value (s.scrollPartialLine.get axis))
      (scrolls.map fun scroll ↦
        (inPixels exact (scroll.distance.get axis) / exact.value (s.pixelsPerLine axis),
          (scroll.lines.get axis : K)))
      (exact.value (s'.scrollPartialLine.get axis)) := by
  induction h with
  | nil => exact .nil
  | concat h step ih =>
    obtain ⟨hlines, hrest⟩ := step.lines htimer axis
    rw [List.map_append, List.map_singleton, hrest, hlines, h.pixelsPerLine]
    exact ih.concat _

/-- The Mac posts each scroll. -/
theorem wheelOutputs (h : ScrollRun exact .mac s scrolls s') :
    s'.wheelOutputs =
      s.wheelOutputs ++ scrolls.map fun scroll ↦ (scroll.pixels, scroll.lines) := by
  induction h with
  | nil => exact (List.append_nil _).symm
  | concat _ step ih =>
    rw [step.wheelOutputs rfl, ih, List.append_assoc, List.map_append, List.map_singleton]

end ScrollRun

variable {exact} [IsStrictOrderedRing K] [Rounding F] {platform : Platform} {g : LPGesture F}

omit [IsStrictOrderedRing K] in
/-- A partial pixel. -/
theorem value_round_add (rounding : ExactRounding exact) {p d : F} {amount : K}
    (hd : exact.value d = amount) :
    exact.value (Rounding.round (p + d)) = nearest (exact.value p + amount) ∧
      exact.value (p + d - Rounding.round (p + d)) =
        exact.value p + amount - exact.value (Rounding.round (p + d)) := by
  rw [exact.value_sub, rounding.value_round, exact.value_add, hd]
  exact ⟨rfl, rfl⟩

/-- A partial line. -/
theorem value_floor_add (rounding : ExactRounding exact) {p d : F} {amount : K}
    (hd : exact.value d = amount) :
    (Rounding.toInt (Rounding.floor (p + d)) : K) = down (exact.value p + amount) ∧
      exact.value (p + d - Rounding.floor (p + d)) =
        exact.value p + amount - (Rounding.toInt (Rounding.floor (p + d)) : K) := by
  rw [exact.value_sub, rounding.toInt_eq, rounding.value_floor, truncate_intCast, exact.value_add,
    hd]
  exact ⟨rfl, rfl⟩

/-- Taking whole pixels and lines from the partials, and posting them. -/
theorem scrollStep_takeWhole (rounding : ExactRounding exact) (dx dy : F) {px py lx ly : F}
    (hpx : exact.value px = inPixels exact dx) (hpy : exact.value py = inPixels exact dy)
    (hlx : exact.value lx = inPixels exact dx / exact.value g.horizontalPixelsPerLine)
    (hly : exact.value ly = inPixels exact dy / exact.value g.verticalPixelsPerLine)
    (timeDiff : ℤ) :
    let taken := g.takeWhole platform px py lx ly timeDiff
    ScrollStep exact platform g.scrollState
      (taken.1.postScroll platform taken.2.1.x taken.2.1.y taken.2.2.x taken.2.2.y).scrollState
      ⟨⟨dx, dy⟩, taken.2.1, taken.2.2⟩ := by
  intro taken
  have hrestPixel := takeWhole_partialPixel platform g px py lx ly timeDiff
  obtain ⟨hpixelsPerLine, hwheelOutputs⟩ := takeWhole_others platform g px py lx ly timeDiff
  rw [scrollState_postScroll]
  constructor
  · intro axis
    show _ ∧ exact.value (taken.1.scrollPartialPixel.get axis) = _
    rw [hrestPixel]
    cases axis with
    | x => exact value_round_add rounding hpx
    | y => exact value_round_add rounding hpy
  · intro htimer axis
    obtain ⟨hrestLine, htaken⟩ := takeWhole_lines platform g htimer px py lx ly timeDiff
    show ((taken.2.2.get axis : ℤ) : K) = _ ∧
      exact.value (taken.1.scrollPartialLine.get axis) = _ - ((taken.2.2.get axis : ℤ) : K)
    rw [hrestLine, htaken]
    cases axis with
    | x => exact value_floor_add rounding hlx
    | y => exact value_floor_add rounding hly
  · exact hpixelsPerLine
  · intro hmac
    show taken.1.scrollState.wheelOutputs ++ (if platform = .mac then _ else []) = _
    rw [if_pos hmac, hwheelOutputs]

/-- **One call of `applyScroll`** leaves the partials alone, or makes a scroll. -/
theorem scrollRun_applyScroll (rounding : ExactRounding exact) (dx dy : F) (timeDiff : ℤ) :
    ScrollRun exact platform g.scrollState (g.scrollOf platform dx dy timeDiff).toList
      (g.applyScroll platform dx dy timeDiff).1.scrollState := by
  have hprepared := scrollState_prepareScroll (g := g) dx dy timeDiff
  rw [scrollOf, applyScroll_eq]
  by_cases hscrolls : g.type = .scroll ∨ g.momentumPhase ≠ .undefined
  · by_cases hgoesOn : (g.prepareScroll dx dy timeDiff).2 = true
    · simp only [if_pos hscrolls, if_pos hgoesOn, if_true, Option.toList_some]
      refine .concat .nil ?_
      have hhorizontal : (g.prepareScroll dx dy timeDiff).1.horizontalPixelsPerLine =
          g.horizontalPixelsPerLine := congrArg ScrollState.horizontalPixelsPerLine hprepared
      have hvertical : (g.prepareScroll dx dy timeDiff).1.verticalPixelsPerLine =
          g.verticalPixelsPerLine := congrArg ScrollState.verticalPixelsPerLine hprepared
      have hpx := value_mul_pixelsPerMillimeter exact dx
      have hpy := value_mul_pixelsPerMillimeter exact dy
      rw [scrollBy_eq, scrollState_advancePhases, ← hprepared]
      refine scrollStep_takeWhole rounding dx dy hpx hpy ?_ ?_ timeDiff
      · rw [exact.value_div, hpx, hhorizontal]
      · rw [exact.value_div, hpy, hvertical]
    · simp only [if_pos hscrolls, if_neg hgoesOn, Bool.false_eq_true, if_false, hprepared]
      exact .nil
  · simp only [if_neg hscrolls, Bool.false_eq_true, if_false]
    exact .nil

/-! ### Runs -/

/-- **One operation** of an open gesture, or of its momentum. -/
theorem scrollRun_exec (rounding : ExactRounding exact) {operation : Operation F}
    (h : ∀ number, operation ≠ .beginGesture number) :
    ScrollRun exact platform g.scrollState (g.scrollsOf platform operation)
      (g.exec platform operation).scrollState := by
  cases operation with
  | beginGesture number => exact absurd rfl (h number)
  | endGesture =>
    rw [exec, scrollsOf]
    by_cases hopen : g.type ≠ .none ∧ (g.phase = .began ∨ g.phase = .changed)
    · have hending : (g.endingScroll platform).scrollState = g.scrollState :=
        scrollState_endingScroll
      rw [scrollState_endGesture hopen, ← hending]
      by_cases htype : (g.endingScroll platform).type = .scroll
      · rw [if_pos ⟨hopen, htype⟩, if_pos htype]
        exact scrollRun_applyScroll rounding _ _ _
      · rw [if_neg fun h ↦ htype h.2, if_neg htype]
        exact .nil
    · rw [endGesture, if_neg hopen, if_neg fun h ↦ hopen h.1]
      exact .nil
  | applyZoom zoom =>
    rw [exec, scrollState_applyZoom]
    exact .nil
  | applyRotation rotation =>
    rw [exec, scrollState_applyRotation]
    exact .nil
  | applyDesktopSwipe dx dy =>
    rw [exec, scrollState_applyDesktopSwipe]
    exact .nil
  | applyScroll dx dy timeDiff => exact scrollRun_applyScroll rounding dx dy timeDiff
  | applyMomentum =>
    rw [exec, applyMomentum, scrollsOf]
    split_ifs
    · exact scrollRun_applyScroll rounding _ _ _
    · exact .nil

/-- **Every run** of an open gesture and of its momentum is one of scrolls. -/
theorem scrollRun_run (rounding : ExactRounding exact) {operations : List (Operation F)}
    (h : ∀ number, .beginGesture number ∉ operations) :
    ScrollRun exact platform g.scrollState (g.scrollTrace platform operations)
      (g.run platform operations).scrollState := by
  induction operations generalizing g with
  | nil => exact .nil
  | cons operation operations ih =>
    have hfirst : ∀ number, operation ≠ .beginGesture number := fun number heq ↦
      h number (heq ▸ List.mem_cons_self)
    exact (scrollRun_exec rounding hfirst).trans
      (ih fun number hmem ↦ h number (List.mem_cons_of_mem _ hmem))

/-- **No distance of a scroll is lost or invented**: what has been taken as whole pixels and what is
left in the partials is what the calls that returned true had, and so it is with lines where no
event timer delays them. On the Mac the scroll wheel events have exactly what is taken. -/
theorem scroll_conserved (rounding : ExactRounding exact) (platform : Platform) (g : LPGesture F)
    (hbegin : (g.beginGesture platform GestureType.scroll.number).2 = true)
    (operations : List (Operation F)) (honce : ∀ number, .beginGesture number ∉ operations) :
    let begun := (g.beginGesture platform GestureType.scroll.number).1
    let last := begun.run platform operations
    let scrolls := begun.scrollTrace platform operations
    (∀ axis,
      (scrolls.map fun scroll ↦ exact.value (scroll.pixels.get axis)).sum +
          exact.value (last.scrollPartialPixel.get axis) =
        (scrolls.map fun scroll ↦ inPixels exact (scroll.distance.get axis)).sum ∧
      |exact.value (last.scrollPartialPixel.get axis)| ≤ 1 / 2 ∧
      ∀ scroll ∈ scrolls, ∃ n : ℤ, exact.value (scroll.pixels.get axis) = n) ∧
    (platform.hasEventTimer = false → ∀ axis,
      (scrolls.map fun scroll ↦ (scroll.lines.get axis : K)).sum +
          exact.value (last.scrollPartialLine.get axis) =
        (scrolls.map fun scroll ↦ inPixels exact (scroll.distance.get axis) /
          exact.value (beginPixelsPerLine platform axis)).sum ∧
      0 ≤ exact.value (last.scrollPartialLine.get axis) ∧
      exact.value (last.scrollPartialLine.get axis) < 1) ∧
    (platform = .mac →
      last.events.filterMap GestureEvent.wheelOutput =
        begun.events.filterMap GestureEvent.wheelOutput ++
          scrolls.map fun scroll ↦ (scroll.pixels, scroll.lines)) := by
  intro begun last scrolls
  obtain ⟨hpixel, hline, hpixelsPerLine⟩ := scrollState_beginGesture hbegin
  have hrun : ScrollRun exact platform begun.scrollState scrolls last.scrollState :=
    scrollRun_run rounding honce
  have hzero : ∀ axis, exact.value ((GesturePoint.zero : GesturePoint F).get axis) = 0 := by
    intro axis
    cases axis <;> exact exact.value_zero
  refine ⟨fun axis ↦ ?_, fun htimer axis ↦ ?_, fun hmac ↦ ?_⟩
  · have hcarried := hrun.carried_pixels axis
    rw [show begun.scrollState.scrollPartialPixel = .zero from hpixel, hzero axis] at hcarried
    refine ⟨?_, ?_, ?_⟩
    · have hsum := hcarried.sum_add
      rwa [List.map_map, List.map_map, zero_add] at hsum
    · exact hcarried.rest_property (P := fun rest ↦ |rest| ≤ 1 / 2) (by norm_num)
        abs_sub_roundHalfAway_le
    · intro scroll hscroll
      exact hcarried.emitted_property (P := fun x : K ↦ ∃ n : ℤ, x = n) (fun x ↦ ⟨_, rfl⟩) _
        (List.mem_map_of_mem hscroll)
  · have hcarried := hrun.carried_lines htimer axis
    rw [show begun.scrollState.scrollPartialLine = .zero from hline, hzero axis,
      show begun.scrollState.pixelsPerLine = _ from hpixelsPerLine] at hcarried
    have hsum := hcarried.sum_add
    rw [List.map_map, List.map_map, zero_add] at hsum
    exact ⟨hsum, hcarried.rest_property (P := fun rest ↦ 0 ≤ rest ∧ rest < 1) (by norm_num)
      fun x ↦ ⟨Int.fract_nonneg x, Int.fract_lt_one x⟩⟩
  · subst hmac
    exact hrun.wheelOutputs

/-- A scroll with two ticks of its momentum. -/
theorem scroll_conserved_momentum :
    letI : Arithmetic ℚ := rationalArithmetic id
    letI : Rounding ℚ := rationalRounding
    let begun := ((construct (.replicate 11 .zero)).beginGesture .mac
      GestureType.scroll.number).1
    let operations : List (Operation ℚ) :=
      [.applyScroll 1 (-3) 8000, .endGesture, .applyMomentum, .applyMomentum]
    let scrolls := begun.scrollTrace .mac operations
    scrolls.map (fun scroll ↦ scroll.pixels.y) = [-14, 0, -14, -14] ∧
      (scrolls.map fun scroll ↦ scroll.pixels.y).sum +
          (begun.run .mac operations).scrollPartialPixel.y =
        (scrolls.map fun scroll ↦ scroll.distance.y * (120 / (127 / 5))).sum := by
  let : Arithmetic ℚ := rationalArithmetic id
  let : Rounding ℚ := rationalRounding
  intro begun operations scrolls
  have hconserved := scroll_conserved (ExactRounding.rational id) .mac
    (construct (.replicate 11 .zero)) (by decide) operations (by simp [operations])
  exact ⟨by decide +kernel, (hconserved.1 .y).1⟩

end Exact

end LPGesture

end Touchless
