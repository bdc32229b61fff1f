import Mathlib.Algebra.Order.Archimedean.Basic
import Touchless.OSInteraction.LPGestureScroll

/-!
# The momentum of a scroll

A scroll that ends leaves a momentum: the greatest entry of its history. Each tick of the timer
scrolls by the momentum and makes it smaller, by one of two factors, until it is slow; then it ends.

In exact arithmetic this always happens (`momentum_stops`), since the greater factor is less than
one. Which factor is taken depends on the direction: the test has no absolute value where the others
have one. So scrolls in opposite directions stay opposite as long as the test does not tell their
momenta apart, and no longer (`momentum_mirrored_iff`).
-/

namespace Touchless

namespace LPGesture

variable {F : Type}

/-- The momentum, and the history that it is taken from. -/
def inertia (g : LPGesture F) : GesturePoint F × List (GesturePoint F) :=
  (g.momentum, g.momentumHistory.toList)

section Calls

variable [Arithmetic F] [Rounding F] (platform : Platform) (g : LPGesture F)

/-- The test that ends the momentum. -/
def isSlow (dx dy : F) : Bool :=
  Arithmetic.lt (Arithmetic.abs (dx * pixelsPerMillimeter F)) (lit (3 / 2)) &&
    Arithmetic.lt (Arithmetic.abs (dy * pixelsPerMillimeter F)) (lit (3 / 2))

/-- The test that chooses the factor. -/
def isFast (momentum : GesturePoint F) : Bool :=
  Arithmetic.lt (lit (2 / 5)) momentum.x || Arithmetic.lt (lit (2 / 5)) momentum.y

/-- `scale`. -/
def decayScale (momentum : GesturePoint F) : F :=
  if isFast momentum then lit (49 / 50) else lit (24 / 25)

/-- Some ticks of the timer, with no other calls. -/
def ticks (n : ℕ) : LPGesture F := g.run platform (.replicate n .applyMomentum)

/-- A gesture: the scrolls, each with its distance and time difference, and the end. -/
def scrollGesture (deltas : List (F × F × ℤ)) : LPGesture F :=
  (((g.beginGesture platform GestureType.scroll.number).1.run platform
    (deltas.map fun (dx, dy, timeDiff) ↦ .applyScroll dx dy timeDiff)).endGesture platform).1

end Calls

/-! ### What concerns the momentum -/

/-- The same phases, whatever the timer does. -/
structure Control.Alike (c c' : Control) : Prop where
  type : c'.type = c.type
  phase : c'.phase = c.phase
  momentumPhase : c'.momentumPhase = c.momentumPhase

/-- A scroll moves them on alike. -/
theorem Control.Alike.advance {c c' : Control} (h : c.Alike c') : c.advance.Alike c'.advance := by
  obtain ⟨type, phase, momentumPhase, momentumTimer⟩ := c
  obtain ⟨type', phase', momentumPhase', momentumTimer'⟩ := c'
  obtain ⟨rfl, rfl, rfl⟩ : type' = type ∧ phase' = phase ∧ momentumPhase' = momentumPhase :=
    ⟨h.type, h.phase, h.momentumPhase⟩
  simp only [Control.advance]
  split_ifs <;> exact ⟨rfl, rfl, rfl⟩

section Frame

variable {platform : Platform} {g : LPGesture F}

@[simp]
theorem inertia_postMac (event : GestureEvent F) :
    (g.postMac platform event).inertia = g.inertia := by
  rw [postMac]
  split_ifs <;> rfl

@[simp]
theorem inertia_postWheel (event : ℤ → GestureEvent F) (lines mouseData : ℤ) :
    (g.postWheel event lines mouseData).inertia = g.inertia := by
  rw [postWheel]
  split_ifs <;> rfl

@[simp]
theorem inertia_postScroll (px py : F) (ilx ily : ℤ) :
    (g.postScroll platform px py ilx ily).inertia = g.inertia := by
  cases platform with
  | mac =>
    simp only [postScroll]
    split_ifs <;> rfl
  | windows wheelScrollChars wheelScrollLines => simp [postScroll]
  | linux => rfl

@[simp]
theorem inertia_changePhase : g.changePhase.inertia = g.inertia := by
  rw [changePhase]
  split_ifs <;> rfl

@[simp]
theorem inertia_advancePhases : g.advancePhases.inertia = g.inertia := by
  rw [advancePhases]
  split_ifs <;> rfl

/-- A new entry takes the place of the oldest one of a full history. -/
theorem toList_pushHistory (p : GesturePoint F) :
    (g.pushHistory p).toList =
      (if g.momentumHistory.toList.length = 11 then g.momentumHistory.toList.tail
        else g.momentumHistory.toList) ++ [p] := by
  rw [pushHistory, BoundedQueue.length_toList]
  by_cases hfull : g.momentumHistory.isFull = true
  · have hsize : g.momentumHistory.curSize = 11 := by simpa [BoundedQueue.isFull] using hfull
    have hempty := BoundedQueue.isEmpty_of_isFull hfull
    have hroom : (g.momentumHistory.dequeue hempty).2.isFull = false := by
      simp [BoundedQueue.isFull, BoundedQueue.dequeue, hsize]
    rw [dif_pos hfull, if_pos hsize, BoundedQueue.toList_enqueue hroom,
      BoundedQueue.toList_dequeue hempty, List.tail_cons]
  · have hsize : g.momentumHistory.curSize ≠ 11 := by simpa [BoundedQueue.isFull] using hfull
    rw [dif_neg hfull, if_neg hsize,
      BoundedQueue.toList_enqueue (Bool.eq_false_iff.2 hfull)]

variable [Arithmetic F]

variable [Rounding F]

@[simp]
theorem inertia_scrollBy (px py lx ly : F) (timeDiff : ℤ) :
    (g.scrollBy platform px py lx ly timeDiff).inertia = g.inertia := by
  have htake : (g.takeWhole platform px py lx ly timeDiff).1.inertia = g.inertia := by
    cases platform with
    | windows wheelScrollChars wheelScrollLines =>
      simp only [takeWhole, takeLines]
      split_ifs <;> rfl
    | mac => rfl
    | linux => rfl
  rw [scrollBy_eq, inertia_advancePhases, inertia_postScroll, htake]

variable (platform) in
/-- **A scroll** is prepared, and then moves on the phases; it returns early where it says so. -/
theorem applyScroll_inertia (hscrolls : g.type = .scroll ∨ g.momentumPhase ≠ .undefined)
    (dx dy : F) (timeDiff : ℤ) :
    (g.applyScroll platform dx dy timeDiff).1.inertia = (g.prepareScroll dx dy timeDiff).1.inertia ∧
      (g.applyScroll platform dx dy timeDiff).1.control =
        if (g.prepareScroll dx dy timeDiff).2 then
          (g.prepareScroll dx dy timeDiff).1.control.advance
        else (g.prepareScroll dx dy timeDiff).1.control := by
  rw [applyScroll_eq, if_pos hscrolls]
  split_ifs
  · exact ⟨inertia_scrollBy _ _ _ _ _, control_scrollBy _ _ _ _ _⟩
  · exact ⟨rfl, rfl⟩

omit [Rounding F] in
/-- With a slow momentum the scroll comes to its end, -/
theorem prepareScroll_slow {dx dy : F} (hmomentum : g.momentumPhase ≠ .undefined)
    (hslow : isSlow dx dy = true) (timeDiff : ℤ) :
    (g.prepareScroll dx dy timeDiff).1.inertia = (.zero, []) ∧
      (g.prepareScroll dx dy timeDiff).2 =
        decide (g.momentumPhase = .began → g.phase = .ended) ∧
      (g.prepareScroll dx dy timeDiff).1.control =
        if g.momentumPhase = .began then { g.control with momentumPhase := .undefined }
        else { g.control with momentumPhase := .ended, momentumTimer := false } := by
  rw [isSlow] at hslow
  rw [prepareScroll, if_pos hmomentum, decayMomentum, if_pos hslow]
  by_cases hbegan : g.momentumPhase = .began
  · have hbegan' : g.resetMomentum.momentumPhase = .began := hbegan
    simp only [if_pos hbegan', hbegan, forall_const, if_true]
    exact ⟨rfl, rfl, rfl⟩
  · have hbegan' : g.resetMomentum.momentumPhase ≠ .began := hbegan
    simp only [if_neg hbegan', hbegan, false_implies, if_false, decide_true]
    exact ⟨rfl, trivial, rfl⟩

omit [Rounding F] in
/-- and else it goes on with a smaller one. -/
theorem prepareScroll_decays {dx dy : F} (hmomentum : g.momentumPhase ≠ .undefined)
    (hslow : isSlow dx dy = false) (timeDiff : ℤ) :
    (g.prepareScroll dx dy timeDiff).1.inertia =
        (⟨g.momentum.x * decayScale g.momentum, g.momentum.y * decayScale g.momentum⟩,
          g.momentumHistory.toList) ∧
      (g.prepareScroll dx dy timeDiff).2 = true ∧
      (g.prepareScroll dx dy timeDiff).1.control = g.control := by
  rw [isSlow] at hslow
  rw [prepareScroll, if_pos hmomentum, decayMomentum, if_neg (by simpa using hslow)]
  exact ⟨rfl, rfl, rfl⟩

end Frame

/-! ### Ticks -/

section Ticks

variable [Arithmetic F] [Rounding F] {platform : Platform} {g : LPGesture F}

theorem ticks_zero : g.ticks platform 0 = g := rfl

theorem ticks_succ (n : ℕ) :
    g.ticks platform (n + 1) = (g.ticks platform n).applyMomentum platform := by
  rw [ticks, List.replicate_succ', run, List.foldl_append]
  rfl

theorem ticks_add (n k : ℕ) :
    g.ticks platform (n + k) = (g.ticks platform n).ticks platform k := by
  rw [ticks, List.replicate_add, run, List.foldl_append]
  rfl

/-- After the end, a tick does nothing. -/
theorem applyMomentum_undefined (h : g.momentumPhase = .undefined) :
    g.applyMomentum platform = g := by
  rw [applyMomentum, if_neg (not_not_intro h)]

theorem ticks_undefined (h : g.momentumPhase = .undefined) (n : ℕ) : g.ticks platform n = g := by
  induction n with
  | zero => rfl
  | succ n ih => rw [ticks_succ, ih, applyMomentum_undefined h]

variable (platform) in
/-- **A tick with a slow momentum** is the last one, -/
theorem applyMomentum_slow (hphase : g.phase = .undefined)
    (hmomentum : g.momentumPhase ≠ .undefined) (hslow : isSlow g.momentum.x g.momentum.y = true) :
    (g.applyMomentum platform).phase = .undefined ∧
      (g.applyMomentum platform).momentumPhase = .undefined ∧
      (g.applyMomentum platform).inertia = (.zero, []) := by
  obtain ⟨hinertia, hcontrol⟩ := applyScroll_inertia platform (.inr hmomentum)
    g.momentum.x g.momentum.y (Rounding.toInt (lit 1000000 / momentumFPS F))
  obtain ⟨hprepared, hgoesOn, hprepare⟩ := prepareScroll_slow hmomentum hslow
    (Rounding.toInt (lit 1000000 / momentumFPS F))
  rw [hgoesOn, hprepare] at hcontrol
  rw [applyMomentum, if_pos hmomentum]
  have hphases : ∀ {c : Control}, (g.applyScroll platform g.momentum.x g.momentum.y
      (Rounding.toInt (lit 1000000 / momentumFPS F))).1.control = c →
      c.phase = .undefined ∧ c.momentumPhase = .undefined := by
    rintro _ rfl
    rw [hcontrol]
    by_cases hbegan : g.momentumPhase = .began <;>
      simp [hbegan, control, Control.advance, hphase]
  exact ⟨(hphases rfl).1, (hphases rfl).2, hinertia.trans hprepared⟩

variable (platform) in
/-- **and with a fast one** makes it smaller; then the momentum has changed. -/
theorem applyMomentum_decays (hphase : g.phase = .undefined)
    (hmomentum : g.momentumPhase = .began ∨ g.momentumPhase = .changed)
    (hslow : isSlow g.momentum.x g.momentum.y = false) :
    (g.applyMomentum platform).phase = .undefined ∧
      (g.applyMomentum platform).momentumPhase = .changed ∧
      (g.applyMomentum platform).momentum =
        ⟨g.momentum.x * decayScale g.momentum, g.momentum.y * decayScale g.momentum⟩ := by
  have hdefined : g.momentumPhase ≠ .undefined := by
    rcases hmomentum with h | h <;> simp [h]
  obtain ⟨hinertia, hcontrol⟩ := applyScroll_inertia platform (.inr hdefined)
    g.momentum.x g.momentum.y (Rounding.toInt (lit 1000000 / momentumFPS F))
  obtain ⟨hprepared, hgoesOn, hprepare⟩ := prepareScroll_decays hdefined hslow
    (Rounding.toInt (lit 1000000 / momentumFPS F))
  rw [hgoesOn, hprepare, if_pos rfl] at hcontrol
  rw [applyMomentum, if_pos hdefined]
  have hphases : g.control.advance.phase = .undefined ∧
      g.control.advance.momentumPhase = .changed := by
    rcases hmomentum with h | h <;> simp [control, Control.advance, hphase, h]
  refine ⟨?_, ?_, congrArg Prod.fst (hinertia.trans hprepared)⟩
  · exact (congrArg Control.phase hcontrol).trans hphases.1
  · exact (congrArg Control.momentumPhase hcontrol).trans hphases.2

/-- The greatest entry of a history, and whether there is one. -/
def startingMomentum (history : List (GesturePoint F)) : GesturePoint F × F × ℕ :=
  history.foldl selectMomentum (.zero, lit 0, 0)

variable (platform) in
omit [Rounding F] in
/-- The events of the end do not concern the momentum. -/
theorem endingScroll_inertia (htype : g.type = .scroll) :
    (g.endingScroll platform).inertia = g.inertia ∧
      (g.endingScroll platform).control = ⟨.scroll, .ended, g.momentumPhase, false⟩ := by
  have hnothing : ({ g with phase := .ended } : LPGesture F).applyNothing platform =
      { g with phase := .ended } := by
    rw [applyNothing, if_neg (by simp [htype]), if_neg (by simp [htype])]
  rw [endingScroll, hnothing]
  by_cases hmac : platform = .mac
  · rw [if_pos hmac, endMac, if_neg (by simp [GestureType.isDesktopSwipe, htype])]
    exact ⟨rfl, by rw [← htype]; rfl⟩
  · rw [if_neg hmac]
    exact ⟨rfl, by rw [← htype]; rfl⟩

variable (platform) in
/-- The scroll by nothing at the end goes on, and leaves the momentum alone. -/
theorem applyScroll_ended (htype : g.type = .scroll) (hphase : g.phase = .ended)
    (hmomentum : g.momentumPhase = .undefined) (dx dy : F) (timeDiff : ℤ) :
    (g.applyScroll platform dx dy timeDiff).1.inertia = g.inertia ∧
      (g.applyScroll platform dx dy timeDiff).1.control = g.control := by
  obtain ⟨hinertia, hcontrol⟩ :=
    applyScroll_inertia platform (.inl htype) dx dy timeDiff
  have hprepare : g.prepareScroll dx dy timeDiff = (g, true) := by
    rw [prepareScroll, if_neg (not_not_intro hmomentum), if_neg (not_not_intro hphase)]
  rw [hprepare] at hinertia hcontrol
  refine ⟨hinertia, hcontrol.trans ?_⟩
  simp [control, Control.advance, hphase, hmomentum]

variable (platform) in
/-- The greatest entry of the history is selected, and the history used up. -/
theorem startMomentum_inertia (htype : g.type = .scroll) (hphase : g.phase = .ended)
    (hmomentum : g.momentumPhase = .undefined) :
    (g.startMomentum platform).control =
        (if (startingMomentum g.momentumHistory.toList).2.2 ≠ 0 then ⟨.scroll, .ended, .began, true⟩
        else ⟨.scroll, .ended, .undefined, false⟩) ∧
      (g.startMomentum platform).inertia =
        ((startingMomentum g.momentumHistory.toList).1, []) := by
  obtain ⟨hinertia, hcontrol⟩ := applyScroll_ended platform
    (g := { g with momentumTimer := false }) htype hphase hmomentum (lit 0) (lit 0) 0
  rw [startMomentum]
  generalize ({ g with momentumTimer := false }.applyScroll platform (lit 0) (lit 0) 0).1 =
    scrolled at *
  have hhistory : scrolled.momentumHistory.toList = g.momentumHistory.toList :=
    congrArg Prod.snd hinertia
  have hscrolled : scrolled.control = ⟨.scroll, .ended, .undefined, false⟩ := by
    rw [hcontrol, ← htype, ← hphase, ← hmomentum]
    rfl
  obtain ⟨hempty, hselected⟩ := BoundedQueue.drain_toList selectMomentum
    (q := scrolled.momentumHistory) ((.zero : GesturePoint F), (lit 0 : F), 0) rfl
  rw [hhistory] at hselected
  rw [startingMomentum, ← hselected, ← hempty]
  dsimp only [BoundedQueue.size]
  split_ifs
  · exact ⟨congrArg (fun c : Control ↦ { c with momentumPhase := .began, momentumTimer := true })
      hscrolled, rfl⟩
  · exact ⟨hscrolled, rfl⟩

variable (platform) in
/-- **The end of a scroll** starts the momentum and the timer, if there is a history. -/
theorem endGesture_inertia (h : g.control.Settled) (htype : g.type = .scroll) :
    (g.endGesture platform).1.control =
        (if (startingMomentum g.momentumHistory.toList).2.2 ≠ 0 then
          ⟨.none, .undefined, .began, true⟩
        else ⟨.none, .undefined, .undefined, false⟩) ∧
      (g.endGesture platform).1.inertia = ((startingMomentum g.momentumHistory.toList).1, []) := by
  obtain ⟨hphase, hmomentum⟩ := h.opened (by rw [show g.control.type = .scroll from htype]; simp)
  have hopen : g.type ≠ .none ∧ (g.phase = .began ∨ g.phase = .changed) :=
    ⟨by simp [htype], hphase⟩
  obtain ⟨hendedInertia, hendedControl⟩ := endingScroll_inertia platform htype
  simp only [endGesture, if_pos hopen]
  generalize hended : ite (platform = .mac) _ _ = ended
  have hending : g.endingScroll platform = { ended with momentumTimer := false } := by
    rw [← hended]
    rfl
  rw [hending] at hendedInertia hendedControl
  have hscroll : ended.type = .scroll := congrArg Control.type hendedControl
  have hhistory : ended.momentumHistory.toList = g.momentumHistory.toList :=
    congrArg Prod.snd hendedInertia
  obtain ⟨hcontrol, hinertia⟩ := startMomentum_inertia platform hscroll
    (congrArg Control.phase hendedControl)
    ((congrArg Control.momentumPhase hendedControl).trans hmomentum)
  rw [hhistory] at hcontrol hinertia
  rw [if_pos hscroll]
  refine ⟨?_, hinertia⟩
  have hclosed :=
    congrArg (fun c : Control ↦ { c with type := .none, phase := .undefined }) hcontrol
  refine hclosed.trans ?_
  split_ifs <;> rfl

variable (platform) in
/-- Then the momentum has begun, or there is none. -/
theorem endGesture_phases (h : g.control.Settled) (htype : g.type = .scroll) :
    (g.endGesture platform).1.phase = .undefined ∧
      ((g.endGesture platform).1.momentumPhase = .undefined ∨
        (g.endGesture platform).1.momentumPhase = .began) := by
  have hcontrol := (endGesture_inertia platform h htype).1
  split_ifs at hcontrol
  · exact ⟨congrArg Control.phase hcontrol, .inr (congrArg Control.momentumPhase hcontrol)⟩
  · exact ⟨congrArg Control.phase hcontrol, .inl (congrArg Control.momentumPhase hcontrol)⟩

/-- A gesture that has begun. -/
theorem beginGesture_inertia (h : (g.beginGesture platform GestureType.scroll.number).2 = true) :
    Control.Alike ⟨.scroll, .began, .undefined, false⟩
        (g.beginGesture platform GestureType.scroll.number).1.control ∧
      (g.beginGesture platform GestureType.scroll.number).1.inertia = (.zero, []) := by
  have hopens : g.type = .none ∧
      (GestureType.ofNumber GestureType.scroll.number).eventType ≠ .null := by
    simpa using beginGesture_succeeds_iff.1 h
  simp only [beginGesture, if_pos hopens]
  generalize ite (g.momentumPhase ≠ .undefined) _ g = stopped
  have hscroll : GestureType.ofNumber GestureType.scroll.number = .scroll := rfl
  rw [hscroll, if_neg (by decide), postMac]
  split_ifs <;> exact ⟨⟨rfl, rfl, rfl⟩, rfl⟩

end Ticks

section Exact

variable {K : Type} [Field K] [LinearOrder K] [IsStrictOrderedRing K] [Arithmetic F]
  (exact : ExactSigns F K)

/-! ### The end of the momentum -/

/-- The test is about the absolute values. -/
theorem isSlow_iff {dx dy : F} :
    isSlow dx dy = true ↔ |exact.value dx| * (120 / (127 / 5)) < 3 / 2 ∧
      |exact.value dy| * (120 / (127 / 5)) < 3 / 2 := by
  have habs : ∀ d : F, |inPixels exact.toExactOperations d| =
      |exact.value d| * (120 / (127 / 5)) := fun d ↦ by
    rw [inPixels, abs_mul, abs_of_pos (by norm_num : (0 : K) < 120 / (127 / 5))]
  have hlit : exact.value (lit (3 / 2)) = 3 / 2 := by
    rw [exact.value_lit]
    norm_num
  rw [isSlow, Bool.and_eq_true, exact.lt_iff, exact.lt_iff, exact.value_abs, exact.value_abs,
    value_mul_pixelsPerMillimeter exact.toExactOperations,
    value_mul_pixelsPerMillimeter exact.toExactOperations, habs, habs, hlit]

/-- Both factors are less than one. -/
theorem value_decayScale (momentum : GesturePoint F) :
    0 < exact.value (decayScale momentum) ∧ exact.value (decayScale momentum) ≤ 49 / 50 := by
  rw [decayScale]
  split_ifs <;> rw [exact.value_lit] <;> norm_num

variable [Rounding F] {platform : Platform} {g : LPGesture F}

variable (platform) in
/-- After some ticks the momentum has ended, or decayed that often. -/
theorem ticks_decayed (hphase : g.phase = .undefined)
    (hmomentum : g.momentumPhase = .undefined ∨ g.momentumPhase = .began) (n : ℕ) :
    (g.ticks platform n).phase = .undefined ∧
      ((g.ticks platform n).momentumPhase = .undefined ∨
        ((g.ticks platform n).momentumPhase = .began ∨
          (g.ticks platform n).momentumPhase = .changed) ∧
        |exact.value (g.ticks platform n).momentum.x| ≤
          (49 / 50) ^ n * |exact.value g.momentum.x| ∧
        |exact.value (g.ticks platform n).momentum.y| ≤
          (49 / 50) ^ n * |exact.value g.momentum.y|) := by
  induction n with
  | zero =>
    rw [ticks_zero, pow_zero, one_mul, one_mul]
    exact ⟨hphase, hmomentum.imp_right fun hbegan ↦ ⟨.inl hbegan, le_rfl, le_rfl⟩⟩
  | succ n ih =>
    rw [ticks_succ]
    obtain ⟨hphase, hended | ⟨hmoving, hx, hy⟩⟩ := ih
    · rw [applyMomentum_undefined hended]
      exact ⟨hphase, .inl hended⟩
    cases hslow : isSlow (g.ticks platform n).momentum.x (g.ticks platform n).momentum.y with
    | true =>
      have hdefined : (g.ticks platform n).momentumPhase ≠ .undefined := by
        rcases hmoving with h | h <;> simp [h]
      obtain ⟨hphase', hended, -⟩ :=
        applyMomentum_slow platform hphase hdefined hslow
      exact ⟨hphase', .inl hended⟩
    | false =>
      obtain ⟨hphase', hchanged, hdecays⟩ :=
        applyMomentum_decays platform hphase hmoving hslow
      obtain ⟨hpos, hle⟩ := value_decayScale exact (g.ticks platform n).momentum
      -- one more factor, of at most 49/50
      have hdecay : ∀ {v w : K}, |v| ≤ (49 / 50) ^ n * |w| →
          |v * exact.value (decayScale (g.ticks platform n).momentum)| ≤
            (49 / 50) ^ (n + 1) * |w| := by
        intro v w hv
        calc |v * exact.value (decayScale (g.ticks platform n).momentum)|
            = exact.value (decayScale (g.ticks platform n).momentum) * |v| := by
              rw [abs_mul, abs_of_pos hpos, mul_comm]
          _ ≤ 49 / 50 * ((49 / 50) ^ n * |w|) :=
              mul_le_mul hle hv (abs_nonneg v) (by norm_num)
          _ = (49 / 50) ^ (n + 1) * |w| := by rw [pow_succ', mul_assoc]
      refine ⟨hphase', .inr ⟨.inr hchanged, ?_, ?_⟩⟩
      · rw [hdecays, exact.value_mul]
        exact hdecay hx
      · rw [hdecays, exact.value_mul]
        exact hdecay hy

variable (platform) in
include exact in
/-- So many ticks make it slow, and one more ends it. -/
theorem exists_ticks_undefined [Archimedean K] (hphase : g.phase = .undefined)
    (hmomentum : g.momentumPhase = .undefined ∨ g.momentumPhase = .began) :
    ∃ n, (g.ticks platform n).momentumPhase = .undefined := by
  obtain ⟨top, htop⟩ : ∃ top, top = max |exact.value g.momentum.x| |exact.value g.momentum.y| :=
    ⟨_, rfl⟩
  have hx : |exact.value g.momentum.x| ≤ top := htop ▸ le_max_left _ _
  have hy : |exact.value g.momentum.y| ≤ top := htop ▸ le_max_right _ _
  have hpos : 0 < top + 1 := add_pos_of_nonneg_of_pos ((abs_nonneg _).trans hx) one_pos
  obtain ⟨n, hn⟩ : ∃ n : ℕ, (49 / 50 : K) ^ n < 3 / 2 / (120 / (127 / 5)) / (top + 1) :=
    exists_pow_lt_of_lt_one (div_pos (by norm_num) hpos) (by norm_num)
  have hsmall : ∀ {v w : K}, |v| ≤ (49 / 50) ^ n * |w| → |w| ≤ top →
      |v| * (120 / (127 / 5)) < 3 / 2 := by
    intro v w hv hw
    rw [← lt_div_iff₀ (by norm_num)]
    calc |v| ≤ (49 / 50) ^ n * |w| := hv
      _ ≤ (49 / 50) ^ n * (top + 1) :=
          mul_le_mul_of_nonneg_left (hw.trans (le_add_of_nonneg_right zero_le_one)) (by positivity)
      _ < 3 / 2 / (120 / (127 / 5)) := (lt_div_iff₀ hpos).1 hn
  refine ⟨n + 1, ?_⟩
  rw [ticks_succ]
  obtain ⟨hphase', hended | ⟨hmoving, hdecayedX, hdecayedY⟩⟩ :=
    ticks_decayed exact platform hphase hmomentum n
  · rw [applyMomentum_undefined hended]
    exact hended
  · have hdefined : (g.ticks platform n).momentumPhase ≠ .undefined := by
      rcases hmoving with h | h <;> simp [h]
    exact (applyMomentum_slow platform hphase' hdefined
      ((isSlow_iff exact).2 ⟨hsmall hdecayedX hx, hsmall hdecayedY hy⟩)).2.1

include exact in
/-- **The momentum of a scroll always stops**: after some ticks of the timer the momentum phase is
undefined, and no later tick changes anything. -/
theorem momentum_stops [Archimedean K] (platform : Platform)
    (memory : Vector (GesturePoint F) 11) (operations : List (Operation F))
    (hscroll : ((construct memory).run platform operations).type = .scroll) :
    let ended := (((construct memory).run platform operations).endGesture platform).1
    ∃ n, (ended.ticks platform n).momentumPhase = .undefined ∧
      ∀ m, n ≤ m → ended.ticks platform m = ended.ticks platform n := by
  intro ended
  obtain ⟨hphase, hmomentum⟩ := endGesture_phases platform
    (settled_run (settled_construct memory) operations) hscroll
  obtain ⟨n, hn⟩ := exists_ticks_undefined exact platform hphase hmomentum
  refine ⟨n, hn, fun m hm ↦ ?_⟩
  obtain ⟨k, rfl⟩ := Nat.exists_eq_add_of_le hm
  rw [ticks_add]
  exact ticks_undefined hn k

/-- A scroll that leaves a momentum of 1. -/
theorem momentum_stops_down :
    letI : Arithmetic ℚ := rationalArithmetic id
    letI : Rounding ℚ := rationalRounding
    let ended := (((construct (.replicate 11 .zero)).run .mac
      [.beginGesture 1, .applyScroll 0 (1 : ℚ) 8000]).endGesture .mac).1
    ended.momentum.y = 1 ∧ ∃ n, (ended.ticks .mac n).momentumPhase = .undefined ∧
      ∀ m, n ≤ m → ended.ticks .mac m = ended.ticks .mac n := by
  let : Arithmetic ℚ := rationalArithmetic id
  let : Rounding ℚ := rationalRounding
  exact ⟨by decide +kernel, momentum_stops (ExactSigns.rational id) .mac (.replicate 11 .zero)
    [.beginGesture 1, .applyScroll 0 (1 : ℚ) 8000] (by decide +kernel)⟩

/-! ### Opposite directions -/

/-- Opposite points. -/
structure Opposite (p p' : GesturePoint F) : Prop where
  x : exact.value p'.x = -exact.value p.x
  y : exact.value p'.y = -exact.value p.y

/-- Scrolls by opposite distances in the same time. -/
structure OppositeScroll (d d' : F × F × ℤ) : Prop where
  distance : Opposite exact ⟨d.1, d.2.1⟩ ⟨d'.1, d'.2.1⟩
  timeDiff : d'.2.2 = d.2.2

/-- Momenta and histories that differ in direction. -/
structure OppositeInertia (i i' : GesturePoint F × List (GesturePoint F)) : Prop where
  momentum : Opposite exact i.1 i'.1
  history : List.Forall₂ (Opposite exact) i.2 i'.2

/-- Two gestures that differ in direction, as far as the momentum is concerned. -/
structure Mirror (g g' : LPGesture F) : Prop where
  alike : g.control.Alike g'.control
  inertia : OppositeInertia exact g.inertia g'.inertia

/-- Opposite selections so far, with the same greatest absolute value. -/
def OppositeSelection (s s' : GesturePoint F × F × ℕ) : Prop :=
  Opposite exact s.1 s'.1 ∧ exact.value s'.2.1 = exact.value s.2.1 ∧ s'.2.2 = s.2.2

/-- The test of the factor does not tell a momentum from its opposite. -/
structure Evenhanded (p : GesturePoint F) : Prop where
  iff : 2 / 5 < exact.value p.x ∨ 2 / 5 < exact.value p.y ↔
    exact.value p.x < -(2 / 5) ∨ exact.value p.y < -(2 / 5)

/-- The next tick makes the momentum smaller. -/
def Decays (g : LPGesture F) : Prop :=
  g.momentumPhase ≠ .undefined ∧ isSlow g.momentum.x g.momentum.y = false

variable {exact} {p p' : GesturePoint F} {g' : LPGesture F}

omit [IsStrictOrderedRing K] [Rounding F] in
theorem Opposite.zero : Opposite exact .zero .zero := by
  have hzero : exact.value (lit 0) = -exact.value (lit 0) := by
    rw [exact.value_zero, neg_zero]
  exact ⟨hzero, hzero⟩

omit [IsStrictOrderedRing K] [Rounding F] in
/-- Opposite points, scaled alike. -/
theorem Opposite.mul (h : Opposite exact p p') {s s' : F} (hs : exact.value s' = exact.value s) :
    Opposite exact ⟨p.x * s, p.y * s⟩ ⟨p'.x * s', p'.y * s'⟩ where
  x := by rw [exact.value_mul, exact.value_mul, hs, h.x, neg_mul]
  y := by rw [exact.value_mul, exact.value_mul, hs, h.y, neg_mul]

omit [IsStrictOrderedRing K] [Rounding F] in
/-- They have the same absolute values. -/
theorem Opposite.abs [IsOrderedAddMonoid K] (h : Opposite exact p p') :
    exact.value (Arithmetic.abs p'.x) = exact.value (Arithmetic.abs p.x) ∧
      exact.value (Arithmetic.abs p'.y) = exact.value (Arithmetic.abs p.y) := by
  rw [exact.value_abs, exact.value_abs, exact.value_abs, exact.value_abs, h.x, h.y, abs_neg,
    abs_neg]
  exact ⟨rfl, rfl⟩

omit [IsStrictOrderedRing K] [Rounding F] in
/-- Comparisons depend on the values only. -/
theorem lt_congr {x x' y y' : F} (hx : exact.value x' = exact.value x)
    (hy : exact.value y' = exact.value y) : Arithmetic.lt x' y' = Arithmetic.lt x y := by
  rw [Bool.eq_iff_iff, exact.lt_iff, exact.lt_iff, hx, hy]

omit [IsStrictOrderedRing K] [Rounding F] in
theorem le_congr {x x' y y' : F} (hx : exact.value x' = exact.value x)
    (hy : exact.value y' = exact.value y) : Arithmetic.le x' y' = Arithmetic.le x y := by
  rw [Bool.eq_iff_iff, exact.le_iff, exact.le_iff, hx, hy]

omit [Rounding F] in
theorem Opposite.isSlow (h : Opposite exact p p') :
    isSlow p'.x p'.y = LPGesture.isSlow p.x p.y := by
  rw [Bool.eq_iff_iff, isSlow_iff exact, isSlow_iff exact, h.x, h.y, abs_neg, abs_neg]

omit [Rounding F] in
/-- The factor is the same where the test is evenhanded, and only there. -/
theorem Opposite.decayScale_iff (h : Opposite exact p p') :
    exact.value (decayScale p') = exact.value (decayScale p) ↔ Evenhanded exact p := by
  have hfast : ∀ q : GesturePoint F,
      isFast q = true ↔ 2 / 5 < exact.value q.x ∨ 2 / 5 < exact.value q.y := fun q ↦ by
    rw [isFast, Bool.or_eq_true, exact.lt_iff, exact.lt_iff, exact.value_lit]
    norm_num
  have hopposite : isFast p' = true ↔
      exact.value p.x < -(2 / 5) ∨ exact.value p.y < -(2 / 5) := by
    rw [hfast, h.x, h.y]
    exact or_congr lt_neg lt_neg
  have heven : Evenhanded exact p ↔ (isFast p = true ↔ isFast p' = true) := by
    rw [hfast, hopposite]
    exact ⟨Evenhanded.iff, .mk⟩
  rw [heven, decayScale, decayScale]
  cases isFast p' <;> cases isFast p <;> simp [exact.value_lit] <;> norm_num

/-! Each part of a gesture keeps the momenta opposite. -/

omit [IsStrictOrderedRing K] in
theorem mirror_beginGesture (h : (g.beginGesture platform GestureType.scroll.number).2 = true)
    (h' : (g'.beginGesture platform GestureType.scroll.number).2 = true) :
    Mirror exact (g.beginGesture platform GestureType.scroll.number).1
      (g'.beginGesture platform GestureType.scroll.number).1 := by
  obtain ⟨hcontrol, hinertia⟩ := beginGesture_inertia h
  obtain ⟨hcontrol', hinertia'⟩ := beginGesture_inertia h'
  refine ⟨⟨hcontrol'.type.trans hcontrol.type.symm, hcontrol'.phase.trans hcontrol.phase.symm,
    hcontrol'.momentumPhase.trans hcontrol.momentumPhase.symm⟩, ?_⟩
  rw [hinertia, hinertia']
  exact ⟨.zero, .nil⟩

omit [Rounding F] in
/-- What is recorded of opposite scrolls. -/
theorem Mirror.recordMomentum (h : Mirror exact g g') {dx dy dx' dy' : F} (timeDiff : ℤ)
    (hopposite : Opposite exact ⟨dx, dy⟩ ⟨dx', dy'⟩) :
    OppositeInertia exact (g.recordMomentum dx dy timeDiff).1.inertia
        (g'.recordMomentum dx' dy' timeDiff).1.inertia ∧
      (g'.recordMomentum dx' dy' timeDiff).2 = (g.recordMomentum dx dy timeDiff).2 := by
  obtain ⟨habsX, habsY⟩ := hopposite.abs
  have hlittle : (Arithmetic.le (Arithmetic.abs dx') (lit (1 / 10000000)) &&
      Arithmetic.le (Arithmetic.abs dy') (lit (1 / 10000000))) =
      (Arithmetic.le (Arithmetic.abs dx) (lit (1 / 10000000)) &&
        Arithmetic.le (Arithmetic.abs dy) (lit (1 / 10000000))) := by
    rw [le_congr habsX rfl, le_congr habsY rfl]
  have hreset : OppositeInertia exact g.resetMomentum.inertia g'.resetMomentum.inertia :=
    ⟨.zero, .nil⟩
  rw [LPGesture.recordMomentum, LPGesture.recordMomentum, hlittle]
  split_ifs
  · exact ⟨hreset, rfl⟩
  · refine ⟨⟨h.inertia.momentum, ?_⟩, rfl⟩
    show List.Forall₂ _ (g.pushHistory _).toList (g'.pushHistory _).toList
    have hhistory : List.Forall₂ (Opposite exact) g.momentumHistory.toList
        g'.momentumHistory.toList := h.inertia.history
    rw [toList_pushHistory, toList_pushHistory, ← hhistory.length_eq]
    refine List.rel_append ?_ (.cons (hopposite.mul rfl) .nil)
    split_ifs
    · rw [← List.drop_one, ← List.drop_one]
      exact List.forall₂_drop 1 hhistory
    · exact hhistory
  · exact ⟨hreset, rfl⟩

omit [Rounding F] in
/-- A scroll is prepared alike in both directions, unless the factor tells them apart. -/
theorem Mirror.prepareScroll (h : Mirror exact g g') {dx dy dx' dy' : F} (timeDiff : ℤ)
    (hopposite : Opposite exact ⟨dx, dy⟩ ⟨dx', dy'⟩)
    (heven : g.momentumPhase ≠ .undefined → LPGesture.isSlow dx dy = false →
      Evenhanded exact g.momentum) :
    Mirror exact (g.prepareScroll dx dy timeDiff).1 (g'.prepareScroll dx' dy' timeDiff).1 ∧
      (g'.prepareScroll dx' dy' timeDiff).2 = (g.prepareScroll dx dy timeDiff).2 := by
  have hmomentumPhase : g'.momentumPhase = g.momentumPhase := h.alike.momentumPhase
  have hphase : g'.phase = g.phase := h.alike.phase
  by_cases hmomentum : g.momentumPhase = .undefined
  · have hmomentum' : g'.momentumPhase = .undefined := hmomentumPhase.trans hmomentum
    rw [LPGesture.prepareScroll, LPGesture.prepareScroll, if_neg (not_not_intro hmomentum),
      if_neg (not_not_intro hmomentum'), hphase]
    split_ifs
    · obtain ⟨hinertia, hgoesOn⟩ := h.recordMomentum timeDiff hopposite
      refine ⟨⟨?_, hinertia⟩, hgoesOn⟩
      rw [control_recordMomentum, control_recordMomentum]
      exact h.alike
    · exact ⟨h, rfl⟩
  · have hmomentum' : g'.momentumPhase ≠ .undefined := hmomentumPhase ▸ hmomentum
    cases hslow : LPGesture.isSlow dx dy with
    | true =>
      obtain ⟨hinertia, hgoesOn, hcontrol⟩ := prepareScroll_slow hmomentum hslow timeDiff
      obtain ⟨hinertia', hgoesOn', hcontrol'⟩ :=
        prepareScroll_slow hmomentum' (hopposite.isSlow.trans hslow) timeDiff
      refine ⟨⟨?_, ?_⟩, ?_⟩
      · rw [hcontrol, hcontrol', hmomentumPhase]
        split_ifs
        · exact ⟨h.alike.type, h.alike.phase, rfl⟩
        · exact ⟨h.alike.type, h.alike.phase, rfl⟩
      · rw [hinertia, hinertia']
        exact ⟨.zero, .nil⟩
      · rw [hgoesOn, hgoesOn', hmomentumPhase, hphase]
    | false =>
      obtain ⟨hinertia, hgoesOn, hcontrol⟩ := prepareScroll_decays hmomentum hslow timeDiff
      obtain ⟨hinertia', hgoesOn', hcontrol'⟩ :=
        prepareScroll_decays hmomentum' (hopposite.isSlow.trans hslow) timeDiff
      refine ⟨⟨?_, ?_⟩, ?_⟩
      · rw [hcontrol, hcontrol']
        exact h.alike
      · rw [hinertia, hinertia']
        exact ⟨h.inertia.momentum.mul (h.inertia.momentum.decayScale_iff.2 (heven hmomentum hslow)),
          h.inertia.history⟩
      · rw [hgoesOn, hgoesOn']

/-- **A scroll** in both directions. -/
theorem Mirror.applyScroll (h : Mirror exact g g') {dx dy dx' dy' : F} (timeDiff : ℤ)
    (hopposite : Opposite exact ⟨dx, dy⟩ ⟨dx', dy'⟩)
    (heven : g.momentumPhase ≠ .undefined → LPGesture.isSlow dx dy = false →
      Evenhanded exact g.momentum) :
    Mirror exact (g.applyScroll platform dx dy timeDiff).1
      (g'.applyScroll platform dx' dy' timeDiff).1 := by
  have htype : g'.type = g.type := h.alike.type
  have hmomentumPhase : g'.momentumPhase = g.momentumPhase := h.alike.momentumPhase
  by_cases hscrolls : g.type = .scroll ∨ g.momentumPhase ≠ .undefined
  · have hscrolls' : g'.type = .scroll ∨ g'.momentumPhase ≠ .undefined := by
      rwa [htype, hmomentumPhase]
    obtain ⟨hprepared, hgoesOn⟩ := h.prepareScroll timeDiff hopposite heven
    obtain ⟨hinertia, hcontrol⟩ :=
      applyScroll_inertia platform hscrolls dx dy timeDiff
    obtain ⟨hinertia', hcontrol'⟩ :=
      applyScroll_inertia platform hscrolls' dx' dy' timeDiff
    refine ⟨?_, ?_⟩
    · rw [hcontrol, hcontrol', hgoesOn]
      split_ifs
      · exact hprepared.alike.advance
      · exact hprepared.alike
    · rw [hinertia, hinertia']
      exact hprepared.inertia
  · have hscrolls' : ¬(g'.type = .scroll ∨ g'.momentumPhase ≠ .undefined) := by
      rwa [htype, hmomentumPhase]
    rw [applyScroll_eq, applyScroll_eq, if_neg hscrolls, if_neg hscrolls']
    exact h

omit [Rounding F] in
/-- One turn of the loop selects alike, on each axis. -/
theorem OppositeSelection.selectMomentum {s s' : GesturePoint F × F × ℕ}
    (h : OppositeSelection exact s s') (hp : Opposite exact p p') :
    OppositeSelection exact (selectMomentum s p) (selectMomentum s' p') := by
  obtain ⟨selected, maxAbsValue, n⟩ := s
  obtain ⟨selected', maxAbsValue', n'⟩ := s'
  obtain ⟨habsX, habsY⟩ := hp.abs
  have haxis : ∀ {q q' : GesturePoint F} {m m' a a' : F}, Opposite exact q q' →
      exact.value m' = exact.value m → exact.value a' = exact.value a →
      Opposite exact (if Arithmetic.lt m a then (p, a) else (q, m)).1
          (if Arithmetic.lt m' a' then (p', a') else (q', m')).1 ∧
        exact.value (if Arithmetic.lt m' a' then (p', a') else (q', m')).2 =
          exact.value (if Arithmetic.lt m a then (p, a) else (q, m)).2 := by
    intro q q' m m' a a' hq hm ha
    rw [lt_congr hm ha]
    split_ifs
    · exact ⟨hp, ha⟩
    · exact ⟨hq, hm⟩
  obtain ⟨hx, hmaxX⟩ := haxis h.1 h.2.1 habsX
  obtain ⟨hy, hmaxY⟩ := haxis hx hmaxX habsY
  exact ⟨hy, hmaxY, congrArg (· + 1) h.2.2⟩

omit [Rounding F] in
/-- The greatest entries of opposite histories are opposite. -/
theorem startingMomentum_opposite {history history' : List (GesturePoint F)}
    (h : List.Forall₂ (Opposite exact) history history') :
    Opposite exact (startingMomentum history).1 (startingMomentum history').1 ∧
      (startingMomentum history').2.2 = (startingMomentum history).2.2 := by
  have hselection : OppositeSelection exact (startingMomentum history)
      (startingMomentum history') := by
    refine List.rel_foldl (fun s s' hs p p' hp ↦ ?_) ⟨.zero, rfl, rfl⟩ h
    exact OppositeSelection.selectMomentum hs hp
  exact ⟨hselection.1, hselection.2.2⟩

/-! ### Two runs -/

variable (platform) in
/-- The scrolls of a gesture, -/
theorem Mirror.run_scrolls {deltas deltas' : List (F × F × ℤ)}
    (hopposite : List.Forall₂ (OppositeScroll exact) deltas deltas') :
    ∀ {g g' : LPGesture F}, Mirror exact g g' → g.control.Settled → g.type = .scroll →
      Mirror exact
        (g.run platform (deltas.map fun (dx, dy, timeDiff) ↦ .applyScroll dx dy timeDiff))
        (g'.run platform (deltas'.map fun (dx, dy, timeDiff) ↦ .applyScroll dx dy timeDiff)) := by
  induction hopposite with
  | nil => exact fun h _ _ ↦ h
  | @cons d d' deltas deltas' hd _ ih =>
    intro g g' h hsettled htype
    obtain ⟨-, hundefined⟩ :=
      hsettled.opened (by rw [show g.control.type = .scroll from htype]; simp)
    -- during a gesture there is no momentum that could decay
    have hstep : Mirror exact (g.applyScroll platform d.1 d.2.1 d.2.2).1
        (g'.applyScroll platform d'.1 d'.2.1 d.2.2).1 :=
      h.applyScroll d.2.2 hd.distance fun hdefined ↦ absurd hundefined hdefined
    rw [List.map_cons, List.map_cons, run, run, List.foldl_cons, List.foldl_cons]
    refine ih ?_ (settled_applyScroll hsettled _ _ _)
      ((continues_applyScroll _ _ _).type.trans htype)
    simp only [exec, hd.timeDiff]
    exact hstep

/-- and its end. -/
theorem Mirror.endGesture (h : Mirror exact g g') (hsettled : g.control.Settled)
    (hsettled' : g'.control.Settled) (htype : g.type = .scroll) :
    Mirror exact (g.endGesture platform).1 (g'.endGesture platform).1 := by
  obtain ⟨hended, hinertia⟩ := endGesture_inertia platform hsettled htype
  obtain ⟨hended', hinertia'⟩ :=
    endGesture_inertia platform hsettled' (h.alike.type.trans htype)
  obtain ⟨hstarts, hnumber⟩ := startingMomentum_opposite h.inertia.history
  refine ⟨?_, ?_⟩
  · rw [hended, hended', show (startingMomentum g'.momentumHistory.toList).2.2 = _ from hnumber]
    exact ⟨rfl, rfl, rfl⟩
  · rw [hinertia, hinertia']
    exact ⟨hstarts, .nil⟩

/-- **A tick** keeps the momenta opposite where the factor does not tell them apart, -/
theorem Mirror.applyMomentum (h : Mirror exact g g')
    (heven : Decays g → Evenhanded exact g.momentum) :
    Mirror exact (g.applyMomentum platform) (g'.applyMomentum platform) := by
  have hmomentumPhase : g'.momentumPhase = g.momentumPhase := h.alike.momentumPhase
  rw [LPGesture.applyMomentum, LPGesture.applyMomentum, hmomentumPhase]
  split_ifs
  · exact h.applyScroll _ h.inertia.momentum fun hdefined hslow ↦ heven ⟨hdefined, hslow⟩
  · exact h

/-- and where it makes a momentum smaller, only there. -/
theorem Mirror.evenhanded (h : Mirror exact g g') (hphase : g.phase = .undefined)
    (hmoving : g.momentumPhase = .began ∨ g.momentumPhase = .changed) (hdecays : Decays g)
    (hopposite : Opposite exact (g.applyMomentum platform).momentum
      (g'.applyMomentum platform).momentum) : Evenhanded exact g.momentum := by
  have hmomentumPhase : g'.momentumPhase = g.momentumPhase := h.alike.momentumPhase
  have hslow' : LPGesture.isSlow g'.momentum.x g'.momentum.y = false :=
    h.inertia.momentum.isSlow.trans hdecays.2
  obtain ⟨-, -, hscaled⟩ :=
    applyMomentum_decays platform hphase hmoving hdecays.2
  obtain ⟨-, -, hscaled'⟩ := applyMomentum_decays platform
    (h.alike.phase.trans hphase) (by rwa [hmomentumPhase]) hslow'
  rw [hscaled, hscaled'] at hopposite
  refine h.inertia.momentum.decayScale_iff.1 ?_
  -- the factors can be read off a coordinate that is not zero
  have hread : ∀ {v v' s s' : K}, v' = -v → v' * s' = -(v * s) → v ≠ 0 → s' = s := by
    rintro v _ s s' rfl hmul hne
    rw [neg_mul, neg_inj] at hmul
    exact mul_left_cancel₀ hne hmul
  have hx := hopposite.x
  have hy := hopposite.y
  rw [exact.value_mul, exact.value_mul] at hx hy
  by_cases hzero : exact.value g.momentum.x = 0
  · refine hread h.inertia.momentum.y hy fun hzero' ↦ ?_
    have hslow : LPGesture.isSlow g.momentum.x g.momentum.y = true := by
      rw [isSlow_iff exact, hzero, show exact.value g.momentum.y = 0 from hzero']
      norm_num
    exact absurd (hslow.symm.trans hdecays.2) Bool.true_eq_false.mp
  · exact hread h.inertia.momentum.x hx hzero

variable (platform) in
omit [IsStrictOrderedRing K] in
theorem type_run_scrolls (deltas : List (F × F × ℤ)) :
    (g.run platform (deltas.map fun (dx, dy, timeDiff) ↦ .applyScroll dx dy timeDiff)).type =
      g.type := by
  induction deltas generalizing g with
  | nil => rfl
  | cons d deltas ih => exact ih.trans (continues_applyScroll d.1 d.2.1 d.2.2).type

/-- Gestures by opposite scrolls. -/
theorem mirror_scrollGesture
    (hbegin : (g.beginGesture platform GestureType.scroll.number).2 = true)
    (hbegin' : (g'.beginGesture platform GestureType.scroll.number).2 = true)
    {deltas deltas' : List (F × F × ℤ)}
    (hopposite : List.Forall₂ (OppositeScroll exact) deltas deltas') :
    Mirror exact (g.scrollGesture platform deltas) (g'.scrollGesture platform deltas') ∧
      (g.scrollGesture platform deltas).phase = .undefined ∧
      ((g.scrollGesture platform deltas).momentumPhase = .undefined ∨
        (g.scrollGesture platform deltas).momentumPhase = .began) := by
  have hsettled : ∀ {g : LPGesture F},
      (g.beginGesture platform GestureType.scroll.number).2 = true →
      (g.beginGesture platform GestureType.scroll.number).1.control.Settled := fun h ↦
    (beginGesture_opens (beginGesture_succeeds_iff.1 h).1 (beginGesture_succeeds_iff.1 h).2).2.2
  have htype : (g.beginGesture platform GestureType.scroll.number).1.type = .scroll :=
    (beginGesture_inertia hbegin).1.type
  have hscrolled := (mirror_beginGesture hbegin hbegin').run_scrolls platform
    hopposite (hsettled hbegin) htype
  have htype' := (type_run_scrolls platform deltas).trans htype
  exact ⟨hscrolled.endGesture (settled_run (hsettled hbegin) _) (settled_run (hsettled hbegin') _)
    htype', endGesture_phases platform (settled_run (hsettled hbegin) _) htype'⟩

/-- **Scrolls in opposite directions** leave momenta that stay opposite, and end at the same tick,
exactly as long as the test of the factor does not tell a momentum that it makes smaller from its
opposite. -/
theorem momentum_mirrored_iff (exact : ExactSigns F K) (platform : Platform) (g g' : LPGesture F)
    (hbegin : (g.beginGesture platform GestureType.scroll.number).2 = true)
    (hbegin' : (g'.beginGesture platform GestureType.scroll.number).2 = true)
    (deltas deltas' : List (F × F × ℤ))
    (hopposite : List.Forall₂ (OppositeScroll exact) deltas deltas') :
    let after := (g.scrollGesture platform deltas).ticks platform
    let after' := (g'.scrollGesture platform deltas').ticks platform
    (∀ n, Opposite exact (after n).momentum (after' n).momentum ∧
      ((after n).momentumPhase = .undefined ↔ (after' n).momentumPhase = .undefined)) ↔
    ∀ n, Decays (after n) → Evenhanded exact (after n).momentum := by
  intro after after'
  obtain ⟨hended, hphase, hmomentum⟩ := mirror_scrollGesture hbegin hbegin' hopposite
  have hstep : ∀ n, Mirror exact (after n) (after' n) →
      (Decays (after n) → Evenhanded exact (after n).momentum) →
      Mirror exact (after (n + 1)) (after' (n + 1)) := by
    intro n h heven
    rw [show after (n + 1) = _ from ticks_succ n, show after' (n + 1) = _ from ticks_succ n]
    exact h.applyMomentum heven
  constructor
  · intro hruns
    -- the momenta after the next tick tell which factors it took
    have heven : ∀ n, Mirror exact (after n) (after' n) → Decays (after n) →
        Evenhanded exact (after n).momentum := by
      intro n h hdecays
      have hnext := (hruns (n + 1)).1
      rw [show after (n + 1) = _ from ticks_succ n,
        show after' (n + 1) = _ from ticks_succ n] at hnext
      obtain ⟨hphase, hended | ⟨hmoving, -⟩⟩ :=
        ticks_decayed exact platform hphase hmomentum n
      · exact absurd hended hdecays.1
      · exact h.evenhanded hphase hmoving hdecays hnext
    have hmirror : ∀ n, Mirror exact (after n) (after' n) := by
      intro n
      induction n with
      | zero => exact hended
      | succ n ih => exact hstep n ih (heven n ih)
    exact fun n ↦ heven n (hmirror n)
  · intro heven n
    have hmirror : Mirror exact (after n) (after' n) := by
      induction n with
      | zero => exact hended
      | succ n ih => exact hstep n ih (heven n)
    have hmomentumPhase : (after' n).momentumPhase = (after n).momentumPhase :=
      hmirror.alike.momentumPhase
    exact ⟨hmirror.inertia.momentum, by rw [hmomentumPhase]⟩

/-- Scrolls by 1 down and up: the test holds of 1, and does not hold of -1. -/
theorem momentum_mirrored_iff_one :
    letI : Arithmetic ℚ := rationalArithmetic id
    letI : Rounding ℚ := rationalRounding
    let exact := ExactSigns.rational id
    let g : LPGesture ℚ := construct (.replicate 11 .zero)
    let after := (g.scrollGesture .mac [(0, 1, 8000)]).ticks .mac
    let after' := (g.scrollGesture .mac [(0, -1, 8000)]).ticks .mac
    ((∀ n, Opposite exact (after n).momentum (after' n).momentum ∧
      ((after n).momentumPhase = .undefined ↔ (after' n).momentumPhase = .undefined)) ↔
    ∀ n, Decays (after n) → Evenhanded exact (after n).momentum) ∧
      Decays (after 0) ∧ ¬Evenhanded exact (after 0).momentum := by
  let : Arithmetic ℚ := rationalArithmetic id
  let : Rounding ℚ := rationalRounding
  intro exact g after after'
  have hy : (after 0).momentum.y = 1 ∧ (after 0).momentum.x = 0 ∧ Decays (after 0) := by
    refine ⟨by decide +kernel, by decide +kernel, ?_, ?_⟩ <;> decide +kernel
  refine ⟨momentum_mirrored_iff exact .mac g g (by decide) (by decide) _ _
    (.cons ⟨⟨by decide +kernel, by decide +kernel⟩, rfl⟩ .nil), hy.2.2, fun heven ↦ ?_⟩
  have hback : exact.value (after 0).momentum.x < -(2 / 5) ∨
      exact.value (after 0).momentum.y < -(2 / 5) :=
    heven.iff.1 (.inr (hy.1.symm ▸ by decide +kernel))
  rw [show exact.value (after 0).momentum.x = 0 from hy.2.1,
    show exact.value (after 0).momentum.y = 1 from hy.1] at hback
  norm_num at hback

/-- After one tick the momenta are 0.98 and -0.96. -/
theorem momentum_not_mirrored :
    letI : Arithmetic ℚ := rationalArithmetic id
    letI : Rounding ℚ := rationalRounding
    let exact := ExactSigns.rational id
    let g : LPGesture ℚ := construct (.replicate 11 .zero)
    let after := (g.scrollGesture .mac [(0, 1, 8000)]).ticks .mac
    let after' := (g.scrollGesture .mac [(0, -1, 8000)]).ticks .mac
    (after 1).momentum.y = 49 / 50 ∧ (after' 1).momentum.y = -(24 / 25) ∧
      ¬∀ n, Opposite exact (after n).momentum (after' n).momentum ∧
        ((after n).momentumPhase = .undefined ↔ (after' n).momentumPhase = .undefined) := by
  let : Arithmetic ℚ := rationalArithmetic id
  let : Rounding ℚ := rationalRounding
  intro exact g after after'
  have hdown : (after 1).momentum.y = 49 / 50 := by decide +kernel
  have hup : (after' 1).momentum.y = -(24 / 25) := by decide +kernel
  refine ⟨hdown, hup, fun hopposite ↦ ?_⟩
  have hy : (after' 1).momentum.y = -(after 1).momentum.y := (hopposite 1).1.y
  rw [hdown, hup] at hy
  norm_num at hy

end Exact

end LPGesture

end Touchless
