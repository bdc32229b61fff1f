import Touchless.GestureInteraction.BasicModeSends
import Touchless.OSInteraction.WindowsCharms

/-!
# The charms of basic mode

Basic mode over the charms of the Windows driver. Only the hovering state calls them, and only the
state without pointables resets their mode, so over a whole run the calls and the mode come about as
in a `CharmsRun` (`charmed_handler`). A key combination is sent to Windows only where the pointable
has been in the middle of the screen since the last one (`run_charms`).
-/

namespace Touchless

namespace BasicMode

open State

variable {leap : Leap} {vkKeyScan : Char → ℕ} {env : Environment leap}
  {settings : Settings leap.Scalar} {v : FrameState leap} {m n : BasicMode leap} {fuel : ℕ}
  {o o' : Object leap}

/-- The members record a run of the charms. -/
def Charmed (vkKeyScan : Char → ℕ) (m : BasicMode leap) : Prop :=
  CharmsRecorded vkKeyScan m.osCalls m.charmsMode

/-- What neither calls the charms nor writes their mode. -/
theorem Charmed.sends {allowed : OSCall leap.Scalar → Bool} (h : Charmed vkKeyScan m)
    (hsends : Sends allowed m n) (hallowed : ∀ call, allowed call = true → call.isCharms = false)
    (hmode : n.charmsMode = m.charmsMode) : Charmed vkKeyScan n := by
  obtain ⟨sent, hsent, hothers⟩ := hsends
  rw [Charmed, hsent, hmode]
  exact h.append fun call hcall ↦ hallowed call (hothers call hcall)

theorem Charmed.of_eq (h : Charmed vkKeyScan m) (hcalls : n.osCalls = m.osCalls)
    (hmode : n.charmsMode = m.charmsMode) : Charmed vkKeyScan n := by
  rw [Charmed, hcalls, hmode]
  exact h

/-- **A call of the charms.** -/
theorem charmed_charms (h : Charmed vkKeyScan m) :
    Charmed vkKeyScan (charms (env.windowsCharms vkKeyScan) v m) := by
  rw [charms]
  split_ifs
  · have hdrawn : (m.base fun b ↦ b.drawOverlayForPointable (b.favoritePointable v)).osCalls =
        m.osCalls := by simp
    exact CharmsRecorded.call (c := ⟨_, _, m.charmsMode⟩) (hdrawn ▸ h)
  · exact h

/-! ### The mode of the charms -/

theorem charmsMode_setAbsoluteCursorPositionPointable :
    (setAbsoluteCursorPositionPointable env v m).charmsMode = m.charmsMode := rfl

theorem charmsMode_releaseClick :
    (releaseClick env settings v m).charmsMode = m.charmsMode := by
  rw [releaseClick]
  split_ifs <;> rfl

theorem charmsMode_holdClick : (holdClick env settings v m).charmsMode = m.charmsMode := by
  have hrelease : (releaseClickInPlace env settings v m).charmsMode = m.charmsMode := by
    rw [releaseClickInPlace]
    split_ifs
    · exact charmsMode_releaseClick
    · rfl
  rw [holdClick]
  split_ifs
  · exact hrelease
  · exact hrelease
  · rfl
  · rfl

theorem charmsMode_clickCooldownFrame :
    (clickCooldownFrame env settings v m).owner.charmsMode = m.charmsMode := by
  rw [clickCooldownFrame]
  split_ifs
  · rfl
  · rfl
  · exact charmsMode_holdClick

theorem charmsMode_twoPlusPointablesHoveringFrame :
    (twoPlusPointablesHoveringFrame env settings v m).owner.charmsMode = m.charmsMode := by
  simp only [twoPlusPointablesHoveringFrame]
  split_ifs <;> rfl

theorem charmsMode_scrollingFrame :
    (scrollingFrame env settings v m).owner.charmsMode = m.charmsMode := by
  simp only [scrollingFrame]
  split_ifs <;> rfl

theorem charmsMode_twoHandsHoveringFrame :
    (twoHandsHoveringFrame env settings v m).owner.charmsMode = m.charmsMode := by
  rw [twoHandsHoveringFrame]
  cases multiHand v with
  | none => rfl
  | some ids =>
    dsimp only
    split_ifs <;> rfl

theorem charmsMode_twoHandsGestureRecognitionFrame :
    (twoHandsGestureRecognitionFrame settings v m).owner.charmsMode = m.charmsMode := by
  rw [twoHandsGestureRecognitionFrame]
  split_ifs <;> rfl

theorem charmsMode_twoHandsGestureFrame (movement : OSCall leap.Scalar) :
    (twoHandsGestureFrame settings v movement m).owner.charmsMode = m.charmsMode := by
  rw [twoHandsGestureFrame]
  split_ifs <;> rfl

theorem charmsMode_twoHandsTouchFrame :
    (twoHandsTouchFrame env settings v m).owner.charmsMode = m.charmsMode := by
  rw [twoHandsTouchFrame]
  cases multiHand v <;> rfl

theorem charmsMode_frame {s : State} (hnone : s ≠ noPointablesNoInteraction)
    (hone : s ≠ onePointableHovering) :
    (handlers env settings v s (.user .processFrame) m).owner.charmsMode = m.charmsMode := by
  cases s with
  | noPointablesNoInteraction => exact absurd rfl hnone
  | onePointableHovering => exact absurd rfl hone
  | onePointableClickCooldown => exact charmsMode_clickCooldownFrame
  | twoPlusPointablesHovering => exact charmsMode_twoPlusPointablesHoveringFrame
  | twoPlusPointablesScrolling => exact charmsMode_scrollingFrame
  | twoHandsHovering => exact charmsMode_twoHandsHoveringFrame
  | twoHandsGestureRecognition => exact charmsMode_twoHandsGestureRecognitionFrame
  | twoHandsRotating => exact charmsMode_twoHandsGestureFrame _
  | twoHandsZooming => exact charmsMode_twoHandsGestureFrame _
  | twoHandsTouch => exact charmsMode_twoHandsTouchFrame
  | palmGestureRecognition => rfl
  | palmSwipe => rfl

theorem charmsMode_enter {s : State} (hnone : s ≠ noPointablesNoInteraction)
    (hone : s ≠ onePointableHovering) :
    (handlers env settings v s .enter m).owner.charmsMode = m.charmsMode := by
  cases s with
  | noPointablesNoInteraction => exact absurd rfl hnone
  | onePointableHovering => exact absurd rfl hone
  | onePointableClickCooldown => exact charmsMode_clickCooldownFrame
  | twoPlusPointablesHovering =>
    simp only [handlers, stateTwoPlusPointablesHovering]
    split_ifs
    · rfl
    · exact charmsMode_twoPlusPointablesHoveringFrame
  | twoPlusPointablesScrolling =>
    simp only [handlers, stateTwoPlusPointablesScrolling, owner_done]
    split_ifs <;> rfl
  | twoHandsHovering => exact charmsMode_twoHandsHoveringFrame
  | twoHandsGestureRecognition => exact charmsMode_twoHandsGestureRecognitionFrame
  | twoHandsRotating => rfl
  | twoHandsZooming => rfl
  | twoHandsTouch => exact charmsMode_twoHandsTouchFrame
  | palmGestureRecognition => rfl
  | palmSwipe => rfl

theorem charmsMode_exit (s : State) :
    (handlers env settings v s .exit m).owner.charmsMode = m.charmsMode := by
  cases s with
  | onePointableClickCooldown => exact charmsMode_releaseClick
  | twoPlusPointablesScrolling =>
    simp only [handlers, stateTwoPlusPointablesScrolling, owner_done]
    split_ifs <;> rfl
  | _ => rfl

/-! ### The handlers -/

/-- The states that do not call the charms. -/
theorem isCharms_of_maySend {s : State} (hs : s ≠ onePointableHovering)
    {input : StateMachineInput Input} {call : OSCall leap.Scalar}
    (h : maySend s input call = true) : call.isCharms = false := by
  cases call with
  | applyCharms aspectNormalized numPointablesActive charmsMode =>
    cases s with
    | onePointableHovering => exact absurd rfl hs
    | _ => exact absurd h Bool.false_ne_true
  | _ => rfl

theorem charmed_noPointablesFrame (h : Charmed vkKeyScan m) :
    Charmed vkKeyScan (noPointablesFrame settings v m).owner := by
  rw [noPointablesFrame]
  split_ifs
  · exact h
  · exact CharmsRecorded.reset h

theorem charmed_onePointableHoveringFrame (h : Charmed vkKeyScan m) :
    Charmed vkKeyScan
      (onePointableHoveringFrame (env.windowsCharms vkKeyScan) settings v m).owner := by
  have hcursor : ∀ call : OSCall leap.Scalar, call.isCursor = true → call.isCharms = false :=
    fun call hcall ↦ by cases call <;> first | rfl | exact absurd hcall Bool.false_ne_true
  have hrefreshed : Charmed vkKeyScan (m.base (·.refreshFavoritePointableId v)) :=
    h.of_eq (by simp) rfl
  have hdraw : ∀ n : BasicMode leap, Charmed vkKeyScan n →
      Charmed vkKeyScan (n.base fun b ↦ b.drawOverlayForPointable (b.favoritePointable v)) :=
    fun n hn ↦ hn.of_eq (by simp) rfl
  rw [onePointableHoveringFrame]
  split_ifs
  · exact hrefreshed
  -- a click in mouse mode
  · have hmoved : Charmed vkKeyScan (setAbsoluteCursorPositionPointable
        (env.windowsCharms vkKeyScan) v (m.base (·.refreshFavoritePointableId v))) :=
      hrefreshed.sends sends_setAbsoluteCursorPositionPointable hcursor
        charmsMode_setAbsoluteCursorPositionPointable
    exact CharmsRecorded.concat hmoved rfl
  -- and in touch mode
  · exact hrefreshed.of_eq (by simp [touchDown]) rfl
  · exact hdraw _ (charmed_charms (hrefreshed.sends sends_setAbsoluteCursorPositionPointable hcursor
      charmsMode_setAbsoluteCursorPositionPointable))
  · exact hdraw _ (charmed_charms (hrefreshed.of_eq (by simp) rfl))

/-- **Every handler** of basic mode. -/
theorem charmed_handler (s : State) (input : StateMachineInput Input) (h : Charmed vkKeyScan m) :
    Charmed vkKeyScan
      (handlers (env.windowsCharms vkKeyScan) settings v s input m).owner := by
  have hsends : Sends (maySend s input) m
      (handlers (env.windowsCharms vkKeyScan) settings v s input m).owner := sends_handler s input m
  cases input with
  | user i =>
    cases i with
    | processFrame =>
      by_cases hnone : s = noPointablesNoInteraction
      · subst hnone
        exact charmed_noPointablesFrame h
      by_cases hone : s = onePointableHovering
      · subst hone
        exact charmed_onePointableHoveringFrame h
      exact h.sends hsends (fun _ ↦ isCharms_of_maySend hone) (charmsMode_frame hnone hone)
    | lostFocus => cases s <;> exact h
  | enter =>
    by_cases hnone : s = noPointablesNoInteraction
    · subst hnone
      exact charmed_noPointablesFrame (m := { m with updateCursor := true }) (h.of_eq rfl rfl)
    by_cases hone : s = onePointableHovering
    · subst hone
      exact charmed_onePointableHoveringFrame (h.of_eq rfl rfl)
    exact h.sends hsends (fun _ ↦ isCharms_of_maySend hone) (charmsMode_enter hnone hone)
  | exit =>
    by_cases hone : s = onePointableHovering
    · subst hone
      exact h
    exact h.sends hsends (fun _ ↦ isCharms_of_maySend hone) (charmsMode_exit s)

/-- The contract of the states. -/
theorem charmedContract (vkKeyScan : Char → ℕ) (env : Environment leap)
    (settings : Settings leap.Scalar) :
    ModeObject.Contract (handlers (env.windowsCharms vkKeyScan) settings)
      (fun _ _ ↦ Charmed vkKeyScan) (fun _ ↦ Charmed vkKeyScan) (Charmed vkKeyScan) := fun _ ↦
  .of_handlers neverTransitionsOnExit fun s input _ hm ↦ charmed_handler s input hm

/-! ### Runs -/

/-- The condition at the level of the object. -/
def CharmsKept (vkKeyScan : Char → ℕ) (o : Object leap) : Prop :=
  o.machine.Kept (fun _ _ ↦ Charmed vkKeyScan) (fun _ ↦ Charmed vkKeyScan)
    noPointablesNoInteraction

theorem charmsKept_construct (memory : BasicMode leap) :
    CharmsKept vkKeyScan (Object.construct memory) :=
  StateMachine.Kept.construct CharmsRecorded.start

/-- Frames keep it, -/
theorem CharmsKept.processFrame (h : CharmsKept vkKeyScan o) {frame sinceFrame : leap.Frame}
    (hrun : processFrame (env.windowsCharms vkKeyScan) settings fuel o frame sinceFrame = some o') :
    CharmsKept vkKeyScan o' := by
  -- the touch points are sent at the end
  exact (holds_processFrame (charmedContract vkKeyScan env settings)
    (fun _ _ hm ↦ CharmsRecorded.concat hm rfl) h hrun).kept

/-- and focus losses do. -/
theorem CharmsKept.stopActiveEvents (h : CharmsKept vkKeyScan o)
    (hrun : stopActiveEvents (env.windowsCharms vkKeyScan) settings fuel o = some o') :
    CharmsKept vkKeyScan o' :=
  ((charmedContract vkKeyScan env settings).runCurrentState h hrun).kept

/-- **The key combinations in a run.** The calls of the charms and their mode come about in a run of
the charms. A combination is sent only where a pointable has been in the middle of the screen since
the last one, and no key is left down. -/
theorem run_charms (vkKeyScan : Char → ℕ) {memory : BasicMode leap} {calls : List (ModeCall leap)}
    (hrun : (methods (env.windowsCharms vkKeyScan) settings fuel).run (Object.construct memory)
      calls = some o) :
    ∃ log, CharmsRun vkKeyScan log o.machine.owner.charmsMode ∧
      o.machine.owner.osCalls.filter OSCall.isCharms = log.map (CharmsCall.toOSCall vkKeyScan) ∧
      Latched CharmsCall.IsMiddle (CharmsCall.Sends vkKeyScan) log ∧
      Stroke.held (log.flatMap (CharmsCall.inputs vkKeyScan)) = fun _ ↦ false := by
  have hkept : CharmsKept vkKeyScan o := ModeMethods.run_invariant (P := CharmsKept vkKeyScan)
    (fun _ _ _ _ h hframe ↦ h.processFrame hframe) (fun _ _ h hstop ↦ h.stopActiveEvents hstop)
    (charmsKept_construct memory) hrun
  exact hkept.owner.combinations

/-- A device that shows one finger in front of the screen: a frame has its time, and 1 for a finger
in the middle or 2 for one beyond the right edge. -/
def edgeLeap : Leap :=
  { fingerLeap with
    pointables := fun frame : ℤ × ℕ ↦ if 0 < frame.2 then [((0 : ℕ), frame.2)] else []
    handPointables := fun place : ℕ ↦ if 0 < place then [((0 : ℕ), place)] else []
    pointable := fun (frame : ℤ × ℕ) id ↦ ((0 : ℕ), if id = 0 then frame.2 else 0)
    touchZone := fun p : ℕ × ℕ ↦ if p.1 < p.2 then .hovering else .none
    stabilizedTipPosition := fun p : ℕ × ℕ ↦
      ⟨if p.2 = 1 then (1 / 2 : ℚ) else (2 : ℚ), (1 / 2 : ℚ), (0 : ℚ)⟩ }

/-- A Windows 8 desktop, where the keys of letters are their capitals. -/
def edgeEnvironment : Environment edgeLeap :=
  { Environment.plain edgeLeap with
    touchVersion := 8
    useCharmHelper := true }

def edgeKeys (c : Char) : ℕ := c.toUpper.toNat

/-- Frames at 15 a second with the finger in some places. -/
def edgeCalls (places : List ℕ) : List (ModeCall edgeLeap) :=
  places.zipIdx.map fun place ↦
    .processFrame ((fingerFrame (place.2 + 1) 1).1, place.1) ((fingerFrame place.2 1).1, place.1)

/-- A finger that goes to the edge, stays there and goes to the middle and to the edge again. -/
theorem run_charms_edge :
    ∃ o, (methods (edgeEnvironment.windowsCharms edgeKeys) (Settings.construct edgeLeap.Scalar true)
        5).run (Object.construct (blank edgeLeap)) (edgeCalls [1, 1, 2, 2, 1, 2]) = some o ∧
      ∃ log, CharmsRun edgeKeys log o.machine.owner.charmsMode ∧
        o.machine.owner.osCalls.filter OSCall.isCharms = log.map (CharmsCall.toOSCall edgeKeys) ∧
        Latched CharmsCall.IsMiddle (CharmsCall.Sends edgeKeys) log ∧
        Stroke.held (log.flatMap (CharmsCall.inputs edgeKeys)) = fun _ ↦ false := by
  have hreturns : ((methods (edgeEnvironment.windowsCharms edgeKeys)
      (Settings.construct edgeLeap.Scalar true) 5).run (Object.construct (blank edgeLeap))
        (edgeCalls [1, 1, 2, 2, 1, 2])).isSome = true := by decide +kernel
  obtain ⟨o, hrun⟩ := Option.isSome_iff_exists.1 hreturns
  exact ⟨o, hrun, run_charms edgeKeys hrun⟩

end BasicMode

end Touchless
