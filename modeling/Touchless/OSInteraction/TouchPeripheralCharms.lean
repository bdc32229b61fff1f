import Touchless.OSInteraction.TouchPeripheralRuns
import Touchless.OSInteraction.WindowsCharms

/-!
# The charms of the touch peripheral

The touch peripheral over the charms of the Windows driver. A turn of its loop calls the charms for
a pointable that hovers and resets their mode for one that touches, and several pointables of a
frame follow one another with one mode. The calls still come about as in a run of the charms
(`charmed_visitPointable`), so what holds of the key combinations there holds here.
-/

namespace Touchless

namespace TouchPeripheral

variable {leap : Leap} {vkKeyScan : Char → ℕ} {env : Environment leap} {v : FrameState leap}
  {m : TouchPeripheral leap}

/-- The members record a run of the charms. -/
def Charmed (vkKeyScan : Char → ℕ) (m : TouchPeripheral leap) : Prop :=
  CharmsRecorded vkKeyScan m.osCalls m.charmsMode

theorem charmed_charms (aspectNormalized : Vector3 leap.Scalar) (p : leap.Pointable)
    (h : Charmed vkKeyScan m) :
    Charmed vkKeyScan (charms (env.windowsCharms vkKeyScan) v aspectNormalized p m) := by
  rw [charms]
  split_ifs
  · exact CharmsRecorded.call
      (c := ⟨aspectNormalized, v.relevantPointables.length, m.charmsMode⟩) h
  · exact CharmsRecorded.reset h
  · exact h

/-- **One turn of the loop.** -/
theorem charmed_visitPointable (p : leap.Pointable) (h : Charmed vkKeyScan m) :
    Charmed vkKeyScan (visitPointable (env.windowsCharms vkKeyScan) v m p) := by
  simp only [visitPointable]
  split_ifs
  · rw [Charmed, Manager.osCalls_addTouchPointForPointable]
    exact charmed_charms _ p h
  · exact h

theorem charmed_loop (pointables : List leap.Pointable) (h : Charmed vkKeyScan m) :
    Charmed vkKeyScan (pointables.foldl (visitPointable (env.windowsCharms vkKeyScan) v) m) := by
  induction pointables generalizing m with
  | nil => exact h
  | cons p pointables ih => exact ih (charmed_visitPointable p h)

/-- **A frame.** -/
theorem charmed_processFrameInternal (h : Charmed vkKeyScan m) :
    Charmed vkKeyScan (processFrameInternal (env.windowsCharms vkKeyScan) v m) := by
  rw [processFrameInternal]
  by_cases htouch : (env.windowsCharms vkKeyScan).touchAvailable = true
  · rw [if_pos htouch]
    have hstart : Charmed vkKeyScan
        (if v.relevantPointables.isEmpty then { m with charmsMode := -1 } else m) := by
      split_ifs
      · exact CharmsRecorded.reset h
      · exact h
    -- the touch points are sent at the end
    exact (charmed_loop v.relevantPointables hstart).concat rfl
  · rw [if_neg htouch]
    exact h

/-- **The key combinations in a run** of the touch peripheral: one is sent only where a pointable
has been in the middle of the screen since the last one, and no key is left down. -/
theorem run_combinations (vkKeyScan : Char → ℕ) (env : Environment leap)
    (frames : List (leap.Frame × leap.Frame)) :
    ∃ log, CharmsRun vkKeyScan log
        (run (env.windowsCharms vkKeyScan) (Object.construct leap) frames).members.charmsMode ∧
      (run (env.windowsCharms vkKeyScan) (Object.construct leap) frames).members.osCalls.filter
        OSCall.isCharms = log.map (CharmsCall.toOSCall vkKeyScan) ∧
      Latched CharmsCall.IsMiddle (CharmsCall.Sends vkKeyScan) log ∧
      Stroke.held (log.flatMap (CharmsCall.inputs vkKeyScan)) = fun _ ↦ false := by
  have hloop : ∀ o : Object leap, Charmed vkKeyScan o.members →
      Charmed vkKeyScan (run (env.windowsCharms vkKeyScan) o frames).members := by
    induction frames with
    | nil => exact fun o h ↦ h
    | cons frame frames ih => exact fun o h ↦ ih _ (charmed_processFrameInternal h)
  exact (hloop (Object.construct leap) CharmsRecorded.start).combinations

end TouchPeripheral

end Touchless
