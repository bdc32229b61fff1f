import Touchless.GestureInteraction.BasicModePlacement
import Touchless.GestureInteraction.FingerMousePlacement
import Touchless.GestureInteraction.GestureOnlyModePlacement
import Touchless.GestureInteraction.InteractionClicks

/-!
# Where the modes point

The modes behind the interface of their base class, over the overlay driver and its virtual screen.
Whatever the device shows, in whatever order frames and losses of the focus come, and whatever
screens are detected in between, a mode sends the cursor and its touch points to active screens only
(`run_onScreens`).

A touch point that is released when the focus is lost is sent with the next frame. So it is on a
screen that has been active in the run, and need not be on one that is active when it is sent.
-/

namespace Touchless

/-- What the modes read of the overlay driver, for a virtual screen. -/
def OverlayDriver.environment {leap : Leap} (casts : LPFloatCasts leap.Scalar)
    (v : LPVirtualScreen) (env : Environment leap) : Environment leap :=
  { env with
    normalizedToScreen := fun position ↦ normalizedToScreen casts v position (lit 1) true
    normalizedToAspect := fun position ↦ normalizedToAspect casts v position (lit 1) false
    acceptableClampDistance := acceptableClampDistance }

/-- The position is on a screen that is active in one of the virtual screens. -/
def OnScreens {F : Type} (casts : LPFloatCasts F) (screens : List LPVirtualScreen) (x y : F) :
    Prop :=
  ∃ v ∈ screens, ∃ s ∈ v.activeScreens,
    s.bounds.containsPoint (OverlayDriver.iconPosition casts x y)

theorem OverlayDriver.isPlaced_environment {leap : Leap} {casts : LPFloatCasts leap.Scalar}
    {v : LPVirtualScreen} (hcasts : ∀ q, casts.toLPFloat (casts.toFloat q) = q) (hready : v.Ready)
    {screens : List LPVirtualScreen} (hv : v ∈ screens) (env : Environment leap) :
    (environment casts v env).IsPlaced (OnScreens casts screens) :=
  fun position ↦ ⟨v, hv, normalizedToScreen_mem hcasts hready position _⟩

namespace InteractionManager

variable {leap : Leap} {P : leap.Scalar → leap.Scalar → Prop} {env : Environment leap} {fuel : ℕ}
  {o o' : InteractionManager leap}

/-- What the modes keep. -/
def Placed (P : leap.Scalar → leap.Scalar → Prop) : InteractionManager leap → Prop
  | basicMode _ o =>
    o.machine.Kept (fun _ _ m ↦ m.Placed P) (fun _ m ↦ m.Placed P) .noPointablesNoInteraction
  | fingerMouse _ o =>
    o.machine.Kept (fun _ _ m ↦ m.Placed P) (fun _ m ↦ m.Placed P) .noFingersNoInteraction
  | gestureOnlyMode o =>
    o.machine.Kept (fun _ _ m ↦ m.Placed P) (fun _ m ↦ m.Placed P) .gestureRecognition

theorem Constructed.placed (h : o.Constructed) : o.Placed P := by
  cases h with
  | basicMode settings memory => exact StateMachine.Kept.construct Manager.placed_construct
  | fingerMouse settings memory => exact StateMachine.Kept.construct Manager.placed_construct
  | gestureOnlyMode memory => exact StateMachine.Kept.construct Manager.placed_construct

theorem Placed.osCalls (h : o.Placed P) : ∀ call ∈ o.osCalls, call.IsPlaced P := by
  cases o with
  | basicMode settings o => exact h.owner.osCalls
  | fingerMouse settings o => exact h.owner.osCalls
  | gestureOnlyMode o => exact h.owner.osCalls

/-- Frames keep it, -/
theorem Placed.processFrame (henv : env.IsPlaced P) (h : o.Placed P)
    {frame sinceFrame : leap.Frame} (hrun : processFrame env fuel o frame sinceFrame = some o') :
    o'.Placed P := by
  cases o with
  | basicMode settings o =>
    obtain ⟨o₁, hmode, rfl⟩ := Option.map_eq_some_iff.1 hrun
    exact (BasicMode.holds_processFrame (BasicMode.placedContract henv settings)
      (fun _ _ hm ↦ hm.emitTouchEvent) h hmode).kept
  | fingerMouse settings o =>
    obtain ⟨o₁, hmode, rfl⟩ := Option.map_eq_some_iff.1 hrun
    exact (FingerMouse.placed_processFrame henv h hmode).kept
  | gestureOnlyMode o =>
    obtain ⟨o₁, hmode, rfl⟩ := Option.map_eq_some_iff.1 hrun
    exact (GestureOnlyMode.placed_processFrame henv h hmode).kept

/-- focus losses do, -/
theorem Placed.stopActiveEvents (henv : env.IsPlaced P) (h : o.Placed P)
    (hrun : stopActiveEvents env fuel o = some o') : o'.Placed P := by
  cases o with
  | basicMode settings o =>
    obtain ⟨o₁, hmode, rfl⟩ := Option.map_eq_some_iff.1 hrun
    exact ((BasicMode.placedContract henv settings).runCurrentState h hmode).kept
  | fingerMouse settings o =>
    obtain ⟨o₁, hmode, rfl⟩ := Option.map_eq_some_iff.1 hrun
    exact ((FingerMouse.placedContract henv settings).runCurrentState h hmode).kept
  | gestureOnlyMode o =>
    obtain ⟨o₁, hmode, rfl⟩ := Option.map_eq_some_iff.1 hrun
    exact ((GestureOnlyMode.placedContract henv).runCurrentState h hmode).kept

/-- and so does the destructor. -/
theorem Placed.destruct (henv : env.IsPlaced P) (h : o.Placed P)
    (hrun : destruct env fuel o = some o') : ∀ call ∈ o'.osCalls, call.IsPlaced P := by
  cases o with
  | basicMode settings o =>
    obtain ⟨o₁, hmode, rfl⟩ := Option.map_eq_some_iff.1 hrun
    exact ((BasicMode.placedContract henv settings).shutdown h (fun _ hm ↦ hm) hmode).osCalls
  | fingerMouse settings o =>
    obtain ⟨o₁, hmode, rfl⟩ := Option.map_eq_some_iff.1 hrun
    exact ((FingerMouse.placedContract henv settings).shutdown h (fun _ hm ↦ hm) hmode).osCalls
  | gestureOnlyMode o =>
    obtain ⟨o₁, hmode, rfl⟩ := Option.map_eq_some_iff.1 hrun
    exact ((GestureOnlyMode.placedContract henv).shutdown h (fun _ hm ↦ hm) hmode).osCalls

theorem Placed.exec (henv : env.IsPlaced P) (h : o.Placed P) {call : ModeCall leap}
    (hrun : (methods env fuel).exec o call = some o') : o'.Placed P := by
  cases call with
  | processFrame frame sinceFrame => exact h.processFrame henv hrun
  | stopActiveEvents => exact h.stopActiveEvents henv hrun

/-! ### Runs -/

/-- The calls of a mode object over the overlay driver, each with the virtual screen at that
time. -/
def runOver (casts : LPFloatCasts leap.Scalar) (env : Environment leap) (fuel : ℕ)
    (o : InteractionManager leap) (calls : List (LPVirtualScreen × ModeCall leap)) :
    Option (InteractionManager leap) :=
  calls.foldlM (fun o call ↦
    (methods (OverlayDriver.environment casts call.1 env) fuel).exec o call.2) o

/-- **The modes point at active screens.** In every run of a mode, the positions of the cursor and
of the touch points that are sent are on screens that have been active in the run; and so are those
that have been sent once the destructor has run. -/
theorem run_onScreens {casts : LPFloatCasts leap.Scalar}
    (hcasts : ∀ q, casts.toLPFloat (casts.toFloat q) = q) (ho : o.Constructed)
    {calls : List (LPVirtualScreen × ModeCall leap)} (hready : ∀ call ∈ calls, call.1.Ready)
    (hrun : runOver casts env fuel o calls = some o') :
    (∀ call ∈ o'.osCalls, call.IsPlaced (OnScreens casts (calls.map (·.1)))) ∧
      ∀ v ∈ calls.map (·.1), ∀ o'',
        (methods (OverlayDriver.environment casts v env) fuel).destruct o' = some o'' →
          ∀ call ∈ o''.osCalls, call.IsPlaced (OnScreens casts (calls.map (·.1))) := by
  have hplaced : ∀ v ∈ calls.map (·.1),
      (OverlayDriver.environment casts v env).IsPlaced (OnScreens casts (calls.map (·.1))) := by
    intro v hv
    obtain ⟨call, hcall, rfl⟩ := List.mem_map.1 hv
    exact OverlayDriver.isPlaced_environment hcasts (hready call hcall) hv env
  have hkept : o'.Placed (OnScreens casts (calls.map (·.1))) := by
    refine PartialRun.foldlM_invariant (P := fun _ o ↦ o.Placed (OnScreens casts (calls.map (·.1))))
      ho.placed (fun done o call o' hpre h hexec ↦ ?_) hrun
    have hcall : call ∈ calls := hpre.subset (List.mem_append_right _ (List.mem_singleton_self _))
    exact h.exec (hplaced _ (List.mem_map_of_mem hcall)) hexec
  exact ⟨hkept.osCalls, fun v hv o'' hdestruct ↦ hkept.destruct (hplaced v hv) hdestruct⟩

/-- A desktop with one screen. -/
def desktop : LPVirtualScreen.DetectedScreens where
  screens := [⟨⟨⟨0, 0⟩, ⟨1920, 1080⟩⟩, true⟩]
  ne_nil := List.cons_ne_nil _ _
  hasPixel := by decide +kernel

/-- The calls of a finger that clicks on the desktop. -/
def desktopCalls : List (LPVirtualScreen × ModeCall fingerLeap) :=
  (fingerCalls 4 1).map fun call ↦ (LPVirtualScreen.create desktop, call)

/-- Does a call move the cursor? -/
def movesCursor {F : Type} : OSCall F → Bool
  | .setCursorPosition _ _ _ => true
  | _ => false

theorem run_onScreens_desktop :
    ∃ o x y, runOver ⟨id, id⟩ (.plain fingerLeap) 5 freshMouse desktopCalls = some o ∧
      (∃ absolute, .setCursorPosition x y absolute ∈ o.osCalls) ∧
      OnScreens ⟨id, id⟩ (desktopCalls.map (·.1)) x y := by
  have hmoves : (runOver ⟨id, id⟩ (.plain fingerLeap) 5 freshMouse desktopCalls).map
      (fun o ↦ o.osCalls.any movesCursor) = some true := by decide +kernel
  obtain ⟨o, hrun, hany⟩ := Option.map_eq_some_iff.1 hmoves
  have hready : ∀ call ∈ desktopCalls, call.1.Ready := by
    intro call hcall
    obtain ⟨mode, -, rfl⟩ := List.mem_map.1 hcall
    exact LPVirtualScreen.ready_run desktop []
  have hscreens := (run_onScreens (fun _ ↦ rfl) (.fingerMouse _ _) hready hrun).1
  obtain ⟨call, hcall, hmove⟩ := List.any_eq_true.1 hany
  cases call with
  | setCursorPosition x y absolute =>
    exact ⟨o, x, y, hrun, ⟨absolute, hcall⟩, hscreens _ hcall⟩
  | _ => cases hmove

end InteractionManager

end Touchless
