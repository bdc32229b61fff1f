import Touchless.GestureInteraction.InteractionStatus
import Touchless.OSInteraction.OSInteractionDriver
import Touchless.OSInteraction.TouchPeripheral

/-!
# The listener

`TouchlessListener` of `TouchlessUI/TouchlessListener.cpp` holds the OS driver and the mode object.
Its callbacks give frames to the mode, cancel what is going on at the driver, and replace the mode.
The mode sends its calls to the driver while it handles a frame; the momentum of a scroll is applied
by a timer, one tick at a time.

A cancellation goes to the driver only, so it leaves the mode's part behind: the button stays down
where the mode holds it (`cancellation_released_iff`), and the mode goes on with a gesture that is
closed. Where cancellations come only when no gesture is open, the gesture of the driver is the one
that the state of the mode owns (`run_gesture_inStep`).

The configuration and the choice of the screens are left out: neither concerns what is held.
-/

namespace Touchless

/-- `GestureInteractionMode`. -/
inductive GestureInteractionMode where
  | disabled
  | intro
  | basic
  | advanced
  deriving DecidableEq, Repr

/-- An object of a class derived from `GestureInteractionManager`. -/
inductive GestureInteractionManager (leap : Leap) where
  | mode (o : InteractionManager leap)
  | touchPeripheral (o : TouchPeripheral.Object leap)

/-- What is in memory where a mode object is made. -/
structure ModeMemory (leap : Leap) where
  basicMode : BasicMode leap
  fingerMouse : FingerMouse leap
  gestureOnlyMode : GestureOnlyMode leap

/-- What the program runs on: the screens, the desktop, and the settings of the modes. -/
structure TouchlessSystem (leap : Leap) (σ : Type) where
  env : Environment leap
  desktop : Desktop leap.Scalar σ
  basicModeSettings : BasicMode.Settings leap.Scalar
  fingerMouseSettings : FingerMouse.Settings leap.Scalar
  /-- the turns that a transition loop may take -/
  fuel : ℕ

/-- The members of `TouchlessListener`. -/
structure TouchlessListener (leap : Leap) (σ : Type) where
  lastFrame : leap.Frame
  desiredMode : GestureInteractionMode
  osInteractionDriver : OSInteractionDriver leap.Scalar σ
  interactionManager : Option (GestureInteractionManager leap)

/-- The callbacks, and the ticks of the timer that applies the momentum of a scroll. -/
inductive ListenerCallback (leap : Leap) where
  | onFrame (frame : leap.Frame)
  | onFocusLost
  | onFocusGained
  | onDisconnect
  | onExit
  | setDesiredMode (mode : GestureInteractionMode) (memory : ModeMemory leap)
  | momentumTick

/-- The callbacks that call `cancelGestureEvents` and leave the mode as it is. -/
def ListenerCallback.cancelsOnly {leap : Leap} : ListenerCallback leap → Bool
  | onFocusLost | onDisconnect | onExit => true
  | _ => false

/-- `setDesiredMode`, which replaces the mode. -/
def ListenerCallback.replacesMode {leap : Leap} : ListenerCallback leap → Bool
  | setDesiredMode _ _ => true
  | _ => false

variable {leap : Leap} {σ : Type}

/-! ### The mode object -/

namespace GestureInteractionManager

section Operations

variable (sys : TouchlessSystem leap σ)

/-- `GestureInteractionManager::New`. -/
def new (memory : ModeMemory leap) :
    GestureInteractionMode → Option (GestureInteractionManager leap)
  | .intro => some (.mode (.gestureOnlyMode (.construct memory.gestureOnlyMode)))
  | .basic =>
    some (.mode (.basicMode sys.basicModeSettings.setBasicMode (.construct memory.basicMode)))
  | .advanced =>
    if sys.env.touchAvailable then some (.touchPeripheral (.construct leap))
    else some (.mode (.fingerMouse sys.fingerMouseSettings (.construct memory.fingerMouse)))
  | .disabled => none

/-- The object with an empty log. -/
def clearCalls : GestureInteractionManager leap → GestureInteractionManager leap
  | mode o => mode o.clearCalls
  | touchPeripheral o =>
    touchPeripheral ⟨o.frame, { o.members.toManager.clearCalls with
      charmsMode := o.members.charmsMode }⟩

/-- The calls that have been sent since the log was empty. -/
def osCalls : GestureInteractionManager leap → List (OSCall leap.Scalar)
  | mode o => o.osCalls
  | touchPeripheral o => o.members.osCalls

/-- `processFrame`. -/
def processFrame : GestureInteractionManager leap → leap.Frame → leap.Frame →
    Option (GestureInteractionManager leap)
  | mode o, frame, sinceFrame => (o.processFrame sys.env sys.fuel frame sinceFrame).map mode
  | touchPeripheral o, frame, sinceFrame =>
    some (touchPeripheral (TouchPeripheral.processFrame sys.env o frame sinceFrame))

/-- The destructor. -/
def destruct : GestureInteractionManager leap → Option (GestureInteractionManager leap)
  | mode o => (o.destruct sys.env sys.fuel).map mode
  | touchPeripheral o => some (touchPeripheral o)

end Operations

/-- What the object holds. -/
def status : GestureInteractionManager leap → DriverStatus
  | mode o => o.status
  | touchPeripheral _ => .idle

/-- The contract of the mode, whatever its log began with. -/
def Kept : GestureInteractionManager leap → Prop
  | mode o => ∃ start, o.Kept start
  | touchPeripheral _ => True

variable {sys : TouchlessSystem leap σ} {m m' : GestureInteractionManager leap}

/-- A new object holds nothing. -/
theorem kept_new {memory : ModeMemory leap} {mode : GestureInteractionMode}
    (h : new sys memory mode = some m) : m.Kept ∧ m.status = .idle := by
  have hconstructed : ∀ {o : InteractionManager leap}, o.Constructed →
      Kept (.mode o) ∧ status (.mode o) = .idle :=
    fun ho ↦ ⟨⟨.idle, ho.kept⟩, ho.status_eq⟩
  cases mode with
  | disabled => cases h
  | intro =>
    obtain rfl := Option.some.inj h
    exact hconstructed (.gestureOnlyMode _)
  | basic =>
    obtain rfl := Option.some.inj h
    exact hconstructed (.basicMode _ _)
  | advanced =>
    rw [new] at h
    split_ifs at h
    · obtain rfl := Option.some.inj h
      exact ⟨trivial, rfl⟩
    · obtain rfl := Option.some.inj h
      exact hconstructed (.fingerMouse _ _)

/-- **A frame** takes the driver from what the object held to what it holds. -/
theorem Kept.processFrame {frame sinceFrame : leap.Frame} (h : m.Kept)
    (hrun : m.clearCalls.processFrame sys frame sinceFrame = some m') :
    m'.Kept ∧ m.status.track m'.osCalls = some m'.status := by
  cases m with
  | mode o =>
    obtain ⟨start, hkept⟩ := h
    obtain ⟨o', hframe, rfl⟩ := Option.map_eq_some_iff.1 hrun
    have hkept' := (hkept.clearCalls.processFrame hframe).kept
    exact ⟨⟨_, hkept'⟩, hkept'.track⟩
  | touchPeripheral o =>
    obtain rfl := Option.some.inj hrun
    exact ⟨trivial, TouchPeripheral.track_processFrame _ _ _⟩

/-- **The destructor** releases it. -/
theorem Kept.destruct (h : m.Kept) (hrun : m.clearCalls.destruct sys = some m') :
    m.status.track m'.osCalls = some .idle := by
  cases m with
  | mode o =>
    obtain ⟨start, hkept⟩ := h
    obtain ⟨o', hdestruct, rfl⟩ := Option.map_eq_some_iff.1 hrun
    exact hkept.clearCalls.destruct hdestruct
  | touchPeripheral o =>
    obtain rfl := Option.some.inj hrun
    rfl

theorem Kept.processFrame_returns (hlaw : leap.HandsOfPointablesExist) (hfuel : 4 < sys.fuel)
    (h : m.Kept) (frame sinceFrame : leap.Frame) :
    ∃ m', m.clearCalls.processFrame sys frame sinceFrame = some m' := by
  cases m with
  | mode o =>
    obtain ⟨start, hkept⟩ := h
    obtain ⟨o', hframe, -⟩ := hkept.clearCalls.processFrame_returns hlaw hfuel frame sinceFrame
    exact ⟨.mode o', Option.map_eq_some_iff.2 ⟨o', hframe, rfl⟩⟩
  | touchPeripheral o => exact ⟨_, rfl⟩

theorem destruct_returns (sys : TouchlessSystem leap σ) (m : GestureInteractionManager leap) :
    ∃ m', m.destruct sys = some m' := by
  cases m with
  | mode o =>
    obtain ⟨o', hdestruct⟩ := InteractionManager.destruct_returns sys.env sys.fuel o
    exact ⟨.mode o', Option.map_eq_some_iff.2 ⟨o', hdestruct, rfl⟩⟩
  | touchPeripheral o => exact ⟨_, rfl⟩

end GestureInteractionManager

namespace TouchlessListener

variable [Rounding leap.Scalar] (sys : TouchlessSystem leap σ)

/-- The constructor, with what is in memory and, for the case that there is touch, the backend. -/
def construct (gestureMemory : Vector (GesturePoint leap.Scalar) 11) (memory : ModeMemory leap)
    (backend : σ) : TouchlessListener leap σ where
  lastFrame := leap.invalidFrame
  desiredMode := .disabled
  osInteractionDriver :=
    .construct gestureMemory (if sys.env.touchAvailable then some (.construct backend) else none)
  interactionManager := GestureInteractionManager.new sys memory .disabled

/-- `onFrame`. -/
def onFrame (l : TouchlessListener leap σ) (frame : leap.Frame) :
    Option (TouchlessListener leap σ) :=
  match l.interactionManager with
  | none => some { l with lastFrame := frame }
  | some m => do
    let m ← m.clearCalls.processFrame sys frame l.lastFrame
    return { l with
      lastFrame := frame
      interactionManager := some m
      osInteractionDriver := l.osInteractionDriver.run sys.desktop m.osCalls }

/-- `onFocusLost`. -/
def onFocusLost (l : TouchlessListener leap σ) : TouchlessListener leap σ :=
  { l with
    osInteractionDriver := l.osInteractionDriver.cancelGestureEvents sys.desktop
    lastFrame := leap.invalidFrame }

/-- `onDisconnect`, which does the same. -/
def onDisconnect (l : TouchlessListener leap σ) : TouchlessListener leap σ :=
  { l with
    osInteractionDriver := l.osInteractionDriver.cancelGestureEvents sys.desktop
    lastFrame := leap.invalidFrame }

/-- `onExit`. -/
def onExit (l : TouchlessListener leap σ) : TouchlessListener leap σ :=
  { l with osInteractionDriver := l.osInteractionDriver.cancelGestureEvents sys.desktop }

/-- The driver after `delete m_interactionManager`. -/
def deleteManager (l : TouchlessListener leap σ) : Option (OSInteractionDriver leap.Scalar σ) :=
  match l.interactionManager with
  | none => some l.osInteractionDriver
  | some m => do
    let m ← m.clearCalls.destruct sys
    return l.osInteractionDriver.run sys.desktop m.osCalls

/-- `setDesiredMode`. -/
def setDesiredMode (l : TouchlessListener leap σ) (mode : GestureInteractionMode)
    (memory : ModeMemory leap) : Option (TouchlessListener leap σ) := do
  let driver ← l.deleteManager sys
  return { l with
    desiredMode := mode
    osInteractionDriver := driver.cancelGestureEvents sys.desktop
    interactionManager := GestureInteractionManager.new sys memory mode }

/-- A callback or a tick. -/
def exec (l : TouchlessListener leap σ) : ListenerCallback leap → Option (TouchlessListener leap σ)
  | .onFrame frame => l.onFrame sys frame
  | .onFocusLost => some (l.onFocusLost sys)
  | .onFocusGained => some l
  | .onDisconnect => some (l.onDisconnect sys)
  | .onExit => some (l.onExit sys)
  | .setDesiredMode mode memory => l.setDesiredMode sys mode memory
  | .momentumTick =>
    some { l with osInteractionDriver := l.osInteractionDriver.applyMomentum sys.desktop }

/-- A sequence of callbacks and ticks, one at a time. -/
def run (l : TouchlessListener leap σ) (callbacks : List (ListenerCallback leap)) :
    Option (TouchlessListener leap σ) :=
  callbacks.foldlM (exec sys) l

/-- What the mode holds, if there is one. -/
def status (l : TouchlessListener leap σ) : DriverStatus :=
  l.interactionManager.elim .idle (·.status)

/-- The calls that the mode has sent while it handled its last frame. -/
def osCalls (l : TouchlessListener leap σ) : List (OSCall leap.Scalar) :=
  l.interactionManager.elim [] (·.osCalls)

/-- The mode keeps its contract. -/
def ModeKept (l : TouchlessListener leap σ) : Prop := ∀ m ∈ l.interactionManager, m.Kept

variable {sys} {l l' : TouchlessListener leap σ}

/-! ### What a callback does -/

/-- **A frame**: the driver runs the calls of the mode, which take it to what the mode holds. -/
theorem onFrame_spec {frame : leap.Frame} (hkept : l.ModeKept)
    (hrun : l.onFrame sys frame = some l') :
    l'.ModeKept ∧ l.status.track l'.osCalls = some l'.status ∧
      l'.osInteractionDriver = l.osInteractionDriver.run sys.desktop l'.osCalls := by
  obtain ⟨lastFrame, desiredMode, driver, manager⟩ := l
  cases manager with
  | none =>
    obtain rfl := Option.some.inj hrun
    exact ⟨fun m hm ↦ (nomatch hm), rfl, rfl⟩
  | some m =>
    simp only [onFrame, Option.bind_eq_bind, Option.bind_eq_some_iff, Option.pure_def,
      Option.some.injEq] at hrun
    obtain ⟨m', hframe, rfl⟩ := hrun
    obtain ⟨hkept', htrack⟩ := (hkept m rfl).processFrame hframe
    refine ⟨fun n hn ↦ ?_, htrack, rfl⟩
    obtain rfl := Option.some.inj hn
    exact hkept'

/-- **Deleting the mode**: the driver runs the calls of its destructor, which release everything. -/
theorem deleteManager_spec {driver : OSInteractionDriver leap.Scalar σ} (hkept : l.ModeKept)
    (hrun : l.deleteManager sys = some driver) :
    ∃ calls, l.status.track calls = some .idle ∧
      driver = l.osInteractionDriver.run sys.desktop calls := by
  obtain ⟨lastFrame, desiredMode, driver₀, manager⟩ := l
  cases manager with
  | none =>
    obtain rfl := Option.some.inj hrun
    exact ⟨[], rfl, rfl⟩
  | some m =>
    simp only [deleteManager, Option.bind_eq_bind, Option.bind_eq_some_iff, Option.pure_def,
      Option.some.injEq] at hrun
    obtain ⟨m', hdestruct, rfl⟩ := hrun
    exact ⟨m'.osCalls, (hkept m rfl).destruct hdestruct, rfl⟩

/-- **Replacing the mode** also cancels what is left, and the new mode holds nothing. -/
theorem setDesiredMode_spec {mode : GestureInteractionMode} {memory : ModeMemory leap}
    (hkept : l.ModeKept) (hrun : l.setDesiredMode sys mode memory = some l') :
    l'.ModeKept ∧ l'.status = .idle ∧ ∃ calls, l.status.track calls = some .idle ∧
      l'.osInteractionDriver =
        (l.osInteractionDriver.run sys.desktop calls).cancelGestureEvents sys.desktop := by
  simp only [setDesiredMode, Option.bind_eq_bind, Option.bind_eq_some_iff, Option.pure_def,
    Option.some.injEq] at hrun
  obtain ⟨driver, hdelete, rfl⟩ := hrun
  obtain ⟨calls, htrack, rfl⟩ := deleteManager_spec hkept hdelete
  refine ⟨fun m hm ↦ (GestureInteractionManager.kept_new hm).1, ?_, calls, htrack, rfl⟩
  show (GestureInteractionManager.new sys memory mode).elim .idle (·.status) = .idle
  cases hnew : GestureInteractionManager.new sys memory mode with
  | none => rfl
  | some m => exact (GestureInteractionManager.kept_new hnew).2

/-- **A cancellation** goes to the driver, and the mode stays as it is. -/
theorem exec_cancelsOnly {c : ListenerCallback leap} (hc : c.cancelsOnly = true)
    (hrun : l.exec sys c = some l') :
    l'.interactionManager = l.interactionManager ∧
      l'.osInteractionDriver = l.osInteractionDriver.cancelGestureEvents sys.desktop := by
  cases c with
  | onFocusLost =>
    obtain rfl := Option.some.inj hrun
    exact ⟨rfl, rfl⟩
  | onDisconnect =>
    obtain rfl := Option.some.inj hrun
    exact ⟨rfl, rfl⟩
  | onExit =>
    obtain rfl := Option.some.inj hrun
    exact ⟨rfl, rfl⟩
  | _ => cases hc

/-! ### What a run keeps -/

/-- The mode keeps its contract, and the driver is where the mode thinks it is, but for a gesture
that may have been cancelled. -/
structure Kept (l : TouchlessListener leap σ) : Prop where
  mode : l.ModeKept
  driver : l.osInteractionDriver.Trails l.status

/-- The same without a cancelled gesture. -/
structure InStep (l : TouchlessListener leap σ) : Prop where
  mode : l.ModeKept
  driver : l.osInteractionDriver.Follows l.status

omit [Rounding leap.Scalar] in
theorem InStep.kept (h : l.InStep) : l.Kept := ⟨h.mode, h.driver.toTrails⟩

omit [Rounding leap.Scalar] in
theorem inStep_construct (sys : TouchlessSystem leap σ)
    (gestureMemory : Vector (GesturePoint leap.Scalar) 11) (memory : ModeMemory leap)
    (backend : σ) :
    (construct sys gestureMemory memory backend).InStep where
  mode m hm := by cases hm
  driver := ⟨⟨⟨fun _ ↦ rfl, fun hopen ↦ absurd rfl hopen⟩, rfl, .inl rfl⟩, rfl⟩

/-- **Every callback** keeps the driver behind the mode. -/
theorem Kept.exec {c : ListenerCallback leap} (h : l.Kept) (hrun : l.exec sys c = some l') :
    l'.Kept := by
  cases c with
  | onFrame frame =>
    obtain ⟨hmode, htrack, hdriver⟩ := onFrame_spec h.mode hrun
    exact ⟨hmode, hdriver ▸ h.driver.run htrack⟩
  | setDesiredMode mode memory =>
    obtain ⟨hmode, hidle, calls, htrack, hdriver⟩ := setDesiredMode_spec h.mode hrun
    refine ⟨hmode, ?_⟩
    rw [hidle, hdriver]
    exact (h.driver.run htrack).cancelGestureEvents
  | onFocusGained =>
    obtain rfl := Option.some.inj hrun
    exact h
  | momentumTick =>
    obtain rfl := Option.some.inj hrun
    exact ⟨h.mode, h.driver.applyMomentum⟩
  | onFocusLost =>
    obtain rfl := Option.some.inj hrun
    exact ⟨h.mode, h.driver.cancelGestureEvents⟩
  | onDisconnect =>
    obtain rfl := Option.some.inj hrun
    exact ⟨h.mode, h.driver.cancelGestureEvents⟩
  | onExit =>
    obtain rfl := Option.some.inj hrun
    exact ⟨h.mode, h.driver.cancelGestureEvents⟩

/-- Every callback that does not cancel an open gesture keeps them in step. -/
theorem InStep.exec {c : ListenerCallback leap} (h : l.InStep)
    (hclosed : c.cancelsOnly = true → l.status.gesture = none) (hrun : l.exec sys c = some l') :
    l'.InStep := by
  cases c with
  | onFrame frame =>
    obtain ⟨hmode, htrack, hdriver⟩ := onFrame_spec h.mode hrun
    exact ⟨hmode, hdriver ▸ (h.driver.run htrack).1⟩
  | setDesiredMode mode memory =>
    obtain ⟨hmode, hidle, calls, htrack, hdriver⟩ := setDesiredMode_spec h.mode hrun
    refine ⟨hmode, ?_⟩
    rw [hidle, hdriver]
    exact (h.driver.run htrack).1.cancelGestureEvents rfl
  | onFocusGained =>
    obtain rfl := Option.some.inj hrun
    exact h
  | momentumTick =>
    obtain rfl := Option.some.inj hrun
    exact ⟨h.mode, h.driver.applyMomentum⟩
  | onFocusLost =>
    obtain rfl := Option.some.inj hrun
    exact ⟨h.mode, h.driver.cancelGestureEvents (hclosed rfl)⟩
  | onDisconnect =>
    obtain rfl := Option.some.inj hrun
    exact ⟨h.mode, h.driver.cancelGestureEvents (hclosed rfl)⟩
  | onExit =>
    obtain rfl := Option.some.inj hrun
    exact ⟨h.mode, h.driver.cancelGestureEvents (hclosed rfl)⟩

/-- **Every run** keeps the driver behind the mode. -/
theorem Kept.run {callbacks : List (ListenerCallback leap)} (h : l.Kept)
    (hrun : l.run sys callbacks = some l') : l'.Kept :=
  PartialRun.foldlM_invariant (P := fun _ l ↦ l.Kept) h
    (fun _ _ _ _ _ hkept hexec ↦ hkept.exec hexec) hrun

/-- Cancellations come only while no gesture is open. -/
def CancelsClosed (sys : TouchlessSystem leap σ) (l : TouchlessListener leap σ) :
    List (ListenerCallback leap) → Prop
  | [] => True
  | c :: callbacks => (c.cancelsOnly = true → l.status.gesture = none) ∧
      ∀ l', l.exec sys c = some l' → CancelsClosed sys l' callbacks

/-- Runs without cancellations are such. -/
theorem CancelsClosed.of_noCancels {callbacks : List (ListenerCallback leap)}
    (h : ∀ c ∈ callbacks, c.cancelsOnly = false) : CancelsClosed sys l callbacks := by
  induction callbacks generalizing l with
  | nil => trivial
  | cons c callbacks ih =>
    refine ⟨fun hc ↦ ?_, fun l' _ ↦ ih fun c' hc' ↦ h c' (.tail _ hc')⟩
    exact absurd (hc.symm.trans (h c (.head _))) (by simp)

/-- **Such runs** keep the driver in step with the mode. -/
theorem InStep.run {callbacks : List (ListenerCallback leap)} (h : l.InStep)
    (hclosed : CancelsClosed sys l callbacks) (hrun : l.run sys callbacks = some l') :
    l'.InStep := by
  induction callbacks generalizing l with
  | nil =>
    obtain rfl := Option.some.inj hrun
    exact h
  | cons c callbacks ih =>
    rw [TouchlessListener.run, List.foldlM_cons, Option.bind_eq_bind,
      Option.bind_eq_some_iff] at hrun
    obtain ⟨middle, hexec, hrest⟩ := hrun
    exact ih (h.exec hclosed.1 hexec) (hclosed.2 middle hexec) hrest

/-- **Callbacks return.** -/
theorem Kept.exec_returns (hlaw : leap.HandsOfPointablesExist) (hfuel : 4 < sys.fuel) (h : l.Kept)
    (c : ListenerCallback leap) : ∃ l', l.exec sys c = some l' := by
  cases c with
  | onFrame frame =>
    show ∃ l', l.onFrame sys frame = some l'
    rw [onFrame]
    cases hmanager : l.interactionManager with
    | none => exact ⟨_, rfl⟩
    | some m =>
      obtain ⟨m', hframe⟩ := (h.mode m hmanager).processFrame_returns hlaw hfuel frame l.lastFrame
      simp only [hframe]
      exact ⟨_, rfl⟩
  | setDesiredMode mode memory =>
    show ∃ l', l.setDesiredMode sys mode memory = some l'
    rw [setDesiredMode, deleteManager]
    cases hmanager : l.interactionManager with
    | none => exact ⟨_, rfl⟩
    | some m =>
      obtain ⟨m', hdestruct⟩ := GestureInteractionManager.destruct_returns sys m.clearCalls
      simp only [hdestruct]
      exact ⟨_, rfl⟩
  | _ => exact ⟨_, rfl⟩

theorem Kept.run_returns (hlaw : leap.HandsOfPointablesExist) (hfuel : 4 < sys.fuel) (h : l.Kept)
    (callbacks : List (ListenerCallback leap)) : ∃ l', l.run sys callbacks = some l' := by
  obtain ⟨l', hrun, -⟩ := PartialRun.foldlM_isSome h fun l c _ (hkept : l.Kept) ↦ by
    obtain ⟨l', hexec⟩ := hkept.exec_returns hlaw hfuel c
    exact ⟨l', hexec, hkept.exec hexec⟩
  exact ⟨l', hrun⟩

/-! ### The mac, with a device that sees fingers -/

/-- A Mac. -/
def macDesktop : Desktop fingerLeap.Scalar Unit where
  platform := .mac
  touchBackend := ⟨fun _ s ↦ s, fun _ _ s ↦ s, fun _ s ↦ s, fun s ↦ s, fun s ↦ s⟩
  clipPosition x y := (x, y)

/-- The program on a Mac. -/
def macSystem : TouchlessSystem fingerLeap Unit where
  env := .plain fingerLeap
  desktop := macDesktop
  basicModeSettings := .construct _ true
  fingerMouseSettings := .construct _
  fuel := 5

/-- Memory that is zero. -/
def blankMemory : ModeMemory fingerLeap := ⟨.blank _, .blank _, .blank _⟩

/-- A new listener on the Mac. -/
def macListener : TouchlessListener fingerLeap Unit :=
  construct macSystem (Vector.replicate 11 .zero) blankMemory ()

instance : Rounding fingerLeap.Scalar := rationalRounding

/-- Frames with so many fingers. -/
def fingerFrames (frames fingers : ℕ) : List (ListenerCallback fingerLeap) :=
  (List.range frames).map fun number ↦ .onFrame (fingerFrame number fingers)

/-! ### What is released -/

section Cancellation

variable {gestureMemory : Vector (GesturePoint leap.Scalar) 11} {memory : ModeMemory leap}
  {backend : σ} {callbacks : List (ListenerCallback leap)}

/-- **After a cancellation**, in every run, everything is released exactly if the mode is replaced,
or if it does not hold the button; and callbacks return. -/
theorem cancellation_released_iff (sys : TouchlessSystem leap σ)
    (gestureMemory : Vector (GesturePoint leap.Scalar) 11) (memory : ModeMemory leap) (backend : σ)
    (callbacks : List (ListenerCallback leap)) :
    (∀ l c l', (construct sys gestureMemory memory backend).run sys callbacks = some l →
      c.cancelsOnly = true ∨ c.replacesMode = true → l.exec sys c = some l' →
      (l'.osInteractionDriver.Released ↔ c.replacesMode = true ∨ l.status.buttonDown = false)) ∧
    (leap.HandsOfPointablesExist → 4 < sys.fuel →
      ∃ l, (construct sys gestureMemory memory backend).run sys callbacks = some l) := by
  have hstart := (inStep_construct sys gestureMemory memory backend).kept
  refine ⟨fun l c l' hrun hc hexec ↦ ?_, fun hlaw hfuel ↦ hstart.run_returns hlaw hfuel callbacks⟩
  have hkept : l.Kept := hstart.run hrun
  -- the old mode is destroyed before the driver cancels; nothing else lets go of a button
  cases hreplaces : c.replacesMode with
  | true =>
    refine iff_of_true ?_ (.inl rfl)
    cases c with
    | setDesiredMode mode newMemory =>
      obtain ⟨-, -, calls, htrack, hdriver⟩ := setDesiredMode_spec hkept.mode hexec
      have hidle : (l.osInteractionDriver.run sys.desktop calls).Trails .idle :=
        hkept.driver.run htrack
      rw [hdriver]
      exact (OSInteractionDriver.released_cancelGestureEvents_iff hidle.settled).2 hidle.buttonDown
    | _ => cases hreplaces
  | false =>
    have hcancels : c.cancelsOnly = true := by simpa [hreplaces] using hc
    rw [(exec_cancelsOnly hcancels hexec).2,
      OSInteractionDriver.released_cancelGestureEvents_iff hkept.driver.settled,
      hkept.driver.buttonDown]
    simp

/-- The focus is lost while two fingers scroll: everything is released. -/
theorem cancellation_released_iff_twoFingers :
    ∃ l l', macListener.run macSystem (.setDesiredMode .basic blankMemory :: fingerFrames 5 2) =
        some l ∧ l.exec macSystem .onFocusLost = some l' ∧ l'.osInteractionDriver.Released := by
  obtain ⟨hiff, hreturns⟩ :=
    cancellation_released_iff macSystem (Vector.replicate 11 .zero) blankMemory ()
    (.setDesiredMode .basic blankMemory :: fingerFrames 5 2)
  obtain ⟨l, hrun⟩ := hreturns fingerLeap_hands (by decide)
  have hup : (macListener.run macSystem
      (.setDesiredMode .basic blankMemory :: fingerFrames 5 2)).map (·.status.buttonDown) =
      some false := by decide +kernel
  obtain ⟨held, hheld, hstatus⟩ := Option.map_eq_some_iff.1 hup
  obtain rfl : held = l := Option.some.inj (hheld.symm.trans hrun)
  exact ⟨held, _, hrun, rfl, (hiff held .onFocusLost _ hrun (.inl rfl) rfl).2 (.inr hstatus)⟩

/-- The focus is lost while a finger clicks: the button stays down. -/
theorem cancellation_not_released :
    ∃ l l', macListener.run macSystem (.setDesiredMode .basic blankMemory :: fingerFrames 4 1) =
        some l ∧ l.exec macSystem .onFocusLost = some l' ∧ ¬ l'.osInteractionDriver.Released := by
  have hdown : (macListener.run macSystem
      (.setDesiredMode .basic blankMemory :: fingerFrames 4 1)).map
        (·.osInteractionDriver.buttonDown) = some true := by decide +kernel
  obtain ⟨l, hrun, hbutton⟩ := Option.map_eq_some_iff.1 hdown
  refine ⟨l, _, hrun, rfl, fun hreleased ↦ ?_⟩
  have hup : l.osInteractionDriver.buttonDown = false := hreleased.buttonDown
  exact Bool.noConfusion (hbutton.symm.trans hup)

/-- **After a frame**, in every run that cancels only while no gesture is open, the gesture of the
driver is the one that the state of the mode owns, and every movement of the frame was heard. -/
theorem run_gesture_inStep {l l' : TouchlessListener leap σ} {frame : leap.Frame}
    (hclosed : CancelsClosed sys (construct sys gestureMemory memory backend) callbacks)
    (hrun : (construct sys gestureMemory memory backend).run sys callbacks = some l)
    (hframe : l.exec sys (.onFrame frame) = some l') :
    l'.osInteractionDriver.gesture.type = l'.status.gesture.getD .none ∧
      ∀ before call after, l'.osCalls = before ++ call :: after →
        call.Heard (l.osInteractionDriver.run sys.desktop before).gesture.type := by
  have hstep : l.InStep := (inStep_construct sys gestureMemory memory backend).run hclosed hrun
  obtain ⟨-, htrack, hdriver⟩ := onFrame_spec hstep.mode hframe
  have hfollows : (l.osInteractionDriver.run sys.desktop l'.osCalls).Follows l'.status :=
    (hstep.driver.run htrack).1
  exact ⟨hdriver ▸ hfollows.inStep, (hstep.driver.run htrack).2⟩

/-- Two fingers that begin to scroll: nothing was cancelled, so the driver scrolls. -/
theorem run_gesture_inStep_twoFingers :
    ∃ l l', macListener.run macSystem (.setDesiredMode .basic blankMemory :: fingerFrames 4 2) =
        some l ∧ l.exec macSystem (.onFrame (fingerFrame 4 2)) = some l' ∧
      l'.osInteractionDriver.gesture.type = .scroll := by
  have hscrolls : ((macListener.run macSystem
      (.setDesiredMode .basic blankMemory :: fingerFrames 4 2)).bind
        (·.exec macSystem (.onFrame (fingerFrame 4 2)))).map (·.status.gesture) =
          some (some .scroll) := by decide +kernel
  obtain ⟨l', hthere, hgesture⟩ := Option.map_eq_some_iff.1 hscrolls
  obtain ⟨l, hrun, hframe⟩ := Option.bind_eq_some_iff.1 hthere
  have hclosed : CancelsClosed macSystem macListener
      (.setDesiredMode .basic blankMemory :: fingerFrames 4 2) :=
    .of_noCancels (by decide)
  have htype := (run_gesture_inStep hclosed hrun hframe).1
  rw [hgesture] at htype
  exact ⟨l, l', hrun, hframe, htype⟩

/-- Two fingers scroll, the focus is lost, and they go on: the mode scrolls, and the driver does
not. -/
theorem run_gesture_dropped :
    ∃ l l', macListener.run macSystem (.setDesiredMode .basic blankMemory :: fingerFrames 4 2 ++
        [.onFocusLost]) = some l ∧
      l.exec macSystem (.onFrame (fingerFrame 4 2)) = some l' ∧
      l'.status.gesture = some .scroll ∧ l'.osInteractionDriver.gesture.type = .none := by
  have hdropped : ((macListener.run macSystem
      (.setDesiredMode .basic blankMemory :: fingerFrames 4 2 ++ [.onFocusLost])).bind
        (·.exec macSystem (.onFrame (fingerFrame 4 2)))).map
          (fun l' ↦ (l'.status.gesture, l'.osInteractionDriver.gesture.type)) =
            some (some .scroll, .none) := by decide +kernel
  obtain ⟨l', hthere, hgesture⟩ := Option.map_eq_some_iff.1 hdropped
  obtain ⟨l, hrun, hframe⟩ := Option.bind_eq_some_iff.1 hthere
  obtain ⟨hmode, hdriver⟩ := Prod.mk.inj hgesture
  exact ⟨l, l', hrun, hframe, hmode, hdriver⟩

end Cancellation

end TouchlessListener

end Touchless
