import Touchless.GestureInteraction.BasicModeTransitions
import Touchless.GestureInteraction.FingerMouseTransitions
import Touchless.GestureInteraction.GestureOnlyModeContract

/-!
# The interaction modes

The three modes that are state machines, behind the interface of their base class. What each mode
keeps is put together here: whatever frames and focus losses a mode object gets, in whatever order,
the calls it sends to the OS driver are well behaved and its destructor releases everything
(`run_destruct_wellBehaved`); its transition loops end (`loopsEnd`); it goes to rest when the focus
is lost exactly where the last frame has nothing to interact with (`stopActiveEvents_atRest_iff`),
and on frames without pointables (`processFrame_atRest`).
-/

namespace Touchless

/-- An object of a mode class, with the configuration parameters of the class. -/
inductive InteractionManager (leap : Leap) where
  | basicMode (settings : BasicMode.Settings leap.Scalar) (o : BasicMode.Object leap)
  | fingerMouse (settings : FingerMouse.Settings leap.Scalar) (o : FingerMouse.Object leap)
  | gestureOnlyMode (o : GestureOnlyMode.Object leap)

namespace InteractionManager

variable {leap : Leap}

/-- An object that a constructor has just made. -/
inductive Constructed : InteractionManager leap → Prop
  | basicMode (settings : BasicMode.Settings leap.Scalar) (memory : BasicMode leap) :
    Constructed (.basicMode settings (.construct memory))
  | fingerMouse (settings : FingerMouse.Settings leap.Scalar) (memory : FingerMouse leap) :
    Constructed (.fingerMouse settings (.construct memory))
  | gestureOnlyMode (memory : GestureOnlyMode leap) :
    Constructed (.gestureOnlyMode (.construct memory))

section Operations

variable (env : Environment leap) (fuel : ℕ)

/-- `processFrame`. -/
def processFrame : InteractionManager leap → leap.Frame → leap.Frame →
    Option (InteractionManager leap)
  | basicMode settings o, frame, sinceFrame =>
    (BasicMode.processFrame env settings fuel o frame sinceFrame).map (basicMode settings)
  | fingerMouse settings o, frame, sinceFrame =>
    (FingerMouse.processFrame env settings fuel o frame sinceFrame).map (fingerMouse settings)
  | gestureOnlyMode o, frame, sinceFrame =>
    (GestureOnlyMode.processFrame env fuel o frame sinceFrame).map gestureOnlyMode

/-- `stopActiveEvents`. -/
def stopActiveEvents : InteractionManager leap → Option (InteractionManager leap)
  | basicMode settings o =>
    (BasicMode.stopActiveEvents env settings fuel o).map (basicMode settings)
  | fingerMouse settings o =>
    (FingerMouse.stopActiveEvents env settings fuel o).map (fingerMouse settings)
  | gestureOnlyMode o => (GestureOnlyMode.stopActiveEvents env fuel o).map gestureOnlyMode

/-- The destructor. -/
def destruct : InteractionManager leap → Option (InteractionManager leap)
  | basicMode settings o => (BasicMode.destruct env settings fuel o).map (basicMode settings)
  | fingerMouse settings o => (FingerMouse.destruct env settings fuel o).map (fingerMouse settings)
  | gestureOnlyMode o => (GestureOnlyMode.destruct env fuel o).map gestureOnlyMode

/-- What the listener calls. -/
def methods : ModeMethods leap (InteractionManager leap) where
  processFrame := processFrame env fuel
  stopActiveEvents := stopActiveEvents env fuel
  destruct := destruct env fuel

end Operations

/-- The calls that have been sent to the OS driver. -/
def osCalls : InteractionManager leap → List (OSCall leap.Scalar)
  | basicMode _ o => o.machine.owner.osCalls
  | fingerMouse _ o => o.machine.owner.osCalls
  | gestureOnlyMode o => o.machine.owner.osCalls

/-- The mode is in its no-interaction state, with no button down and no gesture open. -/
def AtRest : InteractionManager leap → Prop
  | basicMode _ o => o.AtRest (·.osCalls) .noPointablesNoInteraction
  | fingerMouse _ o => o.AtRest (·.osCalls) .noFingersNoInteraction
  | gestureOnlyMode o => o.AtRest (·.osCalls) .gestureRecognition

/-- Has the last frame something to interact with? For `basicMode` and `fingerMouse`, that is a
count of pointables that is known and not 0, two hands, or a palm. -/
def interacts : InteractionManager leap → Bool
  | basicMode settings o => BasicMode.interacts settings o.frame
  | fingerMouse settings o => FingerMouse.interacts settings o.frame
  | gestureOnlyMode _ => false

/-! ### What every run keeps -/

/-- The contract of the mode. -/
def Kept (start : DriverStatus) : InteractionManager leap → Prop
  | basicMode settings o => BasicMode.Kept settings start o
  | fingerMouse _ o => FingerMouse.Kept start o
  | gestureOnlyMode o => GestureOnlyMode.Kept start o

/-- The contract of the mode, once it has seen a frame. -/
def Holds (start : DriverStatus) : InteractionManager leap → Prop
  | basicMode settings o => o.Holds (BasicMode.Inside settings start)
  | fingerMouse _ o => o.Holds (FingerMouse.Inside start)
  | gestureOnlyMode o => o.Holds (GestureOnlyMode.Inside start)

/-- What else reachable objects keep: they are not at rest while there is something to interact
with, and in a palm state only where palms are enabled. -/
def Steady : InteractionManager leap → Prop
  | basicMode settings o => BasicMode.Rests settings o ∧
      (settings.disablePalmSwipe = true → BasicMode.KeptPalmFree o)
  | fingerMouse settings o => FingerMouse.Rests settings o
  | gestureOnlyMode _ => True

section Runs

variable {env : Environment leap} {fuel : ℕ} {o o' : InteractionManager leap}
  {start : DriverStatus} {calls : List (ModeCall leap)}

theorem Holds.kept (h : o.Holds start) : o.Kept start := by
  cases o with
  | basicMode settings o => exact ModeObject.Holds.kept h
  | fingerMouse settings o => exact ModeObject.Holds.kept h
  | gestureOnlyMode o => exact ModeObject.Holds.kept h

theorem Constructed.kept (h : o.Constructed) : o.Kept .idle := by
  cases h with
  | basicMode settings memory => exact BasicMode.kept_construct settings memory
  | fingerMouse settings memory => exact FingerMouse.kept_construct memory
  | gestureOnlyMode memory => exact GestureOnlyMode.kept_construct memory

theorem Constructed.steady (h : o.Constructed) : o.Steady := by
  cases h with
  | basicMode settings memory =>
    exact ⟨BasicMode.rests_construct settings memory,
      fun _ ↦ BasicMode.keptPalmFree_construct memory⟩
  | fingerMouse settings memory => exact FingerMouse.rests_construct settings memory
  | gestureOnlyMode memory => trivial

/-- Frames keep the contract, -/
theorem Kept.processFrame {frame sinceFrame : leap.Frame} (h : o.Kept start)
    (hrun : processFrame env fuel o frame sinceFrame = some o') : o'.Holds start := by
  cases o with
  | basicMode settings o =>
    obtain ⟨o₁, hmode, rfl⟩ := Option.map_eq_some_iff.1 hrun
    exact BasicMode.Kept.processFrame h hmode
  | fingerMouse settings o =>
    obtain ⟨o₁, hmode, rfl⟩ := Option.map_eq_some_iff.1 hrun
    exact FingerMouse.Kept.processFrame h hmode
  | gestureOnlyMode o =>
    obtain ⟨o₁, hmode, rfl⟩ := Option.map_eq_some_iff.1 hrun
    exact GestureOnlyMode.Kept.processFrame h hmode

/-- focus losses do, -/
theorem Kept.stopActiveEvents (h : o.Kept start)
    (hrun : stopActiveEvents env fuel o = some o') : o'.Holds start := by
  cases o with
  | basicMode settings o =>
    obtain ⟨o₁, hmode, rfl⟩ := Option.map_eq_some_iff.1 hrun
    exact BasicMode.Kept.stopActiveEvents h hmode
  | fingerMouse settings o =>
    obtain ⟨o₁, hmode, rfl⟩ := Option.map_eq_some_iff.1 hrun
    exact FingerMouse.Kept.stopActiveEvents h hmode
  | gestureOnlyMode o =>
    obtain ⟨o₁, hmode, rfl⟩ := Option.map_eq_some_iff.1 hrun
    exact GestureOnlyMode.Kept.stopActiveEvents h hmode

/-- and the destructor releases everything. -/
theorem Kept.destruct (h : o.Kept start) (hrun : destruct env fuel o = some o') :
    start.track o'.osCalls = some .idle := by
  cases o with
  | basicMode settings o =>
    obtain ⟨o₁, hmode, rfl⟩ := Option.map_eq_some_iff.1 hrun
    exact BasicMode.Kept.destruct h hmode
  | fingerMouse settings o =>
    obtain ⟨o₁, hmode, rfl⟩ := Option.map_eq_some_iff.1 hrun
    exact FingerMouse.Kept.destruct h hmode
  | gestureOnlyMode o =>
    obtain ⟨o₁, hmode, rfl⟩ := Option.map_eq_some_iff.1 hrun
    exact GestureOnlyMode.Kept.destruct h hmode

theorem Steady.processFrame {frame sinceFrame : leap.Frame} (h : o.Steady)
    (hrun : processFrame env fuel o frame sinceFrame = some o') : o'.Steady := by
  cases o with
  | basicMode settings o =>
    obtain ⟨o₁, hmode, rfl⟩ := Option.map_eq_some_iff.1 hrun
    exact ⟨BasicMode.rests_processFrame hmode,
      fun hdisabled ↦ (h.2 hdisabled).processFrame hdisabled hmode⟩
  | fingerMouse settings o =>
    obtain ⟨o₁, hmode, rfl⟩ := Option.map_eq_some_iff.1 hrun
    exact FingerMouse.rests_processFrame hmode
  | gestureOnlyMode o =>
    obtain ⟨o₁, hmode, rfl⟩ := Option.map_eq_some_iff.1 hrun
    trivial

theorem Steady.stopActiveEvents (h : o.Steady)
    (hrun : stopActiveEvents env fuel o = some o') : o'.Steady := by
  cases o with
  | basicMode settings o =>
    obtain ⟨o₁, hmode, rfl⟩ := Option.map_eq_some_iff.1 hrun
    exact ⟨(BasicMode.gate env settings).rests_lostFocus h.1 hmode,
      fun hdisabled ↦ (h.2 hdisabled).stopActiveEvents hdisabled hmode⟩
  | fingerMouse settings o =>
    obtain ⟨o₁, hmode, rfl⟩ := Option.map_eq_some_iff.1 hrun
    exact (FingerMouse.gate env settings).rests_lostFocus h hmode
  | gestureOnlyMode o =>
    obtain ⟨o₁, hmode, rfl⟩ := Option.map_eq_some_iff.1 hrun
    trivial

/-- **Every reachable object** keeps its contract and is steady. -/
theorem Constructed.run (h : o.Constructed) (hrun : (methods env fuel).run o calls = some o') :
    o'.Kept .idle ∧ o'.Steady :=
  ModeMethods.run_invariant (P := fun o ↦ o.Kept .idle ∧ o.Steady)
    (fun _ _ _ _ h hrun ↦ ⟨(h.1.processFrame hrun).kept, h.2.processFrame hrun⟩)
    (fun _ _ h hrun ↦ ⟨(h.1.stopActiveEvents hrun).kept, h.2.stopActiveEvents hrun⟩)
    ⟨h.kept, h.steady⟩ hrun

/-! ### The calls return -/

theorem Kept.processFrame_returns (hlaw : leap.HandsOfPointablesExist) (hfuel : 4 < fuel)
    (h : o.Kept start) (frame sinceFrame : leap.Frame) :
    ∃ o', InteractionManager.processFrame env fuel o frame sinceFrame = some o' ∧
      o'.Holds start := by
  cases o with
  | basicMode settings o =>
    have hfuel' : 2 < fuel := by omega
    obtain ⟨o', hrun, hholds⟩ := BasicMode.processFrame_returns env hlaw hfuel' h frame sinceFrame
    exact ⟨.basicMode settings o', Option.map_eq_some_iff.2 ⟨o', hrun, rfl⟩, hholds⟩
  | fingerMouse settings o =>
    obtain ⟨o', hrun, hholds⟩ := FingerMouse.processFrame_returns env hfuel h frame sinceFrame
    exact ⟨.fingerMouse settings o', Option.map_eq_some_iff.2 ⟨o', hrun, rfl⟩, hholds⟩
  | gestureOnlyMode o =>
    have hfuel' : 1 < fuel := by omega
    obtain ⟨o', hrun, hholds⟩ := GestureOnlyMode.processFrame_returns env hfuel' h frame sinceFrame
    exact ⟨.gestureOnlyMode o', Option.map_eq_some_iff.2 ⟨o', hrun, rfl⟩, hholds⟩

theorem Holds.stopActiveEvents_returns (hlaw : leap.HandsOfPointablesExist) (hfuel : 4 < fuel)
    (h : o.Holds start) :
    ∃ o', InteractionManager.stopActiveEvents env fuel o = some o' ∧ o'.Holds start := by
  cases o with
  | basicMode settings o =>
    have hfuel' : 2 < fuel := by omega
    obtain ⟨o', hrun, hholds⟩ := BasicMode.stopActiveEvents_returns env hlaw hfuel' h
    exact ⟨.basicMode settings o', Option.map_eq_some_iff.2 ⟨o', hrun, rfl⟩, hholds⟩
  | fingerMouse settings o =>
    obtain ⟨o', hrun, hholds⟩ := FingerMouse.stopActiveEvents_returns env hfuel h
    exact ⟨.fingerMouse settings o', Option.map_eq_some_iff.2 ⟨o', hrun, rfl⟩, hholds⟩
  | gestureOnlyMode o =>
    have hfuel' : 1 < fuel := by omega
    obtain ⟨o', hrun, hholds⟩ := GestureOnlyMode.stopActiveEvents_returns env hfuel' h
    exact ⟨.gestureOnlyMode o', Option.map_eq_some_iff.2 ⟨o', hrun, rfl⟩, hholds⟩

theorem destruct_returns (env : Environment leap) (fuel : ℕ) (o : InteractionManager leap) :
    ∃ o', InteractionManager.destruct env fuel o = some o' := by
  cases o with
  | basicMode settings o =>
    obtain ⟨o', hrun⟩ := BasicMode.destruct_returns env settings fuel o
    exact ⟨.basicMode settings o', Option.map_eq_some_iff.2 ⟨o', hrun, rfl⟩⟩
  | fingerMouse settings o =>
    obtain ⟨o', hrun⟩ := FingerMouse.destruct_returns env settings fuel o
    exact ⟨.fingerMouse settings o', Option.map_eq_some_iff.2 ⟨o', hrun, rfl⟩⟩
  | gestureOnlyMode o =>
    obtain ⟨o', hrun⟩ := GestureOnlyMode.destruct_returns env fuel o
    exact ⟨.gestureOnlyMode o', Option.map_eq_some_iff.2 ⟨o', hrun, rfl⟩⟩

theorem Constructed.run_returns (h : o.Constructed) (hlaw : leap.HandsOfPointablesExist)
    (hfuel : 4 < fuel) (hcalls : calls.head? ≠ some .stopActiveEvents) :
    ∃ o', (methods env fuel).run o calls = some o' :=
  ModeMethods.run_returns
    (fun _ h ↦ h.kept)
    (fun _ frame sinceFrame h ↦ h.processFrame_returns hlaw hfuel frame sinceFrame)
    (fun _ h ↦ h.stopActiveEvents_returns hlaw hfuel) h.kept hcalls

end Runs

/-! ### A device that sees a palm -/

/-- A device whose frames have a time, and a sideways palm in them or not. -/
def palmLeap : Leap where
  Scalar := ℚ
  arithmetic := rationalArithmetic id
  Frame := ℤ × Bool
  Hand := Unit
  Pointable := Unit
  InteractionBox := Unit
  radToDeg := 57
  normalizePoint _ position _ := position
  invalidFrame := (0, false)
  invalidPointable := ()
  frameIsValid _ := true
  frameId _ := 0
  timestamp frame := frame.1
  interactionBox _ := ()
  hands frame := if frame.2 then [()] else []
  pointables _ := []
  hand _ _ := ()
  pointable _ _ := ()
  translation _ _ := ⟨0, 0, 0⟩
  rotationAngle _ _ := 0
  scaleFactor _ _ := 1
  rotationProbability _ _ := 0
  translationProbability _ _ := 0
  scaleProbability _ _ := 0
  handIsValid _ := true
  handId _ := 0
  handFrameId _ := 0
  handPointables _ := []
  handDirection _ := ⟨0, 0, -1⟩
  palmNormal _ := ⟨1, 0, 0⟩
  palmPosition _ := ⟨0, 0, 0⟩
  stabilizedPalmPosition _ := ⟨0, 0, 0⟩
  pointableIsValid _ := false
  pointableId _ := 0
  pointableFrameId _ := 0
  handOf _ := ()
  touchZone _ := .none
  pointableDirection _ := ⟨0, 0, -1⟩
  tipPosition _ := ⟨0, 0, 0⟩
  stabilizedTipPosition _ := ⟨0, 0, 0⟩

/-- A screen that takes every position, without touch. -/
def palmEnvironment : Environment palmLeap where
  normalizedToScreen position := ⟨true, position, position⟩
  normalizedToAspect position := ⟨true, position, position⟩
  acceptableClampDistance := (0 : ℚ)
  touchAvailable := false
  touchVersion := 0
  useCharmHelper := false
  applyCharms _ _ mode := mode

/-- A frame of the device. -/
def palmFrame (time : ℤ) (palm : Bool) : palmLeap.Frame := (time, palm)

theorem palmLeap_hands : palmLeap.HandsOfPointablesExist := fun _ _ h ↦ by cases h

/-- A new object of `FingerMouse`, in memory that was zero. -/
def palmMouse : InteractionManager palmLeap :=
  .fingerMouse (FingerMouse.Settings.construct palmLeap.Scalar) (.construct {
    toManager := Manager.construct palmLeap
    drawOverlays := false
    clickDuration := 0
    clickEligibleForDrag := false
    clickNumber := 0
    deferClickUpForDrag := false
    lastClickTime := 0
    lastClickLocation := Vector3.zero
    gestureStart := palmFrame 0 false
    clickDownScreenPosition := Vector3.zero })

theorem palmMouse_constructed : palmMouse.Constructed := .fingerMouse _ _

/-- One frame. -/
theorem run_palmMouse (frame sinceFrame : palmLeap.Frame) :
    ∃ o, (methods palmEnvironment 5).run palmMouse [.processFrame frame sinceFrame] =
        some (.fingerMouse (FingerMouse.Settings.construct palmLeap.Scalar) o) ∧
      o.frame = (FrameState.construct palmLeap).processFrame (FingerMouse.overrides palmLeap) frame
        sinceFrame := by
  obtain ⟨o₁, hrun⟩ : ∃ o₁, (methods palmEnvironment 5).run palmMouse
      [.processFrame frame sinceFrame] = some o₁ :=
    palmMouse_constructed.run_returns palmLeap_hands (by decide) (by simp)
  have hone : processFrame palmEnvironment 5 palmMouse frame sinceFrame = some o₁ := by
    simpa [ModeMethods.run, ModeMethods.exec, methods] using hrun
  obtain ⟨o, hmode, rfl⟩ := Option.map_eq_some_iff.1 hone
  exact ⟨o, hrun, FingerMouse.frame_processFrame hmode⟩

/-- And a loss of the focus. -/
theorem stopActiveEvents_palmMouse {frame sinceFrame : palmLeap.Frame}
    {o : InteractionManager palmLeap}
    (hrun : (methods palmEnvironment 5).run palmMouse [.processFrame frame sinceFrame] = some o) :
    ∃ o', (methods palmEnvironment 5).stopActiveEvents o = some o' := by
  have hone : processFrame palmEnvironment 5 palmMouse frame sinceFrame = some o := by
    simpa [ModeMethods.run, ModeMethods.exec, methods] using hrun
  obtain ⟨o', hstop, -⟩ := (palmMouse_constructed.kept.processFrame hone).stopActiveEvents_returns
    palmLeap_hands (by decide : 4 < 5)
  exact ⟨o', hstop⟩

/-- New objects for fingers, in memory that was zero: of `FingerMouse`, -/
def freshMouse : InteractionManager fingerLeap :=
  .fingerMouse (FingerMouse.Settings.construct fingerLeap.Scalar)
    (.construct (FingerMouse.blank fingerLeap))

/-- and of `BasicMode` with mouse output. -/
def freshBasic : InteractionManager fingerLeap :=
  .basicMode (BasicMode.Settings.construct fingerLeap.Scalar true)
    (.construct (BasicMode.blank fingerLeap))

theorem freshBasic_constructed : freshBasic.Constructed := .basicMode _ _

section Behaviour

variable {env : Environment leap} {fuel : ℕ} {o o' : InteractionManager leap}
  {calls : List (ModeCall leap)}

/-! ### Well-behaved calls -/

/-- **The calls of a mode object** from its construction to its destruction are well behaved, and
leave no button down and no gesture open; and both the calls and the destructor return. -/
theorem run_destruct_wellBehaved (env : Environment leap) (fuel : ℕ) (ho : o.Constructed)
    (calls : List (ModeCall leap)) :
    (∀ o₁ o₂, (methods env fuel).run o calls = some o₁ → (methods env fuel).destruct o₁ = some o₂ →
      WellBehaved o₂.osCalls ∧ DriverStatus.track .idle o₂.osCalls = some .idle) ∧
    (leap.HandsOfPointablesExist → 4 < fuel → calls.head? ≠ some .stopActiveEvents →
      ∃ o₁ o₂, (methods env fuel).run o calls = some o₁ ∧
        (methods env fuel).destruct o₁ = some o₂) := by
  refine ⟨fun o₁ o₂ hrun hdestruct ↦ ?_, fun hlaw hfuel hcalls ↦ ?_⟩
  · have hreleased := (ho.run hrun).1.destruct hdestruct
    exact ⟨wellBehaved_of_track hreleased, hreleased⟩
  · obtain ⟨o₁, hrun⟩ := ho.run_returns hlaw hfuel hcalls
    obtain ⟨o₂, hdestruct⟩ := destruct_returns env fuel o₁
    exact ⟨o₁, o₂, hrun, hdestruct⟩

/-- A finger clicks, a second one joins it and they scroll, and the object is destroyed while they
do. -/
theorem run_destruct_wellBehaved_scrolling :
    ∃ o₁ o₂, (methods (Environment.plain fingerLeap) 5).run freshBasic
        (fingerSteps 66666 [1, 1, 1, 2, 2]) = some o₁ ∧
      DriverStatus.track .idle o₁.osCalls = some ⟨false, some .scroll⟩ ∧
      (methods (Environment.plain fingerLeap) 5).destruct o₁ = some o₂ ∧
      WellBehaved o₂.osCalls ∧ DriverStatus.track .idle o₂.osCalls = some .idle := by
  obtain ⟨hbehaved, hreturns⟩ := run_destruct_wellBehaved (Environment.plain fingerLeap) 5
    freshBasic_constructed (fingerSteps 66666 [1, 1, 1, 2, 2])
  obtain ⟨o₁, o₂, hrun, hdestruct⟩ := hreturns fingerLeap_hands (by decide) (by simp [fingerSteps])
  have hscroll : ((methods (Environment.plain fingerLeap) 5).run freshBasic
      (fingerSteps 66666 [1, 1, 1, 2, 2])).map (fun o ↦ DriverStatus.track .idle o.osCalls) =
        some (some ⟨false, some .scroll⟩) := by decide +kernel
  rw [hrun, Option.map_some, Option.some.injEq] at hscroll
  exact ⟨o₁, o₂, hrun, hscroll, hdestruct, hbehaved o₁ o₂ hrun hdestruct⟩

/-! ### Termination -/

/-- The transition loop of a mode ends: no cycle of states requests one another on `SM_ENTER`, and
an input returns in whatever state the machine is and whatever the last frame was. -/
structure LoopsEnd {S ι σ : Type} (handlers : FrameState leap → Handlers S ι σ) : Prop where
  acyclic : ∀ v, ∃ rank : S → ℕ, StateMachine.Lowers (handlers v) rank
  returns : ∀ v (m : StateMachine S ι σ) s i fuel, m.currentState = some s → 4 < fuel →
    ∃ m', m.runCurrentState true (handlers v) fuel i = some m'

theorem loopsEnd_of_terminates {S ι σ : Type} {handlers : FrameState leap → Handlers S ι σ}
    (h : ∀ fuel, 4 < fuel → ModeObject.Terminates handlers fuel) : LoopsEnd handlers where
  acyclic v :=
    have ⟨rank, hlowers, _⟩ := (h 5 (by decide)).lowers v
    ⟨rank, hlowers⟩
  returns v m s i fuel hs hfuel :=
    have ⟨_, hlowers, hrank⟩ := (h fuel hfuel).lowers v
    StateMachine.runCurrentState_returns ((h fuel hfuel).neverTransitionsOnExit v) hlowers hs
      hrank i

/-- **The transition loops of all modes end**, if a hand that a pointable names exists. -/
theorem loopsEnd (env : Environment leap) (hlaw : leap.HandsOfPointablesExist) :
    (∀ settings, LoopsEnd (BasicMode.handlers env settings)) ∧
      (∀ settings, LoopsEnd (FingerMouse.handlers env settings)) ∧
      LoopsEnd (GestureOnlyMode.handlers env) :=
  ⟨fun settings ↦ loopsEnd_of_terminates fun _ hfuel ↦
      BasicMode.terminates env settings hlaw (by omega),
    fun settings ↦ loopsEnd_of_terminates fun _ hfuel ↦ FingerMouse.terminates env settings hfuel,
    loopsEnd_of_terminates fun _ hfuel ↦ GestureOnlyMode.terminates env (by omega)⟩

theorem loopsEnd_fingers :
    (∀ settings, LoopsEnd (BasicMode.handlers (Environment.plain fingerLeap) settings)) ∧
      (∀ settings, LoopsEnd (FingerMouse.handlers (Environment.plain fingerLeap) settings)) ∧
      LoopsEnd (GestureOnlyMode.handlers (Environment.plain fingerLeap)) :=
  loopsEnd (Environment.plain fingerLeap) fingerLeap_hands

/-! ### Going to rest -/

theorem Kept.lostFocus_atRest_iff (hkept : o.Kept .idle) (hsteady : o.Steady)
    (hstop : InteractionManager.stopActiveEvents env fuel o = some o') :
    o'.AtRest ↔ o.interacts = false := by
  cases o with
  | basicMode settings o =>
    obtain ⟨o₁, hmode, rfl⟩ := Option.map_eq_some_iff.1 hstop
    exact BasicMode.lostFocus_atRest_iff hkept hsteady.1 hmode
  | fingerMouse settings o =>
    obtain ⟨o₁, hmode, rfl⟩ := Option.map_eq_some_iff.1 hstop
    exact FingerMouse.lostFocus_atRest_iff hkept hsteady hmode
  | gestureOnlyMode o =>
    obtain ⟨o₁, hmode, rfl⟩ := Option.map_eq_some_iff.1 hstop
    exact iff_of_true (GestureOnlyMode.lostFocus_atRest hkept hmode) rfl

/-- **Losing the focus**, in any reachable state, leads to rest exactly where the last frame has
nothing to interact with. -/
theorem stopActiveEvents_atRest_iff (ho : o.Constructed) {o₁ o₂ : InteractionManager leap}
    (hrun : (methods env fuel).run o calls = some o₁)
    (hstop : (methods env fuel).stopActiveEvents o₁ = some o₂) :
    o₂.AtRest ↔ o₁.interacts = false :=
  (ho.run hrun).1.lostFocus_atRest_iff (ho.run hrun).2 hstop

/-- Two fingers scroll at 60 frames a second and one of them goes. The filter does not know the
number of fingers then, and a loss of the focus ends the scrolling. -/
theorem stopActiveEvents_atRest_iff_scrolling :
    ∃ o₁ o₂, (methods (Environment.plain fingerLeap) 5).run freshBasic
        (fingerSteps 16666 [2, 2, 2, 2, 2, 2, 2, 1]) = some o₁ ∧
      DriverStatus.track .idle o₁.osCalls = some ⟨false, some .scroll⟩ ∧
      (methods (Environment.plain fingerLeap) 5).stopActiveEvents o₁ = some o₂ ∧ o₂.AtRest := by
  have hends : ((methods (Environment.plain fingerLeap) 5).run freshBasic
      (fingerSteps 16666 [2, 2, 2, 2, 2, 2, 2, 1])).bind (fun o₁ ↦
        ((methods (Environment.plain fingerLeap) 5).stopActiveEvents o₁).map fun _ ↦
          (DriverStatus.track .idle o₁.osCalls, o₁.interacts)) =
      some (some ⟨false, some .scroll⟩, false) := by decide +kernel
  obtain ⟨o₁, hrun, hends⟩ := Option.bind_eq_some_iff.1 hends
  obtain ⟨o₂, hstop, hends⟩ := Option.map_eq_some_iff.1 hends
  obtain ⟨hscroll, hnothing⟩ := Prod.mk.inj hends
  exact ⟨o₁, o₂, hrun, hscroll, hstop,
    (stopActiveEvents_atRest_iff freshBasic_constructed hrun hstop).2 hnothing⟩

/-- With a palm in the last frame it does not: the no-interaction state is left again at once. -/
theorem stopActiveEvents_not_atRest_palm :
    ∃ o₁ o₂, (methods palmEnvironment 5).run palmMouse
        [.processFrame (palmFrame 10 true) (palmFrame 0 false)] = some o₁ ∧
      (methods palmEnvironment 5).stopActiveEvents o₁ = some o₂ ∧ ¬o₂.AtRest := by
  obtain ⟨o₁, hrun, hframe⟩ := run_palmMouse (palmFrame 10 true) (palmFrame 0 false)
  obtain ⟨o₂, hstop⟩ := stopActiveEvents_palmMouse hrun
  obtain ⟨hkept, hsteady⟩ := palmMouse_constructed.run hrun
  refine ⟨_, o₂, hrun, hstop, fun hrest ↦ ?_⟩
  have hnothing := (hkept.lostFocus_atRest_iff hsteady hstop).1 hrest
  rw [interacts, hframe] at hnothing
  exact absurd hnothing (by decide +kernel)

/-- A frame in which there is nothing to interact with: the count of pointables is known to be 0,
and there are neither two hands nor a palm. It concerns the modes for pointables. -/
def ShowsNothing : InteractionManager leap → leap.Frame → leap.Frame → Prop
  | basicMode settings o, frame, sinceFrame => settings.disablePalmSwipe = true ∧
      BasicMode.NoInteraction settings
        (o.frame.processFrame (BasicMode.overrides leap) frame sinceFrame)
  | fingerMouse settings o, frame, sinceFrame =>
      FingerMouse.NoInteraction settings
        (o.frame.processFrame (FingerMouse.overrides leap) frame sinceFrame)
  | gestureOnlyMode _, _, _ => False

instance : ∀ (o : InteractionManager leap) (frame sinceFrame : leap.Frame),
    Decidable (o.ShowsNothing frame sinceFrame)
  | basicMode settings o, frame, sinceFrame =>
    inferInstanceAs (Decidable (settings.disablePalmSwipe = true ∧ BasicMode.NoInteraction settings
      (o.frame.processFrame (BasicMode.overrides leap) frame sinceFrame)))
  | fingerMouse settings o, frame, sinceFrame =>
    inferInstanceAs (Decidable (FingerMouse.NoInteraction settings
      (o.frame.processFrame (FingerMouse.overrides leap) frame sinceFrame)))
  | gestureOnlyMode _, _, _ => inferInstanceAs (Decidable False)

/-- **A frame without pointables**, in any reachable state, is processed and leads to rest. -/
theorem processFrame_atRest (ho : o.Constructed) {o₁ : InteractionManager leap}
    (hrun : (methods env fuel).run o calls = some o₁) {frame sinceFrame : leap.Frame}
    (hframe : o₁.ShowsNothing frame sinceFrame) (hfuel : 0 < fuel) :
    ∃ o₂, (methods env fuel).processFrame o₁ frame sinceFrame = some o₂ ∧ o₂.AtRest := by
  obtain ⟨hkept, hsteady⟩ := ho.run hrun
  cases o₁ with
  | basicMode settings o₁ =>
    obtain ⟨hdisabled, hnothing⟩ := hframe
    obtain ⟨o₂, hmode, hrest⟩ :=
      BasicMode.emptyFrame_atRest hkept (hsteady.2 hdisabled) hnothing hfuel
    exact ⟨.basicMode settings o₂, Option.map_eq_some_iff.2 ⟨o₂, hmode, rfl⟩, hrest⟩
  | fingerMouse settings o₁ =>
    obtain ⟨o₂, hmode, hrest⟩ := FingerMouse.emptyFrame_atRest hkept hframe hfuel
    exact ⟨.fingerMouse settings o₂, Option.map_eq_some_iff.2 ⟨o₂, hmode, rfl⟩, hrest⟩
  | gestureOnlyMode o₁ => exact hframe.elim

/-- Two fingers scroll, and are gone in the next frame. -/
theorem processFrame_atRest_scrolling :
    ∃ o₁ o₂, (methods (Environment.plain fingerLeap) 5).run freshBasic
        (fingerSteps 66666 [1, 1, 2, 2]) = some o₁ ∧
      DriverStatus.track .idle o₁.osCalls = some ⟨false, some .scroll⟩ ∧
      (methods (Environment.plain fingerLeap) 5).processFrame o₁ (fingerFrame 5 0)
        (fingerFrame 4 2) = some o₂ ∧ o₂.AtRest := by
  have hends : ((methods (Environment.plain fingerLeap) 5).run freshBasic
      (fingerSteps 66666 [1, 1, 2, 2])).map (fun o₁ ↦ (DriverStatus.track .idle o₁.osCalls,
        decide (o₁.ShowsNothing (fingerFrame 5 0) (fingerFrame 4 2)))) =
      some (some ⟨false, some .scroll⟩, true) := by decide +kernel
  obtain ⟨o₁, hrun, hends⟩ := Option.map_eq_some_iff.1 hends
  obtain ⟨hscroll, hnothing⟩ := Prod.mk.inj hends
  obtain ⟨o₂, hframe, hrest⟩ :=
    processFrame_atRest freshBasic_constructed hrun (of_decide_eq_true hnothing) (by decide)
  exact ⟨o₁, o₂, hrun, hscroll, hframe, hrest⟩

end Behaviour

end InteractionManager

end Touchless
