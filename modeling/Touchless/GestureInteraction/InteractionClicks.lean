import Touchless.GestureInteraction.BasicModeClicks
import Touchless.GestureInteraction.FingerMouseClicks
import Touchless.GestureInteraction.InteractionModes

/-!
# The clicks of the interaction modes

The two modes that click, behind the interface of their base class. In a run of `BasicMode`, and in
one of `FingerMouse` that ends no drag, every `clickUp` has the click number of its `clickDown`
(`run_clicksMatch`). The end of a drag sends a `clickUp` with the number 0
(`run_clicksMatch_fails`).
-/

namespace Touchless

namespace InteractionManager

variable {leap : Leap} {env : Environment leap} {fuel : ℕ} {o o' : InteractionManager leap}
  {calls : List (ModeCall leap)}

/-- The mode clicks: basic mode with the output of a mouse, or finger mouse. -/
def Clicks : InteractionManager leap → Prop
  | basicMode settings _ => settings.useMouseOutput = true
  | fingerMouse _ _ => True
  | gestureOnlyMode _ => False

/-- The object drags. -/
def Drags : InteractionManager leap → Prop
  | fingerMouse _ o => o.machine.currentState = some .oneFingerDragging
  | _ => False

/-- The call does not end a drag. -/
def KeepsDrag : InteractionManager leap → ModeCall leap → Prop
  | fingerMouse settings o, call => FingerMouse.KeepsDrag settings o call
  | _, _ => True

instance (o : InteractionManager leap) (call : ModeCall leap) : Decidable (o.KeepsDrag call) :=
  match o with
  | fingerMouse settings o => inferInstanceAs (Decidable (FingerMouse.KeepsDrag settings o call))
  | basicMode _ _ | gestureOnlyMode _ => .isTrue trivial

/-- What the modes that click keep. -/
def Clicked : InteractionManager leap → Prop
  | basicMode settings o => settings.useMouseOutput = true ∧ BasicMode.Clicked settings o
  | fingerMouse _ o => FingerMouse.Clicked o
  | gestureOnlyMode _ => False

theorem Constructed.clicked (h : o.Constructed) (hclicks : o.Clicks) : o.Clicked := by
  cases h with
  | basicMode settings memory => exact ⟨hclicks, BasicMode.clicked_construct settings memory⟩
  | fingerMouse settings memory => exact FingerMouse.clicked_construct memory
  | gestureOnlyMode memory => exact hclicks

theorem Clicked.exec {call : ModeCall leap} (h : o.Clicked) (hkeeps : o.KeepsDrag call)
    (hrun : (methods env fuel).exec o call = some o') : o'.Clicked := by
  cases o with
  | basicMode settings o =>
    cases call with
    | processFrame frame sinceFrame =>
      obtain ⟨o₁, hmode, rfl⟩ := Option.map_eq_some_iff.1 hrun
      exact ⟨h.1, h.2.processFrame h.1 hmode⟩
    | stopActiveEvents =>
      obtain ⟨o₁, hmode, rfl⟩ := Option.map_eq_some_iff.1 hrun
      exact ⟨h.1, h.2.stopActiveEvents h.1 hmode⟩
  | fingerMouse settings o =>
    cases call with
    | processFrame frame sinceFrame =>
      obtain ⟨o₁, hmode, rfl⟩ := Option.map_eq_some_iff.1 hrun
      exact FingerMouse.Clicked.processFrame h hkeeps hmode
    | stopActiveEvents =>
      obtain ⟨o₁, hmode, rfl⟩ := Option.map_eq_some_iff.1 hrun
      exact FingerMouse.Clicked.stopActiveEvents h hkeeps hmode
  | gestureOnlyMode o => exact h.elim

theorem Clicked.clicksMatch (h : o.Clicked) : ClicksMatch o.osCalls := by
  cases o with
  | basicMode settings o => exact h.2.click.clicksMatch
  | fingerMouse settings o => exact FingerMouse.ClickKept.clicksMatch h.kept
  | gestureOnlyMode o => exact h.elim

theorem Clicked.destruct (h : o.Clicked) (hdrag : ¬ o.Drags)
    (hrun : destruct env fuel o = some o') : ClicksMatch o'.osCalls := by
  cases o with
  | basicMode settings o =>
    obtain ⟨o₁, hmode, rfl⟩ := Option.map_eq_some_iff.1 hrun
    exact (h.2.destruct h.1 hmode).clicksMatch
  | fingerMouse settings o =>
    obtain ⟨o₁, hmode, rfl⟩ := Option.map_eq_some_iff.1 hrun
    exact FingerMouse.Clicked.destruct h hdrag hmode
  | gestureOnlyMode o => exact h.elim

/-- **Clicks match** in every run in which no call ends a drag, and still do when the destructor
ends none. -/
theorem run_clicksMatch (ho : o.Constructed) (hclicks : o.Clicks)
    (hkeeps : (methods env fuel).Meets KeepsDrag o calls)
    (hrun : (methods env fuel).run o calls = some o') :
    ClicksMatch o'.osCalls ∧
      (¬ o'.Drags → ∀ o'', (methods env fuel).destruct o' = some o'' →
        ClicksMatch o''.osCalls) := by
  have hclicked : o'.Clicked := ModeMethods.run_invariant_of_meets (P := Clicked)
    (fun _ _ _ h hkeeps hrun ↦ h.exec hkeeps hrun) (ho.clicked hclicks) hkeeps hrun
  exact ⟨hclicked.clicksMatch, fun hdrag _ hdestruct ↦ hclicked.destruct hdrag hdestruct⟩

/-- A finger clicks, and is lifted before the click becomes a drag. -/
theorem run_clicksMatch_finger :
    ∃ o, (methods (Environment.plain fingerLeap) 5).run freshMouse
        (fingerCalls 4 1 ++ [.stopActiveEvents]) = some o ∧
      ClicksMatch o.osCalls ∧ 1 ∈ o.osCalls.filterMap OSCall.upNumber := by
  have hclick : ((methods (Environment.plain fingerLeap) 5).run freshMouse
      (fingerCalls 4 1 ++ [.stopActiveEvents])).map
        (fun o ↦ decide (1 ∈ o.osCalls.filterMap OSCall.upNumber)) = some true := by decide +kernel
  obtain ⟨o, hrun, hone⟩ := Option.map_eq_some_iff.1 hclick
  have hkeeps : (methods (Environment.plain fingerLeap) 5).Meets KeepsDrag freshMouse
      (fingerCalls 4 1 ++ [.stopActiveEvents]) := by decide +kernel
  exact ⟨o, hrun,
    (run_clicksMatch (.fingerMouse _ _) trivial hkeeps hrun).1, of_decide_eq_true hone⟩

/-- A finger touches for long enough to drag, and the focus is lost: the click with the number 1 is
closed by a `clickUp` with the number 0. -/
theorem run_clicksMatch_fails :
    ∃ o, (methods (Environment.plain fingerLeap) 5).run freshMouse
        (fingerCalls 12 1 ++ [.stopActiveEvents]) = some o ∧ ¬ ClicksMatch o.osCalls := by
  have hdrag : ((methods (Environment.plain fingerLeap) 5).run freshMouse
      (fingerCalls 12 1 ++ [.stopActiveEvents])).map
        (fun o ↦ decide (0 ∈ o.osCalls.filterMap OSCall.upNumber)) = some true := by decide +kernel
  obtain ⟨o, hrun, hzero⟩ := Option.map_eq_some_iff.1 hdrag
  refine ⟨o, hrun, fun hmatch ↦ ?_⟩
  have hpos := (hmatch.number_of_mem (of_decide_eq_true hzero)).1
  omega

end InteractionManager

end Touchless
