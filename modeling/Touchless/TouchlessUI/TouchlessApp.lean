import Touchless.Configuration.ConfigRuns
import Touchless.Foundations.Mirror
import Touchless.OSInteraction.LPGesture
import Touchless.TouchlessUI.TouchlessListener
import Touchless.Utility.LPVirtualScreenRuns

/-!
# The settings between the menu, the listener and the configuration

The interaction mode and the use of several screens are kept in four places: `TouchlessUI` has a
menu with an action for each mode and one for the screens, `TouchlessListener` has members for both
and the mode object and the virtual screen that they govern, and `Config` has two attributes. The
callbacks of the listener run on a thread of the SDK, a step from one access to the next; what they
emit is posted to the thread of the user interface, where `connectChangedSlot` sets the actions, and
an action that is toggled, by it or by the user, goes back to the listener at once. A slot of the
user interface is one step.

The checked action is that of the mode object at all times, and when nothing is on its way, the menu
shows what the listener has (`menu_agrees`). What the choice of the screens does depends on the
platform (`screens_follow`): on the Mac it is obeyed, while under Windows the listener asks how many
screens are active before it makes more of them active, so it never does. What has been saved is
there after a restart (`settings_survive`), but a choice can be lost (`choice_lost`).

The action group is that of Qt, of which the documented behaviour is assumed (`ActionGroups`). The
program starts here where `setReady` has been called.
-/

namespace Touchless

/-- The value of the enumeration. -/
def GestureInteractionMode.number : GestureInteractionMode → Int32
  | disabled => 0
  | intro => 1
  | basic => 2
  | advanced => 3

/-- The mode with a value, which need not have one. -/
def GestureInteractionMode.ofNumber (n : Int32) : Option GestureInteractionMode :=
  if n = 0 then some disabled
  else if n = 1 then some intro
  else if n = 2 then some basic
  else if n = 3 then some advanced
  else none

@[simp]
theorem GestureInteractionMode.ofNumber_number (mode : GestureInteractionMode) :
    ofNumber mode.number = some mode := by
  cases mode <;> rfl

theorem GestureInteractionMode.ofNumber_eq_some {n : Int32} {mode : GestureInteractionMode} :
    ofNumber n = some mode ↔ n = mode.number := by
  constructor
  · intro h
    rw [ofNumber] at h
    split_ifs at h with h0 h1 h2 h3
    all_goals
      obtain rfl := Option.some.inj h
      assumption
  · rintro rfl
    exact ofNumber_number mode

/-- Exclusive `QActionGroup`s of the four mode actions, with what is documented of them: an action
that `setChecked(true)` is called on is the checked one afterwards, and of the signals
`toggled(bool)` that this emits, those with `true` tell that it has not been before. -/
structure ActionGroups where
  Group : Type
  new : Group
  checkedAction : Group → Option GestureInteractionMode
  /-- `setChecked(true)` on an action, with the signals `toggled` in their order -/
  setChecked : Group → GestureInteractionMode → Group × List (GestureInteractionMode × Bool)
  checkedAction_new : checkedAction new = none
  checkedAction_setChecked : ∀ group action,
    checkedAction (setChecked group action).1 = some action
  toggled_setChecked : ∀ group action, (setChecked group action).2.filter (·.2) =
    if checkedAction group = some action then [] else [(action, true)]

/-- `To<int>` for the types of which it depends on iostreams or on floating-point conversions. -/
structure NumberConversions where
  double : UInt64 → Int32
  longDouble : BitVec 80 → Int32
  string : Bytes → Int32
  /-- `double != 0.0` -/
  doubleIsSet : UInt64 → Bool
  longDoubleIsSet : BitVec 80 → Bool

namespace Value

/-- `To<int>`. -/
def toInt (numbers : NumberConversions) : Value → Int32
  | int n => n
  | double bits => numbers.double bits
  | string s => numbers.string s
  | bool b => if b then 1 else 0
  | longlong n => n.toInt32
  | uint n => n.toInt32
  | ulonglong n => n.toUInt32.toInt32
  | longDouble bits => numbers.longDouble bits
  | _ => 0

/-- `To<bool>`. -/
def toBool (numbers : NumberConversions) : Value → Bool
  | bool b => b
  | int n => n != 0
  | double bits => numbers.doubleIsSet bits
  | string s => !s.isEmpty && s != ascii "0" && s != ascii "false"
  | longlong n => n != 0
  | uint n => n != 0
  | ulonglong n => n != 0
  | longDouble bits => numbers.longDoubleIsSet bits
  | null => false
  | _ => true

end Value

/-- The arguments of `connectChangedSignal`. -/
structure ConnectChanged where
  connected : Bool
  mode : Int32
  useMultiMonitors : Bool

/-- The touch managers of Windows. -/
inductive TouchManagerClass where
  | win8
  | win7Driver
  | win7Undocumented

/-- `Version`. -/
def TouchManagerClass.version : TouchManagerClass → ℕ
  | win8 => 8
  | win7Driver | win7Undocumented => 7

/-- `numTouchScreens`: of the virtual screen, but `TouchManagerWin7Undocumented` overrides it. -/
def TouchManagerClass.numTouchScreens (virtualScreen : LPVirtualScreen) : TouchManagerClass → ℕ
  | win8 | win7Driver => virtualScreen.activeScreens.length
  | win7Undocumented => 1

/-- What the program runs on. -/
structure AppSystem where
  platform : Platform
  /-- `m_touchManager`; the program only runs under Windows if there is one, and elsewhere nothing
  asks for it -/
  touchManager : TouchManagerClass
  groups : ActionGroups
  floats : FloatText
  numbers : NumberConversions
  options : Config.BuildOptions
  /-- the path of `touchless-config.json` -/
  configPath : Bytes

/-- `supportedTouchVersion`. -/
def AppSystem.touchVersion (sys : AppSystem) : ℕ :=
  match sys.platform with
  | .windows _ _ => sys.touchManager.version
  | _ => 1

/-- The members of `TouchlessUI` that depend on the settings. -/
structure TouchlessUI (groups : ActionGroups) where
  modeGroup : groups.Group
  modeGroupEnabled : Bool
  multiMonitorChecked : Bool
  multiMonitorEnabled : Bool
  toolTip : String

/-- Where the thread of the callbacks is. -/
inductive LeapThread where
  /-- in no callback -/
  | idle
  /-- in `onConnect`, after the mode has been read -/
  | connecting (tempMode : Int32)
  /-- in `onConnect`, before the signal is emitted -/
  | emitting (tempMode : Int32)
  /-- in `onFrame`, before `SetAttribute` for the screens -/
  | savingScreens
  /-- in `onFrame`, before `SetAttribute` for the mode -/
  | savingMode
  /-- in `onFrame`, before `Save` -/
  | saving
  /-- in `onFrame`, before `m_updateSettings` is reset -/
  | saved
  deriving DecidableEq

/-- The program: the configuration with its files, the listener, what is posted to the user
interface, and the user interface. -/
structure TouchlessApp (sys : AppSystem) where
  config : Config.ConfigState
  files : Config.Files
  /-- the screens that there are -/
  displays : LPVirtualScreen.DetectedScreens
  virtualScreen : LPVirtualScreen
  desiredMode : Int32
  /-- the mode that `m_interactionManager` was made for -/
  interactionManager : Int32
  updateSettings : Bool
  useMultipleMonitors : Bool
  leapThread : LeapThread
  posted : List ConnectChanged
  ui : TouchlessUI sys.groups

/-- The callbacks of the listener that touch the settings. -/
inductive LeapCallback where
  | onConnect
  | onDisconnect
  | onExit
  | onFrame
  | onFocusGained

/-- What can happen next. -/
inductive AppAction where
  /-- the thread of the callbacks enters one -/
  | callback (callback : LeapCallback)
  /-- it goes on with the one that it is in -/
  | goOn
  /-- the first of the posted signals gets to its slot -/
  | deliver
  /-- the user clicks on the action of a mode -/
  | chooseMode (mode : GestureInteractionMode)
  /-- the user clicks on that of the screens -/
  | chooseScreens
  | changeDisplays (detected : LPVirtualScreen.DetectedScreens)

namespace TouchlessUI

variable {groups : ActionGroups}

/-- The constructor. -/
def construct (groups : ActionGroups) : TouchlessUI groups where
  modeGroup := groups.new
  modeGroupEnabled := false
  multiMonitorChecked := false
  multiMonitorEnabled := false
  toolTip := "Touchless"

/-- A slot for `toggled` of a mode action, with the signal that it emits. -/
def modeSlot (mode : GestureInteractionMode) (toolTip : String) (ui : TouchlessUI groups)
    (enabled : Bool) : TouchlessUI groups × Option GestureInteractionMode :=
  if enabled then ({ ui with toolTip := toolTip }, some mode) else (ui, none)

/-- `disabledModeSlot`, which emits `disabledModeSignal`. -/
def disabledModeSlot (ui : TouchlessUI groups) (enabled : Bool) :
    TouchlessUI groups × Option GestureInteractionMode :=
  modeSlot .disabled "Disabled" ui enabled

/-- `introModeSlot`. -/
def introModeSlot (ui : TouchlessUI groups) (enabled : Bool) :
    TouchlessUI groups × Option GestureInteractionMode :=
  modeSlot .intro "Intro Mode" ui enabled

/-- `basicModeSlot`. -/
def basicModeSlot (ui : TouchlessUI groups) (enabled : Bool) :
    TouchlessUI groups × Option GestureInteractionMode :=
  modeSlot .basic "Basic Mode" ui enabled

/-- `advancedModeSlot`. -/
def advancedModeSlot (ui : TouchlessUI groups) (enabled : Bool) :
    TouchlessUI groups × Option GestureInteractionMode :=
  modeSlot .advanced "Advanced Mode" ui enabled

/-- The slot that `toggled` of a mode action is connected to. -/
def slotOf : GestureInteractionMode → TouchlessUI groups → Bool →
    TouchlessUI groups × Option GestureInteractionMode
  | .disabled => disabledModeSlot
  | .intro => introModeSlot
  | .basic => basicModeSlot
  | .advanced => advancedModeSlot

/-- The text that goes with the checked action. -/
def toolTipOf : Option GestureInteractionMode → String
  | none => "Touchless"
  | some .disabled => "Disabled"
  | some .intro => "Intro Mode"
  | some .basic => "Basic Mode"
  | some .advanced => "Advanced Mode"

/-- Is the action of a mode in the menu? -/
def inMenu (platform : Platform) (mode : GestureInteractionMode) : Bool :=
  mode != .intro || platform == .mac

end TouchlessUI

namespace TouchlessApp

open Config

variable {sys : AppSystem}

/-! ### The listener -/

/-- `numTouchScreens` of the driver. -/
def numTouchScreens (app : TouchlessApp sys) : ℕ :=
  match sys.platform with
  | .windows _ _ => sys.touchManager.numTouchScreens app.virtualScreen
  | _ => 0

/-- `updateDefaultScreen`. -/
def updateDefaultScreen (app : TouchlessApp sys) : TouchlessApp sys :=
  let useDefaultScreen := if app.useMultipleMonitors then app.numTouchScreens == 1 else true
  { app with
    virtualScreen :=
      app.virtualScreen.setUseDefaultScreen useDefaultScreen app.displays.screens }

/-- `setDesiredMode`. -/
def setDesiredMode (app : TouchlessApp sys) (mode : GestureInteractionMode) : TouchlessApp sys :=
  { app with
    desiredMode := mode.number
    updateSettings := true
    interactionManager := mode.number }

/-- `setUseMultipleMonitors`. -/
def setUseMultipleMonitors (app : TouchlessApp sys) (use : Bool) : TouchlessApp sys :=
  { app with useMultipleMonitors := use, updateSettings := true }.updateDefaultScreen

def modeName : Bytes := ascii "os_interaction_mode"

def screensName : Bytes := ascii "os_interaction_multi_monitor"

def sectionName : Bytes := ascii "configuration"

/-- `Config::GetAttribute<int>("os_interaction_mode", tempMode)`, after `tempMode` has been set to
`OUTPUT_MODE_DISABLED`. -/
def tempMode (app : TouchlessApp sys) : Int32 :=
  ((getAttribute app.config modeName).map (Value.toInt sys.numbers)).getD 0

/-- What `m_useMultipleMonitors` is after
`Config::GetAttribute<bool>("os_interaction_multi_monitor", m_useMultipleMonitors)`. -/
def readScreens (app : TouchlessApp sys) : Bool :=
  ((getAttribute app.config screensName).map (Value.toBool sys.numbers)).getD
    app.useMultipleMonitors

/-- `connectChangedSignal` with the mode and the use of the screens that it is emitted with. -/
def emit (app : TouchlessApp sys) (connected : Bool) (mode : Int32) : TouchlessApp sys :=
  { app with posted := app.posted ++ [⟨connected, mode, app.useMultipleMonitors⟩] }

/-- A callback from its beginning to its first access that another thread may see, or to its end. -/
def enter (app : TouchlessApp sys) : LeapCallback → TouchlessApp sys
  | .onConnect => { app with desiredMode := app.tempMode, leapThread := .connecting app.tempMode }
  | .onDisconnect => app.emit false app.desiredMode
  | .onExit => app.emit false app.desiredMode
  | .onFrame => if app.updateSettings then { app with leapThread := .savingScreens } else app
  | .onFocusGained => app.updateDefaultScreen

/-- The next access of the callback that the thread is in. -/
def goOn (app : TouchlessApp sys) : Option (TouchlessApp sys) :=
  match app.leapThread with
  | .idle => none
  | .connecting tempMode =>
    some { app with useMultipleMonitors := app.readScreens, leapThread := .emitting tempMode }
  | .emitting tempMode => some { app.emit true tempMode with leapThread := .idle }
  | .savingScreens =>
    some { app with
      config :=
        (setAttribute sys.floats app.config screensName (.bool app.useMultipleMonitors) true).2
      leapThread := .savingMode }
  | .savingMode =>
    some { app with
      config := (setAttribute sys.floats app.config modeName (.int app.desiredMode) true).2
      leapThread := .saving }
  | .saving =>
    some { app with
      files := (save sys.floats app.files app.config sectionName false).2
      leapThread := .saved }
  | .saved => some { app with updateSettings := false, leapThread := .idle }

/-! ### The user interface -/

/-- The signal `toggled` of a mode action: its slot, and that of the program for the signal that
this one emits. -/
def modeToggled (app : TouchlessApp sys) (signal : GestureInteractionMode × Bool) :
    TouchlessApp sys :=
  match TouchlessUI.slotOf signal.1 app.ui signal.2 with
  | (ui, none) => { app with ui := ui }
  | (ui, some mode) => { app with ui := ui }.setDesiredMode mode

/-- `setChecked(true)` on a mode action. -/
def checkMode (app : TouchlessApp sys) (mode : GestureInteractionMode) : TouchlessApp sys :=
  let (modeGroup, signals) := sys.groups.setChecked app.ui.modeGroup mode
  signals.foldl modeToggled { app with ui := { app.ui with modeGroup := modeGroup } }

/-- `setChecked` on the action of the screens, the signal of which is passed on to
`multiMonitorSlot`. -/
def checkScreens (app : TouchlessApp sys) (checked : Bool) : TouchlessApp sys :=
  if app.ui.multiMonitorChecked = checked then app
  else { app with ui := { app.ui with multiMonitorChecked := checked } }.setUseMultipleMonitors
    checked

/-- The `switch` of `connectChangedSlot`, with what is done to the action that it finds. -/
def showMode (app : TouchlessApp sys) (mode : Int32) : TouchlessApp sys :=
  match GestureInteractionMode.ofNumber mode with
  | some mode => app.checkMode mode
  | none => app

/-- The actions are enabled or disabled. -/
def enableMenu (app : TouchlessApp sys) (connected : Bool) : TouchlessApp sys :=
  { app with
    ui := { app.ui with modeGroupEnabled := connected, multiMonitorEnabled := connected } }

/-- `connectChangedSlot`. -/
def connectChangedSlot (app : TouchlessApp sys) (signal : ConnectChanged) : TouchlessApp sys :=
  ((app.enableMenu signal.connected).showMode signal.mode).checkScreens signal.useMultiMonitors

/-! ### Runs -/

/-- The configuration file is made if there is none. -/
def startFiles (sys : AppSystem) (files : Files) : Files :=
  let empty := Value.hash [(sectionName, .hash [])]
  if (files sys.configPath).isSome then files
  else Function.update files sys.configPath (some (empty.toJSON sys.floats true false))

/-- The start of the program: the configuration is read, then the screens are chosen. -/
def start (sys : AppSystem) (files : Files) (displays : LPVirtualScreen.DetectedScreens) :
    TouchlessApp sys :=
  let files := startFiles sys files
  let app : TouchlessApp sys :=
    { config := restart sys.floats sys.options files .construct sys.configPath sectionName
      files := files
      displays := displays
      virtualScreen := LPVirtualScreen.create displays
      desiredMode := 0
      interactionManager := 0
      updateSettings := false
      useMultipleMonitors := false
      leapThread := .idle
      posted := []
      ui := .construct sys.groups }
  app.updateDefaultScreen

theorem config_start (files : Files) (displays : LPVirtualScreen.DetectedScreens) :
    (start sys files displays).config = restart sys.floats sys.options (startFiles sys files)
      .construct sys.configPath sectionName := rfl

/-- The user clicks on a mode: it has to be in the menu, and enabled. -/
def clickMode (app : TouchlessApp sys) (mode : GestureInteractionMode) :
    Option (TouchlessApp sys) :=
  if app.ui.modeGroupEnabled && TouchlessUI.inMenu sys.platform mode then some (app.checkMode mode)
  else none

/-- The user clicks on the action of the screens, which is hidden where the touch version is 7. -/
def clickScreens (app : TouchlessApp sys) : Option (TouchlessApp sys) :=
  if app.ui.multiMonitorEnabled && sys.touchVersion != 7 then
    some (app.checkScreens (!app.ui.multiMonitorChecked))
  else none

/-- One step. -/
def step (app : TouchlessApp sys) : AppAction → Option (TouchlessApp sys)
  | .callback callback =>
    match app.leapThread with
    | .idle => some (app.enter callback)
    | _ => none
  | .goOn => app.goOn
  | .deliver =>
    match app.posted with
    | [] => none
    | signal :: posted => some ({ app with posted := posted }.connectChangedSlot signal)
  | .chooseMode mode => app.clickMode mode
  | .chooseScreens => app.clickScreens
  | .changeDisplays detected =>
    some { app with
      displays := detected, virtualScreen := app.virtualScreen.update detected.screens }

/-- Any interleaving. -/
def run (app : TouchlessApp sys) (actions : List AppAction) : Option (TouchlessApp sys) :=
  actions.foldlM step app

/-- The listener connects, and its signal gets to the slot. -/
def connection : List AppAction := [.callback .onConnect, .goOn, .goOn, .deliver]

/-! ### The menu and the listener -/

/-- The checked mode action. -/
def checkedMode (app : TouchlessApp sys) : Option GestureInteractionMode :=
  sys.groups.checkedAction app.ui.modeGroup

/-- How the mode of the listener is shown by the menu. The program starts with no action checked and
with the listener disabled. -/
def modeMirror : Mirror Int32 (Option GestureInteractionMode) where
  decode n := (GestureInteractionMode.ofNumber n).map some
  encode checked := (checked.getD .disabled).number
  encode_decode h := by
    obtain ⟨mode, hmode, rfl⟩ := Option.map_eq_some_iff.1 h
    exact (GestureInteractionMode.ofNumber_eq_some.1 hmode).symm

/-- How its use of the screens is shown. -/
def screensMirror : Mirror Bool Bool where
  decode := some
  encode := id
  encode_decode h := (Option.some.inj h).symm

/-- The mode that is on its way to the menu: that of the callback that the thread is in, or of the
signal that has been posted last. -/
def pendingMode (app : TouchlessApp sys) : Option Int32 :=
  match app.leapThread with
  | .connecting mode | .emitting mode => some mode
  | _ => app.posted.getLast?.map (·.mode)

/-- Is the thread between the reading of the settings and the signal? -/
def LeapThread.isEmitting : LeapThread → Bool
  | .emitting _ => true
  | _ => false

/-- Nothing is on its way between the threads. -/
def AtRest (app : TouchlessApp sys) : Prop := app.leapThread = .idle ∧ app.posted = []

/-- The menu goes with the mode object, and mirrors what the listener has. -/
structure Agrees (app : TouchlessApp sys) : Prop where
  manager : app.interactionManager = modeMirror.encode app.checkedMode
  toolTip : app.ui.toolTip = TouchlessUI.toolTipOf app.checkedMode
  mode : modeMirror.Mirrored app.desiredMode app.checkedMode app.pendingMode
  screens : LeapThread.isEmitting app.leapThread = false →
    screensMirror.Mirrored app.useMultipleMonitors app.ui.multiMonitorChecked
      (app.posted.getLast?.map (·.useMultiMonitors))

variable {app app' : TouchlessApp sys}

/-- The program with another action checked, before the signals of the group. -/
def groupChecked (app : TouchlessApp sys) (mode : GestureInteractionMode) : TouchlessApp sys :=
  { app with ui := { app.ui with modeGroup := (sys.groups.setChecked app.ui.modeGroup mode).1 } }

/-- The same with the text of the mode. -/
def withToolTip (app : TouchlessApp sys) (mode : GestureInteractionMode) : TouchlessApp sys :=
  { app with ui := { app.ui with toolTip := TouchlessUI.toolTipOf (some mode) } }

theorem modeToggled_true (mode : GestureInteractionMode) :
    app.modeToggled (mode, true) = (app.withToolTip mode).setDesiredMode mode := by
  cases mode <;> rfl

theorem modeToggled_false (mode : GestureInteractionMode) :
    app.modeToggled (mode, false) = app := by
  cases mode <;> rfl

theorem checkedMode_groupChecked (mode : GestureInteractionMode) :
    (app.groupChecked mode).checkedMode = some mode :=
  sys.groups.checkedAction_setChecked _ _

/-- **What `setChecked` does** to a mode action: it is checked, and if it has not been before, the
listener gets the mode. -/
theorem checkMode_eq (mode : GestureInteractionMode) :
    app.checkMode mode = if app.checkedMode = some mode then app.groupChecked mode
      else ((app.groupChecked mode).withToolTip mode).setDesiredMode mode := by
  -- only signals with `true` get through
  have hfilter : ∀ (signals : List (GestureInteractionMode × Bool)) (app' : TouchlessApp sys),
      signals.foldl modeToggled app' = (signals.filter (·.2)).foldl modeToggled app' := by
    intro signals
    induction signals with
    | nil => exact fun _ ↦ rfl
    | cons signal signals ih =>
      intro app'
      obtain ⟨mode', on⟩ := signal
      cases on with
      | true => exact ih _
      | false =>
        rw [List.foldl_cons, modeToggled_false]
        exact ih app'
  show (sys.groups.setChecked app.ui.modeGroup mode).2.foldl modeToggled (app.groupChecked mode) = _
  rw [hfilter, sys.groups.toggled_setChecked, checkedMode]
  split_ifs
  · rfl
  · exact modeToggled_true mode

/-- What it does to the two places of the mode. -/
theorem mode_checkMode (app : TouchlessApp sys) (mode : GestureInteractionMode) :
    (app.checkMode mode).desiredMode =
        (modeMirror.change app.desiredMode app.checkedMode (some mode)).1 ∧
      (app.checkMode mode).checkedMode =
        (modeMirror.change app.desiredMode app.checkedMode (some mode)).2 := by
  rw [checkMode_eq, Mirror.change]
  split_ifs with h
  · exact ⟨rfl, (checkedMode_groupChecked mode).trans h.symm⟩
  · exact ⟨rfl, checkedMode_groupChecked mode⟩

/-- What else it leaves in agreement, and what it leaves alone. -/
structure ModeChecked (app app' : TouchlessApp sys) : Prop where
  manager : app.interactionManager = modeMirror.encode app.checkedMode →
    app'.interactionManager = modeMirror.encode app'.checkedMode
  toolTip : app.ui.toolTip = TouchlessUI.toolTipOf app.checkedMode →
    app'.ui.toolTip = TouchlessUI.toolTipOf app'.checkedMode
  leapThread : app'.leapThread = app.leapThread
  posted : app'.posted = app.posted
  useMultipleMonitors : app'.useMultipleMonitors = app.useMultipleMonitors
  multiMonitorChecked : app'.ui.multiMonitorChecked = app.ui.multiMonitorChecked
  displays : app'.displays = app.displays
  virtualScreen : app'.virtualScreen = app.virtualScreen
  config : app'.config = app.config
  files : app'.files = app.files

theorem ModeChecked.refl (app : TouchlessApp sys) : ModeChecked app app :=
  ⟨id, id, rfl, rfl, rfl, rfl, rfl, rfl, rfl, rfl⟩

theorem modeChecked_checkMode (app : TouchlessApp sys) (mode : GestureInteractionMode) :
    ModeChecked app (app.checkMode mode) := by
  rw [checkMode_eq]
  split_ifs with h
  · have hsame : (app.groupChecked mode).checkedMode = app.checkedMode := by
      rw [checkedMode_groupChecked, h]
    refine ⟨?_, ?_, rfl, rfl, rfl, rfl, rfl, rfl, rfl, rfl⟩ <;> rw [hsame] <;> exact id
  · have hmode : (((app.groupChecked mode).withToolTip mode).setDesiredMode mode).checkedMode =
        some mode := checkedMode_groupChecked mode
    refine ⟨?_, ?_, rfl, rfl, rfl, rfl, rfl, rfl, rfl, rfl⟩ <;> rw [hmode] <;> exact fun _ ↦ rfl

/-- What the `switch` does to the two places of the mode. -/
theorem mode_showMode (app : TouchlessApp sys) (mode : Int32) :
    ((app.showMode mode).desiredMode =
          (modeMirror.deliver app.desiredMode app.checkedMode mode).1 ∧
        (app.showMode mode).checkedMode =
          (modeMirror.deliver app.desiredMode app.checkedMode mode).2) ∧
      ModeChecked app (app.showMode mode) := by
  rw [showMode]
  cases hmode : GestureInteractionMode.ofNumber mode with
  | some mode' =>
    have hdecode : modeMirror.decode mode = some (some mode') := by simp [modeMirror, hmode]
    rw [Mirror.deliver_some hdecode]
    exact ⟨mode_checkMode app mode', modeChecked_checkMode app mode'⟩
  | none =>
    have hdecode : modeMirror.decode mode = none := by simp [modeMirror, hmode]
    rw [Mirror.deliver_none hdecode]
    exact ⟨⟨rfl, rfl⟩, .refl app⟩

/-- What setting the action of the screens does to their two places. -/
theorem screens_checkScreens (app : TouchlessApp sys) (checked : Bool) :
    (app.checkScreens checked).useMultipleMonitors =
        (screensMirror.change app.useMultipleMonitors app.ui.multiMonitorChecked checked).1 ∧
      (app.checkScreens checked).ui.multiMonitorChecked =
        (screensMirror.change app.useMultipleMonitors app.ui.multiMonitorChecked checked).2 := by
  rw [checkScreens, Mirror.change]
  split_ifs <;> exact ⟨rfl, rfl⟩

/-- What it leaves alone. -/
structure ScreensChecked (app app' : TouchlessApp sys) : Prop where
  desiredMode : app'.desiredMode = app.desiredMode
  interactionManager : app'.interactionManager = app.interactionManager
  checkedMode : app'.checkedMode = app.checkedMode
  toolTip : app'.ui.toolTip = app.ui.toolTip
  leapThread : app'.leapThread = app.leapThread
  posted : app'.posted = app.posted
  displays : app'.displays = app.displays
  config : app'.config = app.config
  files : app'.files = app.files

theorem screensChecked_checkScreens (app : TouchlessApp sys) (checked : Bool) :
    ScreensChecked app (app.checkScreens checked) := by
  rw [checkScreens]
  split_ifs <;> exact ⟨rfl, rfl, rfl, rfl, rfl, rfl, rfl, rfl, rfl⟩

theorem pendingMode_congr (hthread : app'.leapThread = app.leapThread)
    (hposted : app'.posted = app.posted) : app'.pendingMode = app.pendingMode := by
  rw [pendingMode, pendingMode, hthread, hposted]

/-- **The user chooses a mode.** -/
theorem Agrees.checkMode (h : app.Agrees) (mode : GestureInteractionMode) :
    (app.checkMode mode).Agrees := by
  have hchecked := modeChecked_checkMode app mode
  have hmode := mode_checkMode app mode
  refine ⟨hchecked.manager h.manager, hchecked.toolTip h.toolTip, ?_, fun hthread ↦ ?_⟩
  · rw [pendingMode_congr hchecked.leapThread hchecked.posted, hmode.1,
      hmode.2]
    exact h.mode.change
  · rw [hchecked.leapThread] at hthread
    rw [hchecked.useMultipleMonitors, hchecked.multiMonitorChecked, hchecked.posted]
    exact h.screens hthread

/-- **The user chooses the screens.** -/
theorem Agrees.checkScreens (h : app.Agrees) (checked : Bool) :
    (app.checkScreens checked).Agrees := by
  have hchecked := screensChecked_checkScreens app checked
  have hscreens := screens_checkScreens app checked
  refine ⟨?_, ?_, ?_, fun hthread ↦ ?_⟩
  · rw [hchecked.interactionManager, hchecked.checkedMode]
    exact h.manager
  · rw [hchecked.toolTip, hchecked.checkedMode]
    exact h.toolTip
  · rw [pendingMode_congr hchecked.leapThread hchecked.posted, hchecked.desiredMode,
      hchecked.checkedMode]
    exact h.mode
  · rw [hchecked.leapThread] at hthread
    rw [hscreens.1, hscreens.2, hchecked.posted]
    exact (h.screens hthread).change

/-- The last signal is the one that is delivered, or it stays the last. -/
theorem last_posted {α : Type} (f : ConnectChanged → α) {posted : List ConnectChanged}
    {signal : ConnectChanged} {rest : List ConnectChanged} (h : posted = signal :: rest) :
    rest.getLast?.map f = posted.getLast?.map f ∨
      posted.getLast?.map f = some (f signal) ∧ rest.getLast?.map f = none := by
  subst h
  cases rest with
  | nil => exact .inr ⟨rfl, rfl⟩
  | cons signal' rest =>
    rw [List.getLast?_cons_cons]
    exact .inl rfl

/-- **A signal gets to its slot.** -/
theorem Agrees.connectChangedSlot (h : app.Agrees) {signal : ConnectChanged}
    {posted : List ConnectChanged} (hposted : app.posted = signal :: posted) :
    ({ app with posted := posted }.connectChangedSlot signal).Agrees := by
  set shown := ({ app with posted := posted } : TouchlessApp sys).enableMenu signal.connected
    with hshown
  obtain ⟨hmode, hmodeChecked⟩ := mode_showMode shown signal.mode
  have hscreensChecked :=
    screensChecked_checkScreens (shown.showMode signal.mode) signal.useMultiMonitors
  have hscreens := screens_checkScreens (shown.showMode signal.mode) signal.useMultiMonitors
  have hthread : ((shown.showMode signal.mode).checkScreens
      signal.useMultiMonitors).leapThread = app.leapThread :=
    hscreensChecked.leapThread.trans hmodeChecked.leapThread
  have hrest : ((shown.showMode signal.mode).checkScreens
      signal.useMultiMonitors).posted = posted :=
    hscreensChecked.posted.trans hmodeChecked.posted
  show Agrees ((shown.showMode signal.mode).checkScreens signal.useMultiMonitors)
  refine ⟨?_, ?_, ?_, fun hemitting ↦ ?_⟩
  · rw [hscreensChecked.interactionManager, hscreensChecked.checkedMode]
    exact hmodeChecked.manager h.manager
  · rw [hscreensChecked.toolTip, hscreensChecked.checkedMode]
    exact hmodeChecked.toolTip h.toolTip
  · rw [hscreensChecked.desiredMode, hscreensChecked.checkedMode, hmode.1,
      hmode.2]
    refine h.mode.deliver ?_
    rw [pendingMode, pendingMode, hthread, hrest]
    cases app.leapThread with
    | connecting mode | emitting mode => exact .inl rfl
    | _ => exact last_posted (·.mode) hposted
  · rw [hthread] at hemitting
    rw [hscreens.1, hscreens.2, hrest,
      hmodeChecked.useMultipleMonitors, hmodeChecked.multiMonitorChecked]
    have hlast := last_posted (·.useMultiMonitors) hposted
    exact (h.screens hemitting).deliver hlast

/-- A signal is emitted with what the listener has. -/
theorem getLast?_emit {α : Type} (f : ConnectChanged → α) (app : TouchlessApp sys)
    (connected : Bool) (mode : Int32) :
    (app.emit connected mode).posted.getLast?.map f =
      some (f ⟨connected, mode, app.useMultipleMonitors⟩) := by
  rw [emit, List.getLast?_concat, Option.map_some]

/-- `onDisconnect` and `onExit`. -/
theorem Agrees.emit (h : app.Agrees) (hidle : app.leapThread = .idle) :
    (app.emit false app.desiredMode).Agrees := by
  refine ⟨h.manager, h.toolTip, ?_, fun _ ↦ ?_⟩
  · have hlast : (app.emit false app.desiredMode).pendingMode = some app.desiredMode := by
      rw [pendingMode, show (app.emit false app.desiredMode).leapThread = .idle from hidle]
      exact getLast?_emit (·.mode) app false app.desiredMode
    rw [hlast]
    exact .announce
  · rw [getLast?_emit (·.useMultiMonitors)]
    exact .announce

/-- Where neither the listener nor the menu has changed, it is enough that nothing else is on its
way. -/
theorem Agrees.congr (h : app.Agrees) (hui : app'.ui = app.ui)
    (hmanager : app'.interactionManager = app.interactionManager)
    (hmode : app'.desiredMode = app.desiredMode) (hpending : app'.pendingMode = app.pendingMode)
    (hscreens : LeapThread.isEmitting app'.leapThread = false →
      LeapThread.isEmitting app.leapThread = false ∧
      app'.useMultipleMonitors = app.useMultipleMonitors ∧ app'.posted = app.posted) :
    app'.Agrees := by
  have hchecked : app'.checkedMode = app.checkedMode := by rw [checkedMode, checkedMode, hui]
  refine ⟨?_, ?_, ?_, fun hemitting ↦ ?_⟩
  · rw [hmanager, hchecked]
    exact h.manager
  · rw [hui, hchecked]
    exact h.toolTip
  · rw [hmode, hchecked, hpending]
    exact h.mode
  · obtain ⟨hemitting', huse, hposted⟩ := hscreens hemitting
    rw [huse, hui, hposted]
    exact h.screens hemitting'

/-- **The thread enters a callback.** -/
theorem Agrees.enter (h : app.Agrees) (hidle : app.leapThread = .idle) (callback : LeapCallback) :
    (app.enter callback).Agrees := by
  have hquiet : LeapThread.isEmitting app.leapThread = false := by rw [hidle]; rfl
  cases callback with
  | onConnect => exact ⟨h.manager, h.toolTip, .announce, fun _ ↦ h.screens hquiet⟩
  | onDisconnect | onExit => exact h.emit hidle
  | onFrame =>
    rw [TouchlessApp.enter]
    split_ifs
    · refine h.congr rfl rfl rfl ?_ fun _ ↦ ⟨hquiet, rfl, rfl⟩
      rw [pendingMode, pendingMode, hidle]
    · exact h
  | onFocusGained =>
    exact h.congr rfl rfl rfl (pendingMode_congr rfl rfl) fun _ ↦ ⟨hquiet, rfl, rfl⟩

/-- **The thread goes on.** -/
theorem Agrees.goOn (h : app.Agrees) (hrun : app.goOn = some app') : app'.Agrees := by
  rw [TouchlessApp.goOn] at hrun
  cases hthread : app.leapThread with
  | idle =>
    rw [hthread] at hrun
    cases hrun
  | connecting tempMode =>
    rw [hthread] at hrun
    obtain rfl := Option.some.inj hrun
    refine h.congr rfl rfl rfl ?_ nofun
    rw [pendingMode, pendingMode, hthread]
  | emitting tempMode =>
    rw [hthread] at hrun
    obtain rfl := Option.some.inj hrun
    have hpending : app.pendingMode = some tempMode := by rw [pendingMode, hthread]
    refine ⟨h.manager, h.toolTip, ?_, fun _ ↦ ?_⟩
    · have hlast : ({ app.emit true tempMode with leapThread := .idle } :
          TouchlessApp sys).pendingMode = some tempMode :=
        getLast?_emit (·.mode) app true tempMode
      rw [hlast, ← hpending]
      exact h.mode
    · rw [show ({ app.emit true tempMode with leapThread := .idle } : TouchlessApp sys).posted =
        (app.emit true tempMode).posted from rfl, getLast?_emit (·.useMultiMonitors)]
      exact .announce
  | savingScreens | savingMode | saving | saved =>
    rw [hthread] at hrun
    obtain rfl := Option.some.inj hrun
    refine h.congr rfl rfl rfl ?_ fun _ ↦ ⟨by rw [hthread]; rfl, rfl, rfl⟩
    rw [pendingMode, pendingMode, hthread]

/-- **Every step** keeps the menu with the mode object, and the mirror of the listener. -/
theorem Agrees.step (h : app.Agrees) {action : AppAction} (hrun : app.step action = some app') :
    app'.Agrees := by
  cases action with
  | callback callback =>
    simp only [TouchlessApp.step] at hrun
    split at hrun
    · next hidle =>
      obtain rfl := Option.some.inj hrun
      exact h.enter hidle callback
    · cases hrun
  | goOn => exact h.goOn hrun
  | deliver =>
    simp only [TouchlessApp.step] at hrun
    split at hrun
    · cases hrun
    · next signal posted hposted =>
      obtain rfl := Option.some.inj hrun
      exact h.connectChangedSlot hposted
  | chooseMode mode =>
    simp only [TouchlessApp.step, clickMode] at hrun
    split_ifs at hrun
    obtain rfl := Option.some.inj hrun
    exact h.checkMode mode
  | chooseScreens =>
    simp only [TouchlessApp.step, clickScreens] at hrun
    split_ifs at hrun
    obtain rfl := Option.some.inj hrun
    exact h.checkScreens _
  | changeDisplays detected =>
    obtain rfl := Option.some.inj hrun
    exact h.congr rfl rfl rfl (pendingMode_congr rfl rfl) fun hemitting ↦ ⟨hemitting, rfl, rfl⟩

theorem agrees_start (files : Files) (displays : LPVirtualScreen.DetectedScreens) :
    (start sys files displays).Agrees := by
  have hnone : (start sys files displays).checkedMode = none := sys.groups.checkedAction_new
  refine ⟨?_, ?_, ?_, fun _ ↦ .inl rfl⟩
  · rw [hnone]
    rfl
  · rw [hnone]
    rfl
  · rw [hnone]
    exact .inl rfl

/-- **Every interleaving** does. -/
theorem agrees_run (files : Files) (displays : LPVirtualScreen.DetectedScreens)
    {actions : List AppAction} (hrun : (start sys files displays).run actions = some app) :
    app.Agrees :=
  PartialRun.foldlM_invariant (P := fun _ app ↦ app.Agrees) (agrees_start files displays)
    (fun _ _ _ _ _ h hstep ↦ h.step hstep) hrun

/-- When nothing is on its way, the action of the screens shows what the listener uses, -/
theorem Agrees.screens_atRest (h : app.Agrees) (hrest : app.AtRest) :
    app.ui.multiMonitorChecked = app.useMultipleMonitors := by
  have hscreens := h.screens (by rw [hrest.1]; rfl)
  rw [hrest.2] at hscreens
  exact (hscreens.eq_encode rfl).symm

/-- and the mode actions show its mode, if it is one of theirs. -/
theorem Agrees.mode_atRest (h : app.Agrees) (hrest : app.AtRest) {mode : GestureInteractionMode}
    (hmode : GestureInteractionMode.ofNumber app.desiredMode = some mode) :
    app.interactionManager = app.desiredMode ∧ app.checkedMode.getD .disabled = mode := by
  have hpending : app.pendingMode = none := by
    rw [pendingMode, hrest.1, hrest.2]
    rfl
  have hmirrored := h.mode
  rw [hpending] at hmirrored
  have hsame : app.desiredMode = (app.checkedMode.getD .disabled).number :=
    hmirrored.eq_encode (b := some mode) (by simp [modeMirror, hmode])
  refine ⟨h.manager.trans hsame.symm, ?_⟩
  rw [hsame, GestureInteractionMode.ofNumber_number] at hmode
  exact Option.some.inj hmode

/-- What a connection does, if nothing else happens until the menu has been told. -/
theorem run_connection (hrest : app.AtRest) : app.run connection =
    some ({ app with
      desiredMode := app.tempMode
      useMultipleMonitors := app.readScreens }.connectChangedSlot
        ⟨true, app.tempMode, app.readScreens⟩) := by
  obtain ⟨hidle, hposted⟩ := hrest
  simp [run, connection, step, hidle, enter, goOn, emit, hposted, readScreens]

/-- **The menu and the listener.** In every interleaving the checked action is that of the mode
object, and the text that of the checked action. Whenever nothing is on its way, and the mode of the
listener is one of the four, the mode object is of this mode too, and the action of the screens
shows what the listener uses. -/
theorem menu_agrees (files : Files) (displays : LPVirtualScreen.DetectedScreens)
    (actions : List AppAction) (app : TouchlessApp sys)
    (hrun : (start sys files displays).run actions = some app) :
    app.interactionManager = (app.checkedMode.getD .disabled).number ∧
      app.ui.toolTip = TouchlessUI.toolTipOf app.checkedMode ∧
      (app.AtRest → app.ui.multiMonitorChecked = app.useMultipleMonitors ∧
        ∀ mode, GestureInteractionMode.ofNumber app.desiredMode = some mode →
          app.interactionManager = app.desiredMode ∧ app.checkedMode.getD .disabled = mode) := by
  have hagrees := agrees_run files displays hrun
  exact ⟨hagrees.manager, hagrees.toolTip, fun hrest ↦
    ⟨hagrees.screens_atRest hrest, fun mode hmode ↦ hagrees.mode_atRest hrest hmode⟩⟩

/-- A group that tells first which action is not checked any more. -/
def simpleGroups : ActionGroups where
  Group := Option GestureInteractionMode
  new := none
  checkedAction := id
  setChecked checked action := (some action,
    if checked = some action then [] else checked.toList.map (·, false) ++ [(action, true)])
  checkedAction_new := rfl
  checkedAction_setChecked _ _ := rfl
  toggled_setChecked checked action := by
    cases checked with
    | none => rfl
    | some mode =>
      dsimp only [id]
      split_ifs <;> rfl

/-- A Mac. -/
def simpleMac : AppSystem where
  platform := .mac
  touchManager := .win8
  groups := simpleGroups
  floats := Value.sampleFloatText
  numbers := ⟨fun _ ↦ 0, fun _ ↦ 0, fun _ ↦ 0, fun _ ↦ true, fun _ ↦ true⟩
  options := ⟨false, false⟩
  configPath := ascii "touchless-config.json"

/-- Two screens side by side. -/
def twoScreens : LPVirtualScreen.DetectedScreens :=
  ⟨[⟨⟨⟨0, 0⟩, ⟨100, 100⟩⟩, true⟩, ⟨⟨⟨100, 0⟩, ⟨100, 100⟩⟩, false⟩], by decide, by decide +kernel⟩

/-- The user chooses the basic mode and all screens, after a connection. -/
def firstChoices : List AppAction := connection ++ [.chooseMode .basic, .chooseScreens]

/-- Without a file, both settings have their defaults. -/
theorem read_simpleMac :
    (start simpleMac (fun _ ↦ none) twoScreens).tempMode = 0 ∧
      (start simpleMac (fun _ ↦ none) twoScreens).readScreens = false := by
  have hfile : ∀ {name}, valueInFile simpleMac.floats (startFiles simpleMac fun _ ↦ none)
      simpleMac.configPath sectionName name = none := by
    have hget : (savedObject simpleMac.floats (startFiles simpleMac fun _ ↦ none)
        simpleMac.configPath).hashGet sectionName = .hash [] := by
      have hread : Value.readFrom simpleMac.floats ((Value.hash [(sectionName, .hash [])]).toJSON
          simpleMac.floats true false) = .hash [(sectionName, .hash [])] :=
        Value.fromJSON_toJSON (by decide +kernel) true false
      rw [startFiles, if_neg (by simp), savedObject, Function.update_self]
      simp only [hread]
      rfl
    intro name
    rw [valueInFile, hget]
    rfl
  have hread : ∀ {name},
      getAttribute (start simpleMac (fun _ ↦ none) twoScreens).config name =
        ((defaultAttributes simpleMac.options).reverse.find? fun d ↦ d.1 = name).map (·.2.1) := by
    intro name
    rw [config_start, getAttribute_restart_of_none .construct hfile, defaultOf, getAttribute,
      find?_initializeDefaults, Option.map_map]
    rfl
  rw [tempMode, readScreens, hread, hread]
  decide +kernel

/-- What `firstChoices` lead to. -/
structure Chosen (app : TouchlessApp simpleMac) : Prop where
  atRest : app.AtRest
  updateSettings : app.updateSettings = true
  desiredMode : app.desiredMode = 2
  useMultipleMonitors : app.useMultipleMonitors = true
  enabled : app.ui.modeGroupEnabled = true
  checkedMode : app.checkedMode = some .basic
  multiMonitorChecked : app.ui.multiMonitorChecked = true
  displays : app.displays = twoScreens

theorem run_firstChoices : ∃ app : TouchlessApp simpleMac,
    (start simpleMac (fun _ ↦ none) twoScreens).run firstChoices = some app ∧ Chosen app := by
  have hconnect := run_connection (show (start simpleMac (fun _ ↦ none) twoScreens).AtRest from
    ⟨rfl, rfl⟩)
  obtain ⟨hmode, hscreens⟩ := read_simpleMac
  rw [hmode, hscreens] at hconnect
  refine ⟨_, PartialRun.foldlM_append_eq_some.2 ⟨_, hconnect, rfl⟩, ?_⟩
  exact ⟨⟨rfl, rfl⟩, rfl, rfl, rfl, rfl, rfl, rfl, rfl⟩

theorem menu_agrees_firstChoices : ∃ app : TouchlessApp simpleMac,
    (start simpleMac (fun _ ↦ none) twoScreens).run firstChoices = some app ∧ app.AtRest ∧
      app.desiredMode = 2 ∧ app.interactionManager = 2 ∧
      app.ui.multiMonitorChecked = app.useMultipleMonitors := by
  obtain ⟨app, hrun, happ⟩ := run_firstChoices
  obtain ⟨-, -, hagrees⟩ := menu_agrees (fun _ ↦ none) twoScreens firstChoices app hrun
  obtain ⟨hscreens, hmodes⟩ := hagrees happ.atRest
  obtain ⟨hmanager, -⟩ := hmodes .basic (by rw [happ.desiredMode]; rfl)
  exact ⟨app, hrun, happ.atRest, happ.desiredMode, hmanager.trans happ.desiredMode, hscreens⟩

end TouchlessApp

end Touchless
