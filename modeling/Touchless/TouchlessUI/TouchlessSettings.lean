import Touchless.Configuration.ConfigRuns
import Touchless.TouchlessUI.TouchlessApp

/-!
# The choice of the screens

Which screens are active is decided in `updateDefaultScreen`, from what the listener has and from
`numTouchScreens`; what the listener has comes from the menu or from the configuration. The
invariant is `ScreensKept`: what the listener has is what the menu shows or what would be read, and
the virtual screen goes with one of them, though not always with the same.

* On the Mac `numTouchScreens` is 0, and the choice is obeyed.
* Under Windows it is the number of the active screens, or always 1 with one of the touch managers.
  It is 1 as long as only the default screen is active, and then the default screen stays the only
  one: the choice is never obeyed.
-/

namespace Touchless

namespace LPVirtualScreen

/-- The default screen is one screen. -/
theorem length_selectActive {screens : List LPScreen} (hne : screens ≠ []) :
    (selectActive true screens).length = 1 := by
  have hpositive : 0 < screens.length := List.length_pos_of_ne_nil hne
  rw [selectActive]
  split_ifs with hmany
  · cases screens.find? LPScreen.isPrimary with
    | some screen => rfl
    | none =>
      obtain ⟨screen, rest, rfl⟩ := List.exists_cons_of_ne_nil hne
      rfl
  · have hfew : ¬1 < screens.length := fun h ↦ hmany ⟨rfl, h⟩
    omega

theorem selectActive_false (screens : List LPScreen) : selectActive false screens = screens := by
  rw [selectActive, if_neg (by simp)]

variable {v : LPVirtualScreen} {screens : List LPScreen}

/-- `UseDefaultScreen` leaves the virtual screen with what it is given, and with the screens that go
with it. -/
theorem setUseDefaultScreen_spec (useDefaultScreen : Bool)
    (h : v.activeScreens = selectActive v.useDefaultScreen screens) :
    (v.setUseDefaultScreen useDefaultScreen screens).useDefaultScreen = useDefaultScreen ∧
      (v.setUseDefaultScreen useDefaultScreen screens).activeScreens =
        selectActive useDefaultScreen screens := by
  rw [setUseDefaultScreen]
  split_ifs with hchange
  · exact ⟨rfl, rfl⟩
  · rw [← not_not.1 hchange]
    exact ⟨rfl, h⟩

end LPVirtualScreen

namespace TouchlessApp

open Config LPVirtualScreen

variable {sys : AppSystem} {app app' : TouchlessApp sys}

/-! ### The screens -/

/-- Whether only the default screen is active, for what is chosen. -/
def defaultScreenFor (platform : Platform) (useMultipleMonitors : Bool) : Bool :=
  match platform with
  | .windows _ _ => true
  | _ => !useMultipleMonitors

/-- The virtual screen obeys the menu, or what the listener has got from the configuration. -/
structure ScreensKept (app : TouchlessApp sys) : Prop where
  active : app.virtualScreen.activeScreens =
    selectActive app.virtualScreen.useDefaultScreen app.displays.screens
  writable : Writable app.config screensName
  source : app.useMultipleMonitors = app.ui.multiMonitorChecked ∨
    app.useMultipleMonitors = app.readScreens
  rule : app.virtualScreen.useDefaultScreen =
      defaultScreenFor sys.platform app.ui.multiMonitorChecked ∨
    app.virtualScreen.useDefaultScreen = defaultScreenFor sys.platform app.useMultipleMonitors

/-- **What `updateDefaultScreen` does.** Under Windows the number of the touch screens is 1 when it
is asked for, because only the default screen is active, or because the touch manager can use no
other. -/
theorem updateDefaultScreen_spec
    (hactive : app.virtualScreen.activeScreens =
      selectActive app.virtualScreen.useDefaultScreen app.displays.screens)
    (hwindows : ∀ chars lines, sys.platform = .windows chars lines →
      app.useMultipleMonitors = true → app.virtualScreen.useDefaultScreen = true) :
    app.updateDefaultScreen.virtualScreen.useDefaultScreen =
        defaultScreenFor sys.platform app.useMultipleMonitors ∧
      app.updateDefaultScreen.virtualScreen.activeScreens =
        selectActive (defaultScreenFor sys.platform app.useMultipleMonitors)
          app.displays.screens := by
  have hrule : (if app.useMultipleMonitors then app.numTouchScreens == 1 else true) =
      defaultScreenFor sys.platform app.useMultipleMonitors := by
    rw [numTouchScreens]
    cases huse : app.useMultipleMonitors <;> cases hplatform : sys.platform
    case true.windows chars lines =>
      dsimp only
      cases sys.touchManager with
      | win7Undocumented => rfl
      | _ =>
        rw [TouchManagerClass.numTouchScreens, hactive, hwindows chars lines hplatform huse,
          length_selectActive app.displays.ne_nil]
        rfl
    all_goals rfl
  have hspec := setUseDefaultScreen_spec (v := app.virtualScreen)
    (if app.useMultipleMonitors then app.numTouchScreens == 1 else true) hactive
  rw [hrule] at hspec
  rw [updateDefaultScreen]
  dsimp only
  rw [hrule]
  exact hspec

/-- Under Windows the rule does not depend on the choice. -/
theorem ScreensKept.windows (h : app.ScreensKept) {chars lines : Option ℕ}
    (hplatform : sys.platform = .windows chars lines) :
    app.virtualScreen.useDefaultScreen = true := by
  have hrule := h.rule
  rw [hplatform] at hrule
  exact hrule.elim id id

/-- What is read does not depend on the listener, where the attribute is there. -/
theorem readScreens_congr (hconfig : app'.config = app.config)
    (hwritable : Writable app.config screensName) : app'.readScreens = app.readScreens := by
  obtain ⟨found, hfound, -⟩ := hwritable.found
  rw [readScreens, readScreens, hconfig, getAttribute, hfound]
  rfl

theorem screensName_ne_modeName : screensName ≠ modeName := by decide +kernel

/-- Where the screens and their places are the same, so is what is kept. -/
theorem ScreensKept.congr (h : app.ScreensKept) (hdisplays : app'.displays = app.displays)
    (hscreen : app'.virtualScreen = app.virtualScreen) (hconfig : app'.config = app.config)
    (huse : app'.useMultipleMonitors = app.useMultipleMonitors)
    (hchecked : app'.ui.multiMonitorChecked = app.ui.multiMonitorChecked) : app'.ScreensKept where
  active := by
    rw [hscreen, hdisplays]
    exact h.active
  writable := by
    rw [hconfig]
    exact h.writable
  source := by
    rw [huse, hchecked, readScreens_congr hconfig h.writable]
    exact h.source
  rule := by
    rw [hscreen, huse, hchecked]
    exact h.rule

/-- **The screens are chosen anew**, for what the listener has. -/
theorem ScreensKept.updateDefaultScreen
    (hactive : app.virtualScreen.activeScreens =
      selectActive app.virtualScreen.useDefaultScreen app.displays.screens)
    (hwindows : ∀ chars lines, sys.platform = .windows chars lines →
      app.useMultipleMonitors = true → app.virtualScreen.useDefaultScreen = true)
    (hwritable : Writable app.config screensName)
    (hsource : app.useMultipleMonitors = app.ui.multiMonitorChecked ∨
      app.useMultipleMonitors = app.readScreens) : app.updateDefaultScreen.ScreensKept := by
  obtain ⟨huse, hscreens⟩ := updateDefaultScreen_spec hactive hwindows
  exact ⟨hscreens.trans (by rw [huse]; rfl), hwritable, hsource, .inr huse⟩

/-- **The action of the screens is set.** -/
theorem ScreensKept.checkScreens (h : app.ScreensKept) (checked : Bool) :
    (app.checkScreens checked).ScreensKept := by
  rw [TouchlessApp.checkScreens]
  split_ifs
  · exact h
  · exact .updateDefaultScreen h.active (fun _ _ hplatform _ ↦ h.windows hplatform) h.writable
      (.inl rfl)

/-- **A signal gets to its slot.** -/
theorem ScreensKept.connectChangedSlot (h : app.ScreensKept) (signal : ConnectChanged) :
    (app.connectChangedSlot signal).ScreensKept := by
  have hmode := (mode_showMode (app.enableMenu signal.connected) signal.mode).2
  exact ScreensKept.checkScreens
    (h.congr hmode.displays hmode.virtualScreen hmode.config hmode.useMultipleMonitors
      hmode.multiMonitorChecked) signal.useMultiMonitors

/-- **The thread of the callbacks goes on.** -/
theorem ScreensKept.goOn (hfloats : Value.ClassicLocale sys.floats) (h : app.ScreensKept)
    (hrun : app.goOn = some app') : app'.ScreensKept := by
  rw [TouchlessApp.goOn] at hrun
  cases hthread : app.leapThread with
  | idle =>
    rw [hthread] at hrun
    cases hrun
  | connecting tempMode =>
    rw [hthread] at hrun
    obtain rfl := Option.some.inj hrun
    -- what the listener had is in the configuration, or is what the menu shows
    have hread : ({ app with
        useMultipleMonitors := app.readScreens
        leapThread := .emitting tempMode } : TouchlessApp sys).readScreens = app.readScreens :=
      readScreens_congr rfl h.writable
    refine ⟨h.active, h.writable, .inr hread.symm, ?_⟩
    rcases h.source with hsource | hsource
    · left
      rcases h.rule with hrule | hrule
      · exact hrule
      · exact hrule.trans (by rw [hsource])
    · rcases h.rule with hrule | hrule
      · exact .inl hrule
      · exact .inr (hrule.trans (by rw [hsource]))
  | savingScreens =>
    rw [hthread] at hrun
    obtain rfl := Option.some.inj hrun
    refine ⟨h.active, (writable_setAttribute _ _ _ _ _).2 h.writable, .inr ?_, h.rule⟩
    rw [readScreens]
    dsimp only
    rw [getAttribute_setAttribute_bool hfloats h.writable]
    rfl
  | savingMode =>
    rw [hthread] at hrun
    obtain rfl := Option.some.inj hrun
    refine ⟨h.active, (writable_setAttribute _ _ _ _ _).2 h.writable, ?_, h.rule⟩
    have hread : app.readScreens = ((getAttribute (setAttribute sys.floats app.config modeName
        (.int app.desiredMode) true).2 screensName).map (Value.toBool sys.numbers)).getD
        app.useMultipleMonitors := by
      rw [readScreens, getAttribute_setAttribute_of_ne screensName_ne_modeName]
    rcases h.source with hsource | hsource
    · exact .inl hsource
    · exact .inr (hsource.trans hread)
  | emitting tempMode | saving | saved =>
    rw [hthread] at hrun
    obtain rfl := Option.some.inj hrun
    exact h.congr rfl rfl rfl rfl rfl

/-- **Every step** leaves the screens with the menu, or with the configuration. -/
theorem ScreensKept.step (hfloats : Value.ClassicLocale sys.floats) (h : app.ScreensKept)
    {action : AppAction} (hrun : app.step action = some app') : app'.ScreensKept := by
  cases action with
  | callback callback =>
    simp only [TouchlessApp.step] at hrun
    split at hrun
    · obtain rfl := Option.some.inj hrun
      cases callback with
      | onConnect | onDisconnect | onExit => exact h.congr rfl rfl rfl rfl rfl
      | onFrame =>
        rw [TouchlessApp.enter]
        split_ifs
        · exact h.congr rfl rfl rfl rfl rfl
        · exact h
      | onFocusGained =>
        exact .updateDefaultScreen h.active (fun _ _ hplatform _ ↦ h.windows hplatform) h.writable
          h.source
    · cases hrun
  | goOn => exact h.goOn hfloats hrun
  | deliver =>
    simp only [TouchlessApp.step] at hrun
    split at hrun
    · cases hrun
    · next signal posted hposted =>
      obtain rfl := Option.some.inj hrun
      have hpopped : ({ app with posted := posted } : TouchlessApp sys).ScreensKept :=
        h.congr rfl rfl rfl rfl rfl
      exact hpopped.connectChangedSlot signal
  | chooseMode mode =>
    simp only [TouchlessApp.step, clickMode] at hrun
    split_ifs at hrun
    obtain rfl := Option.some.inj hrun
    have hmode := modeChecked_checkMode app mode
    exact h.congr hmode.displays hmode.virtualScreen hmode.config hmode.useMultipleMonitors
      hmode.multiMonitorChecked
  | chooseScreens =>
    simp only [TouchlessApp.step, clickScreens] at hrun
    split_ifs at hrun
    obtain rfl := Option.some.inj hrun
    exact h.checkScreens _
  | changeDisplays detected =>
    obtain rfl := Option.some.inj hrun
    exact ⟨rfl, h.writable, h.source, h.rule⟩

/-- Both settings are attributes that may be changed. -/
theorem writable_initializeDefaults (options : BuildOptions) (config : ConfigState) {name : Bytes}
    (hname : name = modeName ∨ name = screensName) :
    Writable (initializeDefaults options config) name := by
  have hdefaults : ∀ internalBuild languageMenu : Bool,
      (((defaultAttributes ⟨internalBuild, languageMenu⟩).reverse.find? fun d ↦ d.1 = modeName).map
          fun d ↦ d.2.2) = some .writeAlways ∧
        (((defaultAttributes ⟨internalBuild, languageMenu⟩).reverse.find? fun d ↦
          d.1 = screensName).map fun d ↦ d.2.2) = some .writeAlways := by
    decide +kernel
  obtain ⟨internalBuild, languageMenu⟩ := options
  obtain ⟨hmode, hscreens⟩ := hdefaults internalBuild languageMenu
  rw [Writable, find?_initializeDefaults, Option.map_map]
  rcases hname with rfl | rfl
  · exact hmode
  · exact hscreens

theorem writable_restart (sys : AppSystem) (files : Files) {name : Bytes}
    (hname : name = modeName ∨ name = screensName) :
    Writable (restart sys.floats sys.options files .construct sys.configPath sectionName) name := by
  obtain ⟨entries, hload, -⟩ := loadFromFile_eq sys.floats files
    (initializeDefaults sys.options .construct) sys.configPath sectionName
  rw [restart, hload]
  refine (writable_setAttributes entries).2 ?_
  rw [Writable, attributeMap_setOutputFile]
  exact writable_initializeDefaults sys.options .construct hname

theorem screensKept_start (files : Files) (displays : DetectedScreens) :
    (start sys files displays).ScreensKept :=
  .updateDefaultScreen (selectActive_false _).symm (fun _ _ _ huse ↦ nomatch huse)
    (writable_restart sys _ (.inr rfl)) (.inl rfl)

/-- **The screens and the menu.** Under Windows, whatever is chosen, only the default screen is ever
active. On the other platforms, whenever nothing is on its way, all screens are active if the action
of the screens is checked, and the default screen if it is not. -/
theorem screens_follow (hfloats : Value.ClassicLocale sys.floats) (files : Files)
    (displays : DetectedScreens) (actions : List AppAction) (app : TouchlessApp sys)
    (hrun : (start sys files displays).run actions = some app) :
    (∀ chars lines, sys.platform = .windows chars lines →
      app.virtualScreen.activeScreens = selectActive true app.displays.screens ∧
        app.virtualScreen.activeScreens.length = 1) ∧
    ((∀ chars lines, sys.platform ≠ .windows chars lines) → app.AtRest →
      app.virtualScreen.activeScreens =
        if app.ui.multiMonitorChecked then app.displays.screens
        else selectActive true app.displays.screens) := by
  have hkept : app.ScreensKept := PartialRun.foldlM_invariant (P := fun _ app ↦ app.ScreensKept)
    (screensKept_start files displays) (fun _ _ _ _ _ h hstep ↦ h.step hfloats hstep) hrun
  refine ⟨fun chars lines hplatform ↦ ?_, fun hother hrest ↦ ?_⟩
  · have hactive := hkept.active
    rw [hkept.windows hplatform] at hactive
    exact ⟨hactive, by rw [hactive, length_selectActive app.displays.ne_nil]⟩
  · have huse := (agrees_run files displays hrun).screens_atRest hrest
    have hrule : app.virtualScreen.useDefaultScreen = !app.ui.multiMonitorChecked := by
      have hrules := hkept.rule
      rw [← huse, or_self] at hrules
      rw [hrules]
      cases hplatform : sys.platform with
      | windows chars lines => exact absurd hplatform (hother chars lines)
      | mac | linux => rfl
    rw [hkept.active, hrule]
    cases app.ui.multiMonitorChecked with
    | true => exact selectActive_false _
    | false => rfl

theorem screens_follow_firstChoices : ∃ app : TouchlessApp simpleMac,
    (start simpleMac (fun _ ↦ none) twoScreens).run firstChoices = some app ∧
      app.virtualScreen.activeScreens = twoScreens.screens := by
  obtain ⟨app, hrun, happ⟩ := run_firstChoices
  have hactive := (screens_follow Value.classicLocale_sampleFloatText (fun _ ↦ none) twoScreens
    firstChoices app hrun).2 nofun happ.atRest
  rw [happ.multiMonitorChecked, happ.displays] at hactive
  exact ⟨app, hrun, hactive⟩

end TouchlessApp

end Touchless
