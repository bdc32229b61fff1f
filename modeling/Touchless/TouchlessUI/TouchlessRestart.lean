import Touchless.TouchlessUI.TouchlessSettings

/-!
# The settings after a restart

The listener has its settings saved by the next `onFrame` after it has got them: the two attributes
are set, the configuration is saved, and then `m_updateSettings` is reset. The next start of the
program reads them in `onConnect` and tells the menu.

* `settings_survive`: whatever has happened before, settings that are saved without anything between
  the accesses are the settings of the next start, for the listener and for the menu. It is enough
  that the file had no floating-point number and no NUL at the beginning.
* `choice_lost`: a mode that is chosen between `SetAttribute` and the reset is not saved then, and
  the reset takes back the request to save it. The program has it until the end, and the next start
  does not.

What is in the file is a matter of `Config.Kept`. An integer is read back as it was set because
without floating-point numbers no other value has its text (`toInt_of_textOf`).
-/

namespace Touchless

namespace Value

variable {floats : FloatText} {w : Value}

/-- A number that fits is converted without change. -/
theorem toInt32_of_toNat {k : UInt32} {n : Int32} (h : (k.toNat : ℤ) = n.toInt) :
    k.toInt32 = n := by
  have hhigh := n.toInt_lt
  apply Int32.toInt_inj.1
  rw [← h]
  show k.toBitVec.toInt = k.toBitVec.toNat
  refine BitVec.toInt_eq_toNat_of_lt ?_
  have hnat : k.toBitVec.toNat = k.toNat := rfl
  omega

/-- **The text of an integer** is only that of the integer, if there is no floating-point number. -/
theorem toInt_of_textOf (numbers : NumberConversions) (hfloat : w.FloatFree) {n : Int32}
    (h : Config.textOf floats w = Config.textOf floats (int n)) : w.toInt numbers = n := by
  have h : writeBody floats true true w 1 = decimalInt n.toInt := h
  obtain ⟨c, tail, hhead, hc⟩ := decimalInt_head n.toInt
  rw [hhead] at h
  -- the first character tells numbers from the others
  have hother : ∀ {c' : UInt8} {tail' : Bytes}, c' :: tail' = c :: tail →
      c' ≠ 0x2D ∧ isDigit c' = false → False := by
    rintro c' tail' htext ⟨hminus, hdigit⟩
    obtain rfl := (List.cons.inj htext).1
    rcases hc with rfl | hc
    · exact hminus rfl
    · rw [hc] at hdigit
      cases hdigit
  have hinteger : ∀ {k : ℤ}, decimalInt k = c :: tail → k = n.toInt := fun hk ↦
    decimalInt_injective (hk.trans hhead.symm)
  have hhigh := n.toInt_lt
  cases w with
  | int k => exact Int32.toInt_inj.1 (hinteger h)
  | longlong k =>
    have hk := hinteger h
    rw [toInt, ← Int32.toInt_inj, Int64.toInt_toInt32, hk, ← Int32.toInt_bmod]
    simp
  | uint k =>
    rw [writeBody, decimal_eq_decimalInt] at h
    exact toInt32_of_toNat (hinteger h)
  | ulonglong k =>
    rw [writeBody, decimal_eq_decimalInt] at h
    refine toInt32_of_toNat (Eq.trans ?_ (hinteger h))
    have hk := hinteger h
    rw [UInt64.toNat_toUInt32]
    omega
  | bool b => cases b <;> exact (hother h ⟨by decide, by decide⟩).elim
  | null => exact (hother h ⟨by decide, by decide⟩).elim
  | string s => exact (hother h ⟨by decide, by decide⟩).elim
  | array elements => exact (hother h ⟨by decide, by decide⟩).elim
  | hash entries => exact (hother h ⟨by decide, by decide⟩).elim
  | foreign typeName => cases h
  | double bits => exact absurd hfloat (not_floatFree_double bits)
  | longDouble bits => exact absurd hfloat (not_floatFree_longDouble bits)

end Value

namespace TouchlessApp

open Config Value

variable {sys : AppSystem} {app app' : TouchlessApp sys}

/-! ### The configuration of the program -/

/-- What holds of the configuration and of the files in every interleaving. -/
structure ConfigKept (app : TouchlessApp sys) : Prop where
  kept : Kept sys.floats sys.options app.files sys.configPath sectionName app.config
  mode : Writable app.config modeName
  screens : Writable app.config screensName
  isSome : (app.files sys.configPath).isSome = true

theorem nulFree_sectionName : 0 ∉ sectionName := by decide +kernel

theorem ConfigKept.congr (h : app.ConfigKept) (hconfig : app'.config = app.config)
    (hfiles : app'.files = app.files) : app'.ConfigKept := by
  obtain ⟨hkept, hmode, hscreens, hsome⟩ := h
  rw [← hconfig] at hkept hmode hscreens
  rw [← hfiles] at hkept hsome
  exact ⟨hkept, hmode, hscreens, hsome⟩

/-- A setting is set. -/
theorem ConfigKept.setAttribute (h : app.ConfigKept) (name : Bytes) {value : Value}
    (hplain : Plain value) (hconfig : app'.config =
      (Config.setAttribute sys.floats app.config name value true).2)
    (hfiles : app'.files = app.files) : app'.ConfigKept := by
  refine ⟨?_, ?_, ?_, hfiles ▸ h.isSome⟩
  · rw [hconfig, hfiles]
    exact h.kept.setAttribute name hplain
  · rw [hconfig, writable_setAttribute]
    exact h.mode
  · rw [hconfig, writable_setAttribute]
    exact h.screens

/-- `Save` does not remove the file. -/
theorem isSome_save {floats : FloatText} {files : Files} {s : ConfigState}
    {fileName name : Bytes} (houtput : fileOf s name = some fileName)
    (hsome : (files fileName).isSome = true) :
    ((save floats files s name false).2 fileName).isSome = true := by
  rw [save, houtput]
  split_ifs
  · dsimp only
    rw [Function.update_self]
    rfl
  · exact hsome

/-- **The thread of the callbacks goes on.** -/
theorem ConfigKept.goOn (h : app.ConfigKept) (hrun : app.goOn = some app') : app'.ConfigKept := by
  rw [TouchlessApp.goOn] at hrun
  cases hthread : app.leapThread with
  | idle =>
    rw [hthread] at hrun
    cases hrun
  | savingScreens =>
    rw [hthread] at hrun
    obtain rfl := Option.some.inj hrun
    have hplain : Plain (.bool app.useMultipleMonitors) := ⟨rfl, rfl, rfl⟩
    exact h.setAttribute screensName hplain rfl rfl
  | savingMode =>
    rw [hthread] at hrun
    obtain rfl := Option.some.inj hrun
    have hplain : Plain (.int app.desiredMode) := ⟨rfl, rfl, rfl⟩
    exact h.setAttribute modeName hplain rfl rfl
  | saving =>
    rw [hthread] at hrun
    obtain rfl := Option.some.inj hrun
    exact ⟨h.kept.save nulFree_sectionName, h.mode, h.screens,
      isSome_save h.kept.output h.isSome⟩
  | connecting tempMode | emitting tempMode | saved =>
    rw [hthread] at hrun
    obtain rfl := Option.some.inj hrun
    exact h.congr rfl rfl

/-- **Every step** keeps the configuration with its file. -/
theorem ConfigKept.step (h : app.ConfigKept) {action : AppAction}
    (hrun : app.step action = some app') : app'.ConfigKept := by
  cases action with
  | callback callback =>
    simp only [TouchlessApp.step] at hrun
    split at hrun
    · obtain rfl := Option.some.inj hrun
      cases callback with
      | onFrame =>
        rw [TouchlessApp.enter]
        split_ifs
        · exact h.congr rfl rfl
        · exact h
      | _ => exact h.congr rfl rfl
    · cases hrun
  | goOn => exact h.goOn hrun
  | deliver =>
    simp only [TouchlessApp.step] at hrun
    split at hrun
    · cases hrun
    · next signal posted hposted =>
      obtain rfl := Option.some.inj hrun
      have hmode := (mode_showMode (({ app with posted := posted } : TouchlessApp sys).enableMenu
        signal.connected) signal.mode).2
      have hscreens := screensChecked_checkScreens ((({ app with posted := posted } :
        TouchlessApp sys).enableMenu signal.connected).showMode signal.mode)
        signal.useMultiMonitors
      exact h.congr (hscreens.config.trans hmode.config) (hscreens.files.trans hmode.files)
  | chooseMode mode =>
    simp only [TouchlessApp.step, clickMode] at hrun
    split_ifs at hrun
    obtain rfl := Option.some.inj hrun
    have hmode := modeChecked_checkMode app mode
    exact h.congr hmode.config hmode.files
  | chooseScreens =>
    simp only [TouchlessApp.step, clickScreens] at hrun
    split_ifs at hrun
    obtain rfl := Option.some.inj hrun
    have hscreens := screensChecked_checkScreens app (!app.ui.multiMonitorChecked)
    exact h.congr hscreens.config hscreens.files
  | changeDisplays detected =>
    obtain rfl := Option.some.inj hrun
    exact h.congr rfl rfl

/-- A file that is read without floating-point numbers and without NUL is plain. -/
theorem plain_savedObject {floats : FloatText} {files : Files} {fileName : Bytes}
    (hfloat : (savedObject floats files fileName).FloatFree)
    (hnul : (savedObject floats files fileName).NulFree) :
    Plain (savedObject floats files fileName) := by
  obtain ⟨old, hobject, hordered, hforeign⟩ := savedObject_readerType floats files fileName
  rw [hobject] at hfloat hnul ⊢
  exact ⟨(exact_iff _).2 ⟨hfloat, hforeign⟩, hnul, hordered⟩

/-- The file that is made is plain. -/
theorem plain_startFiles {files : Files}
    (hplain : Plain (savedObject sys.floats files sys.configPath)) :
    Plain (savedObject sys.floats (startFiles sys files) sys.configPath) := by
  rw [startFiles]
  split_ifs
  · exact hplain
  · have hempty : Plain (readFrom sys.floats
        ((hash [(sectionName, hash [])]).toJSON sys.floats true false)) :=
      plain_readFrom_toJSON (by decide +kernel) true false
    rw [savedObject, Function.update_self]
    dsimp only
    split_ifs
    · exact hempty
    · exact ⟨rfl, rfl, rfl⟩

theorem isSome_startFiles (sys : AppSystem) (files : Files) :
    (startFiles sys files sys.configPath).isSome = true := by
  rw [startFiles]
  split_ifs with hsome
  · exact hsome
  · rw [Function.update_self]
    rfl

theorem configKept_start {files : Files}
    (hplain : Plain (savedObject sys.floats files sys.configPath))
    (displays : LPVirtualScreen.DetectedScreens) : (start sys files displays).ConfigKept :=
  ⟨kept_restart (plain_startFiles hplain) .construct, writable_restart sys _ (.inl rfl),
    writable_restart sys _ (.inr rfl), isSome_startFiles sys files⟩

/-- **Every interleaving** does. -/
theorem configKept_run {files : Files}
    (hplain : Plain (savedObject sys.floats files sys.configPath))
    (displays : LPVirtualScreen.DetectedScreens) {actions : List AppAction}
    (hrun : (start sys files displays).run actions = some app) : app.ConfigKept :=
  PartialRun.foldlM_invariant (P := fun _ app ↦ app.ConfigKept) (configKept_start hplain displays)
    (fun _ _ _ _ _ h hstep ↦ h.step hstep) hrun

/-! ### Saving and reading -/

/-- The configuration with both settings. -/
def withSettings (app : TouchlessApp sys) (use : Bool) (mode : Int32) : ConfigState :=
  (setAttribute sys.floats (setAttribute sys.floats app.config screensName (.bool use) true).2
    modeName (.int mode) true).2

/-- The files when it has been saved. -/
def savedFiles (app : TouchlessApp sys) (use : Bool) (mode : Int32) : Files :=
  (save sys.floats app.files (app.withSettings use mode) sectionName false).2

/-- The defaults of the settings are no floating-point numbers. -/
theorem floatFree_defaultOf (options : BuildOptions) {name : Bytes} {d : Value}
    (hname : name = modeName ∨ name = screensName) (hd : defaultOf options name = some d) :
    d.FloatFree := by
  have hdefaults : ∀ internalBuild languageMenu : Bool,
      (((defaultAttributes ⟨internalBuild, languageMenu⟩).reverse.find? fun d ↦
          d.1 = modeName).map fun d ↦ decide d.2.1.FloatFree) = some true ∧
        (((defaultAttributes ⟨internalBuild, languageMenu⟩).reverse.find? fun d ↦
          d.1 = screensName).map fun d ↦ decide d.2.1.FloatFree) = some true := by
    decide +kernel
  obtain ⟨internalBuild, languageMenu⟩ := options
  obtain ⟨hmode, hscreens⟩ := hdefaults internalBuild languageMenu
  rw [defaultOf, getAttribute, find?_initializeDefaults, Option.map_map] at hd
  obtain ⟨found, hfound, rfl⟩ := Option.map_eq_some_iff.1 hd
  rcases hname with rfl | rfl
  · rw [hfound] at hmode
    simpa using hmode
  · rw [hfound] at hscreens
    simpa using hscreens

/-- A setting that has been saved is read with its text, and it is no floating-point number. -/
theorem Kept.read {config : ConfigState} {files : Files} {name : Bytes} {value : Value}
    (h : Kept sys.floats sys.options files sys.configPath sectionName config)
    (hsome : (files sys.configPath).isSome = true)
    (hname : name = modeName ∨ name = screensName) (hwritable : Writable config name)
    (htext : ∃ v, getAttribute config name = some v ∧
      textOf sys.floats v = textOf sys.floats value)
    (displays : LPVirtualScreen.DetectedScreens) :
    ∃ w, getAttribute (start sys (save sys.floats files config sectionName false).2
        displays).config name = some w ∧
      w.FloatFree ∧ textOf sys.floats w = textOf sys.floats value := by
  obtain ⟨v, hv, htext⟩ := htext
  obtain ⟨v', w, hv', hw, hread⟩ :=
    h.restart_textOf nulFree_sectionName hwritable .construct
  obtain rfl := Option.some.inj (hv.symm.trans hv')
  have hfiles : startFiles sys (save sys.floats files config sectionName false).2 =
      (save sys.floats files config sectionName false).2 := by
    rw [startFiles, if_pos (isSome_save h.output hsome)]
  have hconfig : (start sys (save sys.floats files config sectionName false).2 displays).config =
      restart sys.floats sys.options (save sys.floats files config sectionName false).2
        .construct sys.configPath sectionName := by
    rw [config_start, hfiles]
  refine ⟨w, hconfig ▸ hw, ?_, hread.trans htext⟩
  have hfile := (h.save nulFree_sectionName).file
  rcases (kept_restart hfile .construct).settled name w hw with hplain | hdefault
  · exact ((exact_iff w).1 hplain.1).1
  · exact floatFree_defaultOf sys.options hname hdefault

/-- **What is read of the saved settings** is what they were when they were set. -/
theorem ConfigKept.read_savedFiles (h : app.ConfigKept) (use : Bool) (mode : Int32)
    (displays : LPVirtualScreen.DetectedScreens) :
    (start sys (app.savedFiles use mode) displays).tempMode = mode ∧
      (start sys (app.savedFiles use mode) displays).readScreens = use := by
  have hscreens : Plain (bool use) := ⟨rfl, rfl, rfl⟩
  have hmode : Plain (int mode) := ⟨rfl, rfl, rfl⟩
  have hkept := (h.kept.setAttribute screensName hscreens).setAttribute modeName hmode
  have hset : ∀ {config : ConfigState} {name : Bytes} (value : Value), Writable config name →
      ∃ v, getAttribute (Config.setAttribute sys.floats config name value true).2 name = some v ∧
        textOf sys.floats v = textOf sys.floats value := fun value hwritable ↦ by
    obtain ⟨found, hfound, haccess⟩ := hwritable.found
    obtain ⟨⟨v, hv, htext⟩, -⟩ := setAttribute_writable sys.floats value hfound haccess
    exact ⟨v, by rw [getAttribute, hv, Option.map_some], htext⟩
  have hwritable : ∀ {name : Bytes}, Writable (app.withSettings use mode) name ↔
      Writable app.config name := by
    intro name
    rw [withSettings, writable_setAttribute, writable_setAttribute]
  constructor
  · obtain ⟨w, hw, hfloat, htext⟩ := Kept.read hkept h.isSome (.inl rfl)
      (hwritable.2 h.mode) (hset (int mode) ((writable_setAttribute _ _ _ _ _).2 h.mode)) displays
    rw [tempMode, savedFiles, withSettings, hw]
    exact toInt_of_textOf sys.numbers hfloat htext
  · have hfirst := hset (bool use) h.screens
    rw [← getAttribute_setAttribute_of_ne screensName_ne_modeName (int mode) true] at hfirst
    obtain ⟨w, hw, hfloat, htext⟩ := Kept.read hkept h.isSome (.inr rfl)
      (hwritable.2 h.screens) hfirst displays
    rw [readScreens, savedFiles, withSettings, hw, eq_bool_of_textOf (.inl hfloat) htext]
    rfl

/-! ### Connecting -/

/-- What a connection leaves, if nothing else happens until the menu has been told. -/
structure Connected (app connected : TouchlessApp sys) : Prop where
  atRest : connected.AtRest
  desiredMode : connected.desiredMode = app.tempMode
  useMultipleMonitors : connected.useMultipleMonitors = app.readScreens
  multiMonitorChecked : connected.ui.multiMonitorChecked = app.readScreens
  checkedMode : ∀ mode, GestureInteractionMode.ofNumber app.tempMode = some mode →
    connected.checkedMode = some mode

/-- **The listener connects**, and the menu is told. -/
theorem exists_connected (hrest : app.AtRest) : ∃ connected,
    app.run connection = some connected ∧ Connected app connected := by
  have hrun := run_connection hrest
  set told : TouchlessApp sys := { app with
    desiredMode := app.tempMode, useMultipleMonitors := app.readScreens } with htold
  obtain ⟨hmode, hmodeChecked⟩ := mode_showMode (told.enableMenu true) app.tempMode
  have hscreens := screens_checkScreens ((told.enableMenu true).showMode app.tempMode)
    app.readScreens
  have hscreensChecked := screensChecked_checkScreens
    ((told.enableMenu true).showMode app.tempMode) app.readScreens
  have hdeliver : ∀ b, modeMirror.decode app.tempMode = some b →
      (modeMirror.deliver app.tempMode told.checkedMode app.tempMode).2 = b :=
    Mirror.deliver_source.2
  have hchange : ∀ shown, (screensMirror.change app.readScreens shown app.readScreens).1 =
      app.readScreens ∧ (screensMirror.change app.readScreens shown app.readScreens).2 =
      app.readScreens := fun shown ↦ by
    rw [Mirror.change]
    split_ifs with hsame
    · exact ⟨rfl, hsame⟩
    · exact ⟨rfl, rfl⟩
  refine ⟨_, hrun, ?_, ?_, ?_, ?_, fun mode hknown ↦ ?_⟩
  · exact ⟨hscreensChecked.leapThread.trans (hmodeChecked.leapThread.trans hrest.1),
      hscreensChecked.posted.trans (hmodeChecked.posted.trans hrest.2)⟩
  · refine hscreensChecked.desiredMode.trans (hmode.1.trans ?_)
    exact Mirror.deliver_source.1
  · refine hscreens.1.trans ?_
    rw [hmodeChecked.useMultipleMonitors]
    exact (hchange _).1
  · refine hscreens.2.trans ?_
    rw [hmodeChecked.useMultipleMonitors]
    exact (hchange _).2
  · refine hscreensChecked.checkedMode.trans (hmode.2.trans (hdeliver _ ?_))
    simp [modeMirror, hknown]

/-- **The settings survive.** In every interleaving, when the listener has settings to save and is
in no callback, the next `onFrame` saves them: if it is not interrupted, the next start of the
program has them when it is connected, and the menu shows them. -/
theorem settings_survive {files : Files}
    (hfloat : (savedObject sys.floats files sys.configPath).FloatFree)
    (hnul : (savedObject sys.floats files sys.configPath).NulFree)
    (displays displays' : LPVirtualScreen.DetectedScreens) (actions : List AppAction)
    (app : TouchlessApp sys) (hrun : (start sys files displays).run actions = some app)
    (hidle : app.leapThread = .idle) (hupdate : app.updateSettings = true) :
    ∃ saved again,
      app.run [.callback .onFrame, .goOn, .goOn, .goOn, .goOn] = some saved ∧
        saved.updateSettings = false ∧
      (start sys saved.files displays').run connection =
          some again ∧
        again.AtRest ∧ again.desiredMode = app.desiredMode ∧
        again.useMultipleMonitors = app.useMultipleMonitors ∧
        again.ui.multiMonitorChecked = app.useMultipleMonitors ∧
        ∀ mode, GestureInteractionMode.ofNumber app.desiredMode = some mode →
          again.checkedMode = some mode ∧ again.interactionManager = app.desiredMode := by
  have hkept := configKept_run (plain_savedObject hfloat hnul) displays hrun
  have hsaved : app.run [.callback .onFrame, .goOn, .goOn, .goOn, .goOn] = some { app with
      config := app.withSettings app.useMultipleMonitors app.desiredMode
      files := app.savedFiles app.useMultipleMonitors app.desiredMode
      updateSettings := false
      leapThread := .idle } := by
    simp [run, step, hidle, enter, hupdate, TouchlessApp.goOn, withSettings, savedFiles]
  obtain ⟨hmode, hscreens⟩ :=
    hkept.read_savedFiles app.useMultipleMonitors app.desiredMode displays'
  have hrest : (start sys (app.savedFiles app.useMultipleMonitors app.desiredMode)
      displays').AtRest := ⟨rfl, rfl⟩
  obtain ⟨again, hagain, hconnected⟩ := exists_connected hrest
  have hmanager := (agrees_run _ displays' hagain).manager
  refine ⟨_, again, hsaved, rfl, hagain, hconnected.atRest, hconnected.desiredMode.trans hmode,
    hconnected.useMultipleMonitors.trans hscreens, hconnected.multiMonitorChecked.trans hscreens,
    fun mode hknown ↦ ?_⟩
  have hchecked := hconnected.checkedMode mode (by rw [hmode, hknown])
  refine ⟨hchecked, ?_⟩
  rw [hmanager, hchecked, GestureInteractionMode.ofNumber_eq_some.1 hknown]
  rfl

theorem settings_survive_firstChoices : ∃ app saved again : TouchlessApp simpleMac,
    (start simpleMac (fun _ ↦ none) twoScreens).run firstChoices = some app ∧
      app.run [.callback .onFrame, .goOn, .goOn, .goOn, .goOn] = some saved ∧
      (start simpleMac saved.files twoScreens).run connection =
          some again ∧
        again.checkedMode = some .basic ∧ again.ui.multiMonitorChecked = true := by
  obtain ⟨app, hrun, happ⟩ := run_firstChoices
  have hempty : (savedObject simpleMac.floats (fun _ ↦ none) simpleMac.configPath).FloatFree ∧
      (savedObject simpleMac.floats (fun _ ↦ none) simpleMac.configPath).NulFree := ⟨rfl, rfl⟩
  obtain ⟨saved, again, hsaved, -, hagain, -, -, -, hchecked, hmodes⟩ :=
    settings_survive hempty.1 hempty.2 twoScreens twoScreens firstChoices app hrun
      happ.atRest.1 happ.updateSettings
  exact ⟨app, saved, again, hrun, hsaved, hagain, (hmodes .basic (by rw [happ.desiredMode]; rfl)).1,
    hchecked.trans happ.useMultipleMonitors⟩

/-- **A choice that is lost.** In every interleaving, when the listener has settings to save and is
in no callback, let the user choose another mode after the next `onFrame` has set the attributes and
before it saves them. Then the listener has the new mode and nothing to save, but the next start of
the program has the old one. -/
theorem choice_lost {files : Files}
    (hfloat : (savedObject sys.floats files sys.configPath).FloatFree)
    (hnul : (savedObject sys.floats files sys.configPath).NulFree)
    (displays displays' : LPVirtualScreen.DetectedScreens) (actions : List AppAction)
    (app : TouchlessApp sys) (hrun : (start sys files displays).run actions = some app)
    (hidle : app.leapThread = .idle) (hupdate : app.updateSettings = true)
    (hmenu : app.ui.modeGroupEnabled = true) (mode : GestureInteractionMode)
    (hinMenu : TouchlessUI.inMenu sys.platform mode = true) (hnew : app.checkedMode ≠ some mode) :
    ∃ late again,
      app.run [.callback .onFrame, .goOn, .goOn, .chooseMode mode, .goOn, .goOn] = some late ∧
        late.updateSettings = false ∧ late.desiredMode = mode.number ∧
        late.interactionManager = mode.number ∧
      (start sys late.files displays').run connection =
          some again ∧
        again.AtRest ∧ again.desiredMode = app.desiredMode := by
  have hkept := configKept_run (plain_savedObject hfloat hnul) displays hrun
  set saving : TouchlessApp sys := { app with
    config := app.withSettings app.useMultipleMonitors app.desiredMode
    leapThread := .saving } with hsaving
  have hfirst : app.run [.callback .onFrame, .goOn, .goOn] = some saving := by
    simp [run, step, hidle, enter, hupdate, TouchlessApp.goOn, withSettings, hsaving]
  -- the click changes the listener, but not the configuration that is about to be saved
  set chosen := ((saving.groupChecked mode).withToolTip mode).setDesiredMode mode with hchosen
  have hclick : saving.run [.chooseMode mode] = some chosen := by
    have hcheck : saving.checkMode mode = chosen := (checkMode_eq mode).trans (if_neg hnew)
    have hshown : saving.ui.modeGroupEnabled = true := hmenu
    simp [run, step, clickMode, hshown, hinMenu, hcheck]
  set late : TouchlessApp sys := { chosen with
    files := app.savedFiles app.useMultipleMonitors app.desiredMode
    updateSettings := false
    leapThread := .idle } with hlate
  have hlast : chosen.run [.goOn, .goOn] = some late := by
    have hthread : chosen.leapThread = .saving := rfl
    simp [run, step, hthread, TouchlessApp.goOn, hlate]
    rfl
  have hwhole : app.run [.callback .onFrame, .goOn, .goOn, .chooseMode mode, .goOn, .goOn] =
      some late :=
    PartialRun.foldlM_append_eq_some.2
      ⟨saving, hfirst, PartialRun.foldlM_append_eq_some.2 ⟨chosen, hclick, hlast⟩⟩
  obtain ⟨again, hagain, hconnected⟩ : ∃ again,
      (start sys late.files displays').run connection =
        some again ∧ Connected (start sys late.files displays') again :=
    exists_connected ⟨rfl, rfl⟩
  refine ⟨late, again, hwhole, rfl, rfl, rfl, hagain, hconnected.atRest, ?_⟩
  exact hconnected.desiredMode.trans
    (hkept.read_savedFiles app.useMultipleMonitors app.desiredMode displays').1

theorem choice_lost_firstChoices : ∃ app late again : TouchlessApp simpleMac,
    (start simpleMac (fun _ ↦ none) twoScreens).run firstChoices = some app ∧
      app.run [.callback .onFrame, .goOn, .goOn, .chooseMode .advanced, .goOn, .goOn] = some late ∧
        late.updateSettings = false ∧ late.desiredMode = 3 ∧
      (start simpleMac late.files twoScreens).run connection =
          some again ∧
        again.desiredMode = 2 := by
  obtain ⟨app, hrun, happ⟩ := run_firstChoices
  have hempty : (savedObject simpleMac.floats (fun _ ↦ none) simpleMac.configPath).FloatFree ∧
      (savedObject simpleMac.floats (fun _ ↦ none) simpleMac.configPath).NulFree := ⟨rfl, rfl⟩
  obtain ⟨late, again, hlate, hnothing, hnew, -, hagain, -, hold⟩ :=
    choice_lost hempty.1 hempty.2 twoScreens twoScreens firstChoices app hrun happ.atRest.1
      happ.updateSettings happ.enabled .advanced rfl (by rw [happ.checkedMode]; nofun)
  exact ⟨app, late, again, hrun, hlate, hnothing, hnew, hagain, hold.trans happ.desiredMode⟩

end TouchlessApp

end Touchless
