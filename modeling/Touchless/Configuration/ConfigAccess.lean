import Touchless.Configuration.ConfigRestart

/-!
# Access control

Attributes are guarded by their access types in one place, `SetAttribute`, while they are written by
calls of the user, by calls of the program and by the loop of `LoadFromFile` over whatever a file
holds. `exec_guarded` says what one call may do, and `run_governed` what holds over whole runs, in
which other programs may change the files at any time.
-/

namespace Touchless.Config

open Value AccessType

/-- What happens to the configuration after `InitializeDefaults`. -/
inductive ConfigCall where
  | setAttribute (attributeName : Bytes) (value : Value) (userSpecified : Bool)
  | loadFromFile (fileName sectionName : Bytes)
  | save (sectionName : Bytes) (toDefault : Bool)
  /-- other programs write files -/
  | otherPrograms (files : Files)

/-- A call on behalf of the user. -/
def ConfigCall.IsPublic : ConfigCall → Prop
  | .setAttribute _ _ userSpecified => userSpecified = true
  | .loadFromFile _ _ => True
  | _ => False

/-- One call, with its result. -/
def exec (floats : FloatText) (w : ConfigState × Files) : ConfigCall → (ConfigState × Files) × Bool
  | .setAttribute attributeName value userSpecified =>
    let (ok, s) := setAttribute floats w.1 attributeName value userSpecified
    ((s, w.2), ok)
  | .loadFromFile fileName sectionName =>
    let (s, ok) := tryLoadFromFile floats w.2 w.1 fileName sectionName
    ((s, w.2), ok)
  | .save sectionName toDefault =>
    let (ok, files) := save floats w.2 w.1 sectionName toDefault
    ((w.1, files), ok)
  | .otherPrograms files => ((w.1, files), true)

/-- A sequence of calls. -/
def run (floats : FloatText) (w : ConfigState × Files) (calls : List ConfigCall) :
    ConfigState × Files :=
  calls.foldl (fun w call ↦ (exec floats w call).1) w

variable {floats : FloatText} {options : BuildOptions} {s r t : ConfigState} {a name : Bytes}
  {value : Value} {userSpecified : Bool}

/-! ### What a call may do -/

/-- The attributes keep their names and access types, and those that are guarded their values. -/
structure Respects (guarded : AccessType → Prop) (s r : ConfigState) : Prop where
  accessType : ∀ a, (r.attributeMap.find? a).map Attribute.accessType =
    (s.attributeMap.find? a).map Attribute.accessType
  values : ∀ a found, s.attributeMap.find? a = some found → guarded found.accessType →
    r.attributeMap.find? a = some found

variable {guarded : AccessType → Prop}

theorem Respects.refl (s : ConfigState) : Respects guarded s s := ⟨fun _ ↦ rfl, fun _ _ h _ ↦ h⟩

theorem Respects.trans (h : Respects guarded s r) (h' : Respects guarded r t) :
    Respects guarded s t :=
  ⟨fun a ↦ (h'.accessType a).trans (h.accessType a),
    fun a found hfound hguarded ↦ h'.values a found (h.values a found hfound hguarded) hguarded⟩

theorem Respects.isSome_eq (h : Respects guarded s r) (a : Bytes) :
    (r.attributeMap.find? a).isSome = (s.attributeMap.find? a).isSome := by
  have hmap := congrArg Option.isSome (h.accessType a)
  simpa using hmap

/-- What `SetAttribute` must not change. -/
def guardedFrom (userSpecified : Bool) (accessType : AccessType) : Prop :=
  accessType = readOnly ∨ userSpecified = true ∧ accessType = writeNoPublic

/-- **`SetAttribute` respects the access types.** -/
theorem setAttribute_respects (floats : FloatText) (s : ConfigState) (name : Bytes) (value : Value)
    (userSpecified : Bool) : Respects (guardedFrom userSpecified) s
      (setAttribute floats s name value userSpecified).2 := by
  refine ⟨accessType_setAttribute floats s name value userSpecified,
    fun a found hfound hguarded ↦ ?_⟩
  by_cases hname : a = name
  · subst hname
    have hsame : (setAttribute floats s a value userSpecified).2 = s := by
      rw [setAttribute, hfound]
      rcases hguarded with hread | ⟨huser, hpublic⟩
      · simp [hread]
      · simp [huser, hpublic]
    rw [hsame, hfound]
  · rw [(setAttribute_of_ne floats s value userSpecified hname).1, hfound]

/-- The loop of `LoadFromFile` does, as a user would. -/
theorem setAttributes_respects (floats : FloatText) (entries : List (Bytes × Value)) :
    ∀ s, Respects (guardedFrom true) s (setAttributes floats s entries) := by
  induction entries with
  | nil => exact fun s ↦ .refl s
  | cons p entries ih =>
    exact fun s ↦ (setAttribute_respects floats s p.1 p.2 true).trans (ih _)

/-- A call that is refused changes nothing. -/
theorem setAttribute_eq_false
    (h : (setAttribute floats s name value userSpecified).1 = false) :
    (setAttribute floats s name value userSpecified).2 = s := by
  revert h
  rw [setAttribute]
  cases s.attributeMap.find? name with
  | none => exact fun _ ↦ rfl
  | some found =>
    simp only
    split_ifs <;> simp

/-! ### The invariant -/

/-- The attributes whose presence `LoadImageConfig` needs. -/
def imageSizes : List Bytes :=
  [ascii "image_width", ascii "image_height", ascii "image_calib_width",
    ascii "image_calib_height", ascii "image_source_width", ascii "image_source_height"]

/-- What is recorded for `Save` is writable, and the image sizes are there. -/
structure Governed (s : ConfigState) : Prop where
  modified : ∀ a v, s.modifiedMap.find? a = some v →
    ∃ found, s.attributeMap.find? a = some found ∧ found.accessType = writeAlways
  sizes : ∀ a ∈ imageSizes, (s.attributeMap.find? a).isSome = true

theorem Governed.loadImageConfig (h : Governed s) (floats : FloatText) :
    loadImageConfig floats s = true := by
  have hsizes : imageSizes.all (fun name ↦ (getAttribute s name).isSome) = true :=
    List.all_eq_true.2 fun a ha ↦ by
      rw [getAttribute, Option.isSome_map]
      exact h.sizes a ha
  rw [Config.loadImageConfig]
  cases getAttribute s (ascii "camera_mode") with
  | none => exact hsizes
  | some mode => exact Bool.or_eq_true_iff.2 (.inr hsizes)

theorem Governed.setAttribute (h : Governed s) (floats : FloatText) (name : Bytes) (value : Value)
    (userSpecified : Bool) : Governed (setAttribute floats s name value userSpecified).2 := by
  have hrespects := setAttribute_respects floats s name value userSpecified
  refine ⟨fun a v hv ↦ ?_, fun a ha ↦ (hrespects.isSome_eq a).trans (h.sizes a ha)⟩
  -- what the new state has recorded was recorded before, or is the attribute of the call
  obtain ⟨found, hfound, haccess⟩ : ∃ found, s.attributeMap.find? a = some found ∧
      found.accessType = writeAlways := by
    rcases setAttribute_cases floats s name value userSpecified with
      hsame | ⟨found, hfound, hpublic, hset⟩
    · rw [hsame] at hv
      exact h.modified a v hv
    · rw [hset] at hv
      cases huser : userSpecified with
      | false => exact h.modified a v (by simpa [huser] using hv)
      | true =>
        by_cases hname : a = name
        · exact ⟨found, hname ▸ hfound, hpublic huser⟩
        · refine h.modified a v ?_
          simpa [huser, OrderedMap.find?_insert_of_ne _ hname] using hv
  have hmap := hrespects.accessType a
  rw [hfound, Option.map_some, haccess] at hmap
  exact Option.map_eq_some_iff.1 hmap

theorem Governed.setAttributes (floats : FloatText) (entries : List (Bytes × Value)) :
    ∀ {s}, Governed s → Governed (setAttributes floats s entries) := by
  induction entries with
  | nil => exact fun h ↦ h
  | cons p entries ih => exact fun h ↦ ih (h.setAttribute floats p.1 p.2 true)

/-- **The spec of `LoadFromFile`**: it sets the attributes of a section, or fails before it has
changed any. -/
theorem tryLoadFromFile_cases (floats : FloatText) (h : Governed s) (files : Files)
    (fileName sectionName : Bytes) :
    (∃ entries, tryLoadFromFile floats files s fileName sectionName =
        (setAttributes floats (setOutputFile s fileName sectionName) entries, true)) ∨
      tryLoadFromFile floats files s fileName sectionName =
        (setOutputFile s fileName sectionName, false) := by
  have hgoverned : Governed (setOutputFile s fileName sectionName) := ⟨h.modified, h.sizes⟩
  rw [tryLoadFromFile, loadFromFile]
  cases files fileName with
  | none => exact .inr rfl
  | some content =>
    simp only
    split_ifs with hhash
    · exact .inr rfl
    · cases (readFrom floats content).hashGet sectionName with
      | hash entries =>
        refine .inl ⟨entries, ?_⟩
        simp [(hgoverned.setAttributes floats entries).loadImageConfig floats]
      | _ => exact .inr rfl

/-- Every failure but that of the image sizes names the file. -/
theorem fileName_infix_what {error : LoadError} (h : error ≠ .imageConfig)
    (fileName sectionName : Bytes) : fileName <:+: error.what fileName sectionName := by
  cases error with
  | fileNotFound => exact ⟨_, _, rfl⟩
  | parsing => exact (List.suffix_append _ _).isInfix
  | sectionNotFound => exact (List.suffix_append _ _).isInfix
  | imageConfig => exact absurd rfl h

/-- **A load prints nothing** exactly if it succeeds or is not to be verbose. -/
theorem loadOutput_eq_nil_iff (floats : FloatText) (files : Files) (s : ConfigState)
    (fileName sectionName : Bytes) (verbose : Bool) :
    loadOutput floats files s fileName sectionName verbose = [] ↔
      (tryLoadFromFile floats files s fileName sectionName).2 = true ∨ verbose = false := by
  rw [loadOutput, tryLoadFromFile]
  dsimp only
  have hwhat : ∀ error : LoadError, error.what fileName sectionName ≠ [] := fun error ↦ by
    cases error <;> simp [LoadError.what, ascii]
  cases (loadFromFile floats files s fileName sectionName).2 with
  | none => simp
  | some error => cases verbose <;> simp [hwhat error]

/-! ### One call -/

/-- What one call guarantees. -/
structure Guarded (call : ConfigCall) (s r : ConfigState) (ok : Bool) : Prop where
  /-- the set of names does not change -/
  names : ∀ a, (r.attributeMap.find? a).isSome = (s.attributeMap.find? a).isSome
  /-- a `READ_ONLY` attribute does not change -/
  readOnly : ∀ a found, s.attributeMap.find? a = some found → found.accessType = readOnly →
    r.attributeMap.find? a = some found
  /-- a `WRITE_NOPUBLIC` attribute does not change on behalf of the user -/
  writeNoPublic : call.IsPublic → ∀ a found, s.attributeMap.find? a = some found →
    found.accessType = writeNoPublic → r.attributeMap.find? a = some found
  /-- a call that fails changes no attribute and records nothing -/
  failed : ok = false → r.attributeMap = s.attributeMap ∧ r.modifiedMap = s.modifiedMap

/-- **Every call is guarded**, and keeps the invariant. -/
theorem exec_guarded (floats : FloatText) {w : ConfigState × Files} (h : Governed w.1)
    (call : ConfigCall) :
    Guarded call w.1 (exec floats w call).1.1 (exec floats w call).2 ∧
      Governed (exec floats w call).1.1 := by
  obtain ⟨s, files⟩ := w
  cases call with
  | setAttribute name value userSpecified =>
    have hrespects := setAttribute_respects floats s name value userSpecified
    refine ⟨⟨hrespects.isSome_eq, fun a found hfound haccess ↦ ?_,
      fun hpublic a found hfound haccess ↦ ?_, fun hfailed ↦ ?_⟩, h.setAttribute ..⟩
    · exact hrespects.values a found hfound (.inl haccess)
    · exact hrespects.values a found hfound (.inr ⟨hpublic, haccess⟩)
    · show (setAttribute floats s name value userSpecified).2.attributeMap = _ ∧
        (setAttribute floats s name value userSpecified).2.modifiedMap = _
      rw [setAttribute_eq_false hfailed]
      exact ⟨rfl, rfl⟩
  | loadFromFile fileName sectionName =>
    have hgoverned : Governed (setOutputFile s fileName sectionName) := ⟨h.modified, h.sizes⟩
    simp only [exec]
    rcases tryLoadFromFile_cases floats h files fileName sectionName with ⟨entries, hload⟩ | hload
    · have hrespects := setAttributes_respects floats entries (setOutputFile s fileName sectionName)
      rw [hload]
      refine ⟨⟨hrespects.isSome_eq, fun a found hfound haccess ↦ ?_,
        fun _ a found hfound haccess ↦ ?_, by simp⟩, hgoverned.setAttributes floats entries⟩
      · exact hrespects.values a found hfound (.inl haccess)
      · exact hrespects.values a found hfound (.inr ⟨rfl, haccess⟩)
    · rw [hload]
      exact ⟨⟨fun _ ↦ rfl, fun _ _ hfound _ ↦ hfound, fun _ _ _ hfound _ ↦ hfound,
        fun _ ↦ ⟨rfl, rfl⟩⟩, hgoverned⟩
  -- `Save` writes a file only, and so do the other programs
  | save sectionName toDefault =>
    exact ⟨⟨fun _ ↦ rfl, fun _ _ hfound _ ↦ hfound, fun _ _ _ hfound _ ↦ hfound,
      fun _ ↦ ⟨rfl, rfl⟩⟩, h⟩
  | otherPrograms files =>
    exact ⟨⟨fun _ ↦ rfl, fun _ _ hfound _ ↦ hfound, fun _ _ _ hfound _ ↦ hfound,
      fun _ ↦ ⟨rfl, rfl⟩⟩, h⟩

/-! ### Runs -/

/-- The defaults have the attributes that `LoadImageConfig` needs, and nothing is recorded yet. -/
theorem governed_initializeDefaults (options : BuildOptions) (s : ConfigState) :
    Governed (initializeDefaults options s) := by
  -- the names of the image sizes are among those of the camera
  have hcamera : ∀ a ∈ imageSizes, ∃ d ∈ cameraDefaults, ascii d.1 = a := by decide +kernel
  refine ⟨fun a v hv ↦ ?_, fun a ha ↦ ?_⟩
  · rw [initializeDefaults, (foldl_createAttribute_maps _ _).1] at hv
    cases hv
  · obtain ⟨d, hd, hname⟩ := hcamera a ha
    have hmem : (ascii d.1, d.2) ∈ (defaultAttributes options).reverse := by
      simp only [List.mem_reverse, defaultAttributes, List.mem_append, List.mem_map]
      exact .inl (.inl ⟨d, .inl (.inl (.inl hd)), rfl⟩)
    have hfind : ((defaultAttributes options).reverse.find? fun d ↦ d.1 = a).isSome = true :=
      List.find?_isSome.2 ⟨_, hmem, by simpa using hname⟩
    rw [initializeDefaults, find?_foldl_createAttribute, Option.isSome_or, Option.isSome_map, hfind,
      Bool.true_or]

/-- Whatever `Save` writes into the section is recorded, so it is a `WRITE_ALWAYS` attribute. -/
theorem Governed.sectionValue (h : Governed s) {toDefault : Bool} {entries : List (Bytes × Value)}
    (hsection : sectionValue s toDefault = hash entries) :
    ∀ p ∈ entries, ∃ found, s.attributeMap.find? p.1 = some found ∧
      found.accessType = writeAlways := by
  cases toDefault with
  | true => cases hsection
  | false =>
    obtain rfl := Value.hash.inj hsection
    exact fun p hp ↦ h.modified p.1 p.2 (OrderedMap.mem_entries.1 hp)

theorem run_governed (floats : FloatText) {w : ConfigState × Files} (h : Governed w.1)
    (calls : List ConfigCall) :
    Governed (run floats w calls).1 := by
  induction calls generalizing w with
  | nil => exact h
  | cons call calls ih => exact ih (exec_guarded floats h call).2

/-- What no call changes, a run does not change. -/
theorem run_respects {w : ConfigState × Files} (h : Governed w.1) (calls : List ConfigCall) :
    (∀ a, ((run floats w calls).1.attributeMap.find? a).isSome =
        (w.1.attributeMap.find? a).isSome) ∧
      ∀ a found, w.1.attributeMap.find? a = some found → found.accessType = readOnly →
        (run floats w calls).1.attributeMap.find? a = some found := by
  induction calls generalizing w with
  | nil => exact ⟨fun _ ↦ rfl, fun _ _ hfound _ ↦ hfound⟩
  | cons call calls ih =>
    obtain ⟨hguarded, hgoverned⟩ := exec_guarded floats h call
    obtain ⟨hnames, hread⟩ := ih hgoverned
    exact ⟨fun a ↦ (hnames a).trans (hguarded.names a), fun a found hfound haccess ↦
      hread a found (hguarded.readOnly a found hfound haccess) haccess⟩

/-- **Access control over whole runs** after `InitializeDefaults`: read-only attributes and the set
of names never change, every call is guarded, whatever is recorded is a `WRITE_ALWAYS` attribute,
and so is whatever `Save` writes. -/
theorem run_accessControl (floats : FloatText) (options : BuildOptions) (s : ConfigState)
    (files : Files) (calls : List ConfigCall) :
    (∀ a found, (initializeDefaults options s).attributeMap.find? a = some found →
      found.accessType = readOnly →
      (run floats (initializeDefaults options s, files) calls).1.attributeMap.find? a =
        some found) ∧
    (∀ a, ((run floats (initializeDefaults options s, files) calls).1.attributeMap.find? a).isSome =
      ((initializeDefaults options s).attributeMap.find? a).isSome) ∧
    (∀ earlier call later, calls = earlier ++ call :: later →
      Guarded call (run floats (initializeDefaults options s, files) earlier).1
        (exec floats (run floats (initializeDefaults options s, files) earlier) call).1.1
        (exec floats (run floats (initializeDefaults options s, files) earlier) call).2) ∧
    (∀ p ∈ (run floats (initializeDefaults options s, files) calls).1.modifiedMap.entries,
      ∃ found, (run floats (initializeDefaults options s, files) calls).1.attributeMap.find? p.1 =
        some found ∧ found.accessType = writeAlways) ∧
    (∀ toDefault entries,
      sectionValue (run floats (initializeDefaults options s, files) calls).1 toDefault =
        hash entries →
      ∀ p ∈ entries, ∃ found,
        (run floats (initializeDefaults options s, files) calls).1.attributeMap.find? p.1 =
          some found ∧ found.accessType = writeAlways) := by
  obtain ⟨w, hw⟩ : ∃ w, w = (initializeDefaults options s, files) := ⟨_, rfl⟩
  have hfirst : initializeDefaults options s = w.1 := by rw [hw]
  have hstart : Governed w.1 := hfirst ▸ governed_initializeDefaults options s
  have hrun := run_governed floats hstart calls
  rw [← hw, hfirst]
  exact ⟨(run_respects hstart calls).2, (run_respects hstart calls).1,
    fun earlier call later _ ↦ (exec_guarded floats (run_governed floats hstart earlier) call).1,
    fun p hp ↦ hrun.modified p.1 p.2 (OrderedMap.mem_entries.1 hp),
    fun _ _ hsection ↦ hrun.sectionValue hsection⟩

end Touchless.Config
