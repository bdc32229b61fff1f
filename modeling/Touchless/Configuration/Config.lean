import Mathlib.Logic.Function.Basic
import Touchless.Utility.Value

/-!
# The configuration

`class Config` of `Configuration/Config.h` and `Configuration/Config.cpp`: a table of attributes
with their access types, filled with defaults by `InitializeDefaults`, changed by `SetAttribute`,
and made persistent in one section of a JSON file by `Save` and `LoadFromFile`. What is written is
not the table but a second map, `ModifiedMap`, into which `SetAttribute` copies what the user has
changed.

The state of the class is one static object, here an argument and a result of every operation. The
functions that would register dynamic attributes and change listeners are commented out in the
source, so those two maps are always empty and left out, and so are the image sizes that
`LoadImageConfig` stores beside its result. Files are a function from names to contents, and reading
and writing them succeeds.
-/

namespace Touchless.Config

open Value

/-- `AccessType`. -/
inductive AccessType where
  | readOnly
  | writeNoPublic
  | writeAlways
  deriving DecidableEq, Repr

open AccessType

/-- `Attribute`. -/
structure Attribute where
  value : Value
  accessType : AccessType

/-- `ConfigState`. -/
structure ConfigState where
  /-- `AttributeMap` -/
  attributeMap : OrderedMap Bytes Attribute
  /-- `ModifiedMap` -/
  modifiedMap : OrderedMap Bytes Value
  /-- `SectionToFileMap` -/
  sectionToFileMap : OrderedMap Bytes Bytes

/-- The static object at the start of the program. -/
def ConfigState.construct : ConfigState := ⟨OrderedMap.empty, OrderedMap.empty, OrderedMap.empty⟩

/-- The contents of the files; `none` where there is no file. -/
abbrev Files := Bytes → Option Bytes

/-! ### The defaults -/

/-- The preprocessor settings `InitializeDefaults` depends on. -/
structure BuildOptions where
  /-- `IS_INTERNAL_BUILD == 1` -/
  internalBuild : Bool
  /-- `LANGUAGE_MENU` is defined -/
  languageMenu : Bool

/-- A value constructed from a string literal. -/
def text (literal : String) : Value := string (ascii literal)

/-- `GetDefaultScreenCalib`: -200, 50, -200, 400, 0, 0, 0, 250, 0. -/
def defaultScreenCalib : List Value :=
  [double 0xC069000000000000, double 0x4049000000000000, double 0xC069000000000000,
    double 0x4079000000000000, double 0x0000000000000000, double 0x0000000000000000,
    double 0x0000000000000000, double 0x406F400000000000, double 0x0000000000000000]

/-- The value of `screen_calibration` number `i`: only the first screen has a calibration. -/
def screenCalibration (i : ℕ) : Value := array (if i = 0 then defaultScreenCalib else [])

/-- The calls of `CreateAttribute` up to the filter settings, in order. Floating-point defaults are
given by their bits. -/
def cameraDefaults : List (String × Value × AccessType) :=
  [("camera_type", text "UVCI", writeAlways), ("camera_dump_file", text "", writeNoPublic),
    ("camera_framerate_limit", double 0x408F400000000000, writeAlways),
    ("camera_sensitivity", double 0x3FF0000000000000, writeAlways),
    ("camera_requires_calib", bool true, writeAlways),
    ("optical_infinity_value", double 0x406439999999999A, writeNoPublic),
    ("dump_replay_framerate", int 10, writeNoPublic),
    ("dump_replay_repeat", bool true, writeNoPublic),
    ("dump_replay_min_clients", int 0, writeNoPublic),
    ("dump_replay_max_wait_ms", int 1000, writeNoPublic),
    ("dump_replay_processed_only", bool true, writeNoPublic),
    ("pipeline_stop_requested", bool false, writeNoPublic),
    ("plugin_host_stop_requested", bool false, writeNoPublic),
    ("spherical_wavefront_frequency", int 450, writeNoPublic),
    ("use_wavefront_photon_slowdown", bool true, writeNoPublic),
    ("debug_use_image_viewer", bool false, writeNoPublic),
    ("debug_rect_images", bool true, writeNoPublic), ("camera_mode", text "HVGA", writeAlways),
    ("image_width", int 640, writeAlways), ("image_height", int 480, writeAlways),
    ("image_source_width", int 640, writeAlways), ("image_source_height", int 480, writeAlways),
    ("image_calib_width", int 640, writeAlways), ("image_calib_height", int 480, writeAlways),
    ("tracking_mode", text "balanced", writeAlways), ("xray_pulse_width", int 100, writeNoPublic),
    ("sampling_max_gap", double 0x3FF0000000000000, writeNoPublic),
    ("sampling_min_gap", double 0x3FB99999A0000000, writeNoPublic),
    ("sampling_max_gap_robust", double 0x3FE99999A0000000, writeNoPublic),
    ("sampling_min_gap_robust", double 0x3FB47AE140000000, writeNoPublic),
    ("debug_trifocal_tensors", bool true, writeNoPublic),
    ("robust_mode_enabled", bool true, writeAlways),
    ("low_resource_mode_enabled", bool false, writeAlways),
    ("background_app_mode", int 1, writeAlways),
    ("plasmeto_mode_enabled", bool false, writeNoPublic),
    ("debug_output_level", int 3, writeNoPublic),
    ("debug_output_mode", text "console", writeNoPublic),
    ("profiling_output_level", int 1, writeNoPublic),
    ("profiling_output_mode", text "none", writeNoPublic),
    ("websockets_enabled", bool true, writeAlways), ("websockets_port", int 6437, writeNoPublic),
    ("server_connect_ip", text "127.0.0.1", writeAlways),
    ("print_timestamps_in_log", bool true, writeAlways),
    ("use_interference_fringing_pattern", bool true, writeNoPublic)]

/-- The calls from the filter settings on. -/
def filteringDefaults : List (String × Value × AccessType) :=
  [("filtering_enabled", bool true, writeNoPublic),
    ("filtering_scale_posunc", double 0x3FF0000000000000, writeNoPublic),
    ("filtering_scale_velunc", double 0x3FF0000000000000, writeNoPublic),
    ("filtering_scale_dirunc", double 0x3FF0000000000000, writeNoPublic),
    ("filtering_target_posunc", double 0x3F8999999999999A, writeNoPublic),
    ("filtering_target_velunc", double 0x3F8999999999999A, writeNoPublic),
    ("filtering_target_dirunc", double 0x3F8999999999999A, writeNoPublic),
    ("filtering_user_unc", double 0x3FA999999999999A, writeNoPublic),
    ("filtering_user_scale", double 0x4034000000000000, writeNoPublic),
    ("filtering_near_dist", int 1, writeNoPublic), ("filtering_far_dist", int 500, writeNoPublic),
    ("filtering_position_smooth_min", double 0x3FD3333333333333, writeNoPublic),
    ("filtering_position_smooth_max", double 0x3F8EB851EB851EB8, writeNoPublic),
    ("filtering_position_adapt_rate", double 0x3E7AD7F29ABCAF48, writeNoPublic),
    ("filtering_direction_smooth_min", double 0x3F9999999999999A, writeNoPublic),
    ("filtering_direction_smooth_max", double 0x3F1A36E2EB1C432D, writeNoPublic),
    ("filtering_direction_adapt_rate", double 0x3F9999999999999A, writeNoPublic),
    ("tracking_classify_threshold", double 0x3FE7EC17EBAF1023, writeNoPublic),
    ("tracking_transform_angle", int 0, writeAlways), ("tracking_shift_x", int 0, writeAlways),
    ("holotopic_tomography_slices", double 0x3FECCCCCCCCCCCCD, writeNoPublic),
    ("image_processing_auto_flip", bool true, writeAlways),
    ("image_processing_cropped", bool false, writeNoPublic),
    ("image_processing_throttled", bool false, writeNoPublic),
    ("image_processing_standby", bool true, writeNoPublic),
    ("image_processing_mode", int 1, writeNoPublic),
    ("power_saving_adapter", bool false, writeAlways),
    ("power_saving_battery", bool true, writeAlways),
    ("use_robust_tips", bool true, writeNoPublic)]

/-- The calls from the interaction mode on. The default of the mode is an enumeration constant,
which the constructor template of `Value` takes as it is. -/
def interactionDefaults : List (String × Value × AccessType) :=
  [("os_interaction_mode", foreign "Touchless::GestureInteractionMode", writeAlways),
    ("os_interaction_multi_monitor", bool false, writeAlways),
    ("interaction_box_auto", bool false, writeAlways),
    ("interaction_box_height", int 200, writeAlways),
    ("interaction_box_scale", double 0x3FE999999999999A, writeAlways),
    ("interaction_center_x", int 0, writeAlways), ("interaction_center_y", int 200, writeAlways),
    ("interaction_center_z", int 0, writeAlways),
    ("autoplane_closeness_epsilon", double 0x4010000000000000, writeAlways),
    ("autoplane_covariance_scale_factor", double 0x3FE0000000000000, writeAlways),
    ("autoplane_time_window", double 0x3FD999999999999A, writeAlways),
    ("autoplane_warmup_time", double 0x3FD54FDF3B645A1D, writeAlways),
    ("autoplane_hover_zone_cutoff", double 0x4051800000000000, writeAlways),
    ("autoplane_dead_zone_cutoff", double 0x406B800000000000, writeAlways),
    ("autoplane_function_steepness", double 0x3FF0000000000000, writeAlways),
    ("autoplane_function_width", double 0x4010000000000000, writeAlways),
    ("autoplane_function_speed", double 0x3FE0000000000000, writeAlways),
    ("klaatu_barada_nikto", bool true, writeAlways), ("FPS_throttle", bool true, writeNoPublic),
    ("adjust_radiance", bool true, writeNoPublic),
    ("hand_isolation_enabled", bool true, writeAlways),
    ("screen_detected", bool false, writeAlways),
    ("screen_point0_x", double 0x0000000000000000, writeAlways),
    ("screen_point0_y", double 0x0000000000000000, writeAlways),
    ("screen_point0_z", double 0x0000000000000000, writeAlways),
    ("screen_point1_x", double 0x0000000000000000, writeAlways),
    ("screen_point1_y", double 0x0000000000000000, writeAlways),
    ("screen_point1_z", double 0x0000000000000000, writeAlways),
    ("screen_point2_x", double 0x0000000000000000, writeAlways),
    ("screen_point2_y", double 0x0000000000000000, writeAlways),
    ("screen_point2_z", double 0x0000000000000000, writeAlways),
    ("screen_point3_x", double 0x0000000000000000, writeAlways),
    ("screen_point3_y", double 0x0000000000000000, writeAlways),
    ("screen_point3_z", double 0x0000000000000000, writeAlways),
    ("screen_point4_x", double 0x0000000000000000, writeAlways),
    ("screen_point4_y", double 0x0000000000000000, writeAlways),
    ("screen_point4_z", double 0x0000000000000000, writeAlways),
    ("screen_point5_x", double 0x0000000000000000, writeAlways),
    ("screen_point5_y", double 0x0000000000000000, writeAlways),
    ("screen_point5_z", double 0x0000000000000000, writeAlways),
    ("screen_point6_x", double 0x0000000000000000, writeAlways),
    ("screen_point6_y", double 0x0000000000000000, writeAlways),
    ("screen_point6_z", double 0x0000000000000000, writeAlways),
    ("screen_point7_x", double 0x0000000000000000, writeAlways),
    ("screen_point7_y", double 0x0000000000000000, writeAlways),
    ("screen_point7_z", double 0x0000000000000000, writeAlways),
    ("reflection_removal_enabled", bool true, writeAlways)]

/-- The calls behind the `#if` on internal builds. -/
def updateDefaults (options : BuildOptions) : List (String × Value × AccessType) :=
  [("auto_check_updates", bool (!options.internalBuild), writeAlways),
    ("force_accept_updates", bool false, writeAlways)]

/-- The calls of the loop over the calibrated screens, `MAX_NUM_CALIBRATED_SCREENS` of them. -/
def screenDefaults : List (Bytes × Value × AccessType) :=
  (List.range 10).map fun i ↦
    (ascii "screen_calibration" ++ decimal i, screenCalibration i, writeAlways)

/-- The call under `LANGUAGE_MENU`. -/
def languageDefaults (options : BuildOptions) : List (String × Value × AccessType) :=
  if options.languageMenu then [("display_language", text "", writeAlways)] else []

/-- The arguments of all calls of `CreateAttribute` in `InitializeDefaults`, in order. -/
def defaultAttributes (options : BuildOptions) : List (Bytes × Value × AccessType) :=
  (cameraDefaults ++ filteringDefaults ++ interactionDefaults ++ updateDefaults options).map
      (fun d ↦ (ascii d.1, d.2)) ++
    screenDefaults ++ (languageDefaults options).map fun d ↦ (ascii d.1, d.2)

/-- `CreateAttribute`. -/
def createAttribute (s : ConfigState) (attributeName : Bytes) (value : Value)
    (accessType : AccessType) : ConfigState :=
  { s with attributeMap := s.attributeMap.insert attributeName ⟨value, accessType⟩ }

/-- `InitializeDefaults`, without the image sizes. -/
def initializeDefaults (options : BuildOptions) (s : ConfigState) : ConfigState :=
  (defaultAttributes options).foldl (fun s d ↦ createAttribute s d.1 d.2.1 d.2.2)
    { s with attributeMap := OrderedMap.empty, modifiedMap := OrderedMap.empty }

/-! ### Attributes -/

/-- `GetAttribute` for a value; `none` where the call returns false. -/
def getAttribute (s : ConfigState) (attributeName : Bytes) : Option Value :=
  (s.attributeMap.find? attributeName).map Attribute.value

/-- `SetAttribute`, with its result. -/
def setAttribute (floats : FloatText) (s : ConfigState) (attributeName : Bytes) (value : Value)
    (userSpecified : Bool) : Bool × ConfigState :=
  match s.attributeMap.find? attributeName with
  | none => (false, s)
  | some found =>
    if found.accessType = .readOnly then (false, s)
    else if found.accessType = .writeNoPublic ∧ userSpecified = true then (false, s)
    else if found.value.equal floats value then (true, s)
    else
      (true, { s with
        attributeMap := s.attributeMap.insert attributeName { found with value := value }
        modifiedMap := if userSpecified then s.modifiedMap.insert attributeName value
          else s.modifiedMap })

/-- `LoadImageConfig`: is the camera mode one of the five known ones, or are all image sizes there?
-/
def loadImageConfig (floats : FloatText) (s : ConfigState) : Bool :=
  let modes := [ascii "VGA", ascii "HVGA", ascii "QVGA", ascii "HHVGA", ascii "QHVGA"]
  let sizes := [ascii "image_width", ascii "image_height", ascii "image_calib_width",
    ascii "image_calib_height", ascii "image_source_width", ascii "image_source_height"]
  match getAttribute s (ascii "camera_mode") with
  | some mode => modes.contains (mode.write floats false true (-1)) ||
      sizes.all fun name ↦ (getAttribute s name).isSome
  | none => sizes.all fun name ↦ (getAttribute s name).isSome

/-! ### Files -/

/-- The exceptions of `LoadFromFile`. -/
inductive LoadError where
  | fileNotFound
  | parsing
  | sectionNotFound
  | imageConfig
  deriving DecidableEq, Repr

/-- Their texts. -/
def LoadError.what (fileName sectionName : Bytes) : LoadError → Bytes
  | fileNotFound => ascii "Configuration file " ++ fileName ++ ascii " not found"
  | parsing => ascii "Error parsing config file: " ++ fileName
  | sectionNotFound => [0x53, 0x65, 0x63, 0x74, 0x69, 0x6F, 0x6E, 0x20, 0x27] ++ sectionName ++
      [0x27] ++ ascii " not found: " ++ fileName
  | imageConfig => ascii "Error loading image config"

/-- `SetOutputFile`. The first file named is also the file of the section without a name. -/
def setOutputFile (s : ConfigState) (fileName sectionName : Bytes) : ConfigState :=
  let map := if s.sectionToFileMap.entries.isEmpty then s.sectionToFileMap.insert [] fileName
    else s.sectionToFileMap
  { s with sectionToFileMap := map.insert sectionName fileName }

/-- The loop of `LoadFromFile` over the entries of the section. -/
def setAttributes (floats : FloatText) (s : ConfigState) (entries : List (Bytes × Value)) :
    ConfigState :=
  entries.foldl (fun s p ↦ (setAttribute floats s p.1 p.2 true).2) s

/-- `LoadFromFile`, with the exception it throws. -/
def loadFromFile (floats : FloatText) (files : Files) (s : ConfigState)
    (fileName sectionName : Bytes) : ConfigState × Option LoadError :=
  let s := setOutputFile s fileName sectionName
  match files fileName with
  | none => (s, some .fileNotFound)
  | some content =>
    let object := readFrom floats content
    if !object.isHash then (s, some .parsing)
    else
      match object.hashGet sectionName with
      | .hash entries =>
        let s := setAttributes floats s entries
        (s, if loadImageConfig floats s then none else some .imageConfig)
      | _ => (s, some .sectionNotFound)

/-- The overload of `LoadFromFile` that reports failure by its result. -/
def tryLoadFromFile (floats : FloatText) (files : Files) (s : ConfigState)
    (fileName sectionName : Bytes) : ConfigState × Bool :=
  let (s, error) := loadFromFile floats files s fileName sectionName
  (s, error.isNone)

/-- What that overload prints. -/
def loadOutput (floats : FloatText) (files : Files) (s : ConfigState) (fileName sectionName : Bytes)
    (verbose : Bool) : Bytes :=
  match (loadFromFile floats files s fileName sectionName).2 with
  | some error => if verbose then error.what fileName sectionName else []
  | none => []

/-- The file `Save` writes a section to. -/
def fileOf (s : ConfigState) (sectionName : Bytes) : Option Bytes :=
  (s.sectionToFileMap.find? sectionName).or (s.sectionToFileMap.find? [])

/-- The object `Save` starts from: what the file holds, if that is a hash. -/
def savedObject (floats : FloatText) (files : Files) (fileName : Bytes) : Value :=
  let object := match files fileName with
    | some content => readFrom floats content
    | none => null
  if object.isHash then object else hash []

/-- The value of the section. With `toDefault` it is an object of the type of `AttributeMap`, which
the constructor template of `Value` takes as it is. -/
def sectionValue (s : ConfigState) (toDefault : Bool) : Value :=
  if toDefault then foreign "std::map<std::string, Config::Attribute>"
  else hash s.modifiedMap.entries

/-- `Save`, with its result: the new content goes to a temporary file that is then renamed. -/
def save (floats : FloatText) (files : Files) (s : ConfigState) (sectionName : Bytes)
    (toDefault : Bool) : Bool × Files :=
  if !s.modifiedMap.entries.isEmpty || toDefault then
    match fileOf s sectionName with
    | none => (false, files)
    | some fileName =>
      let object := savedObject floats files fileName
      let object := (object.hashSet sectionName (sectionValue s toDefault)).1
      let files := Function.update files (fileName ++ ascii ".tmp") none
      (true, Function.update files fileName (some (object.toJSON floats false true)))
  else (false, files)

end Touchless.Config
