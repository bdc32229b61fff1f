import Touchless.Configuration.ConfigSave
import Touchless.Foundations.Utf8

/-!
# What survives a restart

The user changes an attribute, the program saves its configuration, and the next start of the
program loads it. What survives is what `SetAttribute` has put into `ModifiedMap`, and it puts the
user's value there only if that differs from the current one. A value the user confirms after the
program itself has set it is therefore not recorded: `restored_iff` says exactly when the user's
last value is back after a restart.

A recorded object of a type the class has no case for is not written. Among the later elements of an
array the reader does not miss it, but anywhere else the whole file cannot be read, and all
attributes are back at their defaults (`Readable`).

Only the text of a value counts, since the class compares values by their JSON text.
-/

namespace Touchless.Config

open Value AccessType

/-- A call of `SetAttribute`. -/
structure SetCall where
  attributeName : Bytes
  value : Value
  userSpecified : Bool

variable {floats : FloatText} {options : BuildOptions} {s r : ConfigState} {a : Bytes}
variable {P : Value → Prop}

/-- The state after a sequence of calls. -/
def runCalls (floats : FloatText) (s : ConfigState) (calls : List SetCall) : ConfigState :=
  calls.foldl (fun s c ↦ (setAttribute floats s c.attributeName c.value c.userSpecified).2) s

/-- The next start of the program: the defaults, and then the file. -/
def restart (floats : FloatText) (options : BuildOptions) (files : Files) (s : ConfigState)
    (fileName sectionName : Bytes) : ConfigState :=
  (loadFromFile floats files (initializeDefaults options s) fileName sectionName).1

/-- A value without floating-point numbers and NUL. There may be objects in it of a type the class
has no case for, as the program itself stores them. -/
def Settable (value : Value) : Prop := value.FloatFree ∧ value.NulFree ∧ value.Ordered

instance (value : Value) : Decidable (Settable value) := inferInstanceAs (Decidable (_ ∧ _ ∧ _))

/-- A value that JSON text carries exactly: no floating-point number, no foreign object, no NUL. -/
def Plain (value : Value) : Prop := value.Exact ∧ value.NulFree ∧ value.Ordered

instance (value : Value) : Decidable (Plain value) := inferInstanceAs (Decidable (_ ∧ _ ∧ _))

theorem plain_iff {value : Value} : Plain value ↔ Settable value ∧ value.ForeignFree := by
  rw [Plain, Settable, exact_iff]
  tauto

/-- What is left of a value in its text is plain. -/
theorem Settable.plain_known {value : Value} (h : Settable value)
    (hlegible : value.legible = true) : Plain value.known :=
  plain_iff.2 ⟨⟨everywhere_known keepsShape_floatFreeType value h.1,
    everywhere_known keepsShape_nulFreeText value h.2.1,
    everywhere_known keepsShape_orderedEntries value h.2.2⟩, foreignFree_known value hlegible⟩

/-- The text by which the class compares values. -/
abbrev textOf (floats : FloatText) (value : Value) : Bytes := value.toJSON floats true false

theorem equal_iff {value other : Value} :
    value.equal floats other = true ↔ textOf floats value = textOf floats other := by
  simp [equal]

/-! ### One call of `SetAttribute` -/

section SetAttribute

variable {name : Bytes} {value : Value} {userSpecified : Bool}

/-- **The spec of `SetAttribute`**: the call changes nothing, or it changes the value of its own
attribute, and then records it if the user has specified it. -/
theorem setAttribute_cases (floats : FloatText) (s : ConfigState) (name : Bytes) (value : Value)
    (userSpecified : Bool) :
    (setAttribute floats s name value userSpecified).2 = s ∨
      ∃ found, s.attributeMap.find? name = some found ∧
        (userSpecified = true → found.accessType = writeAlways) ∧
        (setAttribute floats s name value userSpecified).2 =
          { s with
            attributeMap := s.attributeMap.insert name { found with value := value }
            modifiedMap := if userSpecified then s.modifiedMap.insert name value
              else s.modifiedMap } := by
  rw [setAttribute]
  cases hfound : s.attributeMap.find? name with
  | none => exact Or.inl rfl
  | some found =>
    dsimp only
    -- the tests in their order; only after the last one the value is set
    by_cases hread : found.accessType = readOnly
    · rw [if_pos hread]
      exact Or.inl rfl
    by_cases hpublic : found.accessType = writeNoPublic ∧ userSpecified = true
    · rw [if_neg hread, if_pos hpublic]
      exact Or.inl rfl
    by_cases hequal : found.value.equal floats value = true
    · rw [if_neg hread, if_neg hpublic, if_pos hequal]
      exact Or.inl rfl
    · rw [if_neg hread, if_neg hpublic, if_neg hequal]
      refine Or.inr ⟨found, rfl, fun huser ↦ ?_, rfl⟩
      cases haccess : found.accessType with
      | readOnly => exact absurd haccess hread
      | writeNoPublic => exact absurd ⟨haccess, huser⟩ hpublic
      | writeAlways => rfl

/-- Another attribute is untouched. -/
theorem setAttribute_of_ne (floats : FloatText) (s : ConfigState) (value : Value)
    (userSpecified : Bool) (h : a ≠ name) :
    (setAttribute floats s name value userSpecified).2.attributeMap.find? a =
        s.attributeMap.find? a ∧
      (setAttribute floats s name value userSpecified).2.modifiedMap.find? a =
        s.modifiedMap.find? a := by
  rcases setAttribute_cases floats s name value userSpecified with hsame | ⟨found, -, -, hset⟩
  · rw [hsame]
    exact ⟨rfl, rfl⟩
  · rw [hset]
    refine ⟨OrderedMap.find?_insert_of_ne _ h _, ?_⟩
    dsimp only
    split_ifs
    · exact OrderedMap.find?_insert_of_ne _ h _
    · rfl

/-- No access type changes, and no attribute comes or goes. -/
theorem accessType_setAttribute (floats : FloatText) (s : ConfigState) (name : Bytes)
    (value : Value) (userSpecified : Bool) (a : Bytes) :
    ((setAttribute floats s name value userSpecified).2.attributeMap.find? a).map
        Attribute.accessType = (s.attributeMap.find? a).map Attribute.accessType := by
  rcases setAttribute_cases floats s name value userSpecified with hsame | ⟨found, hfound, -, hset⟩
  · rw [hsame]
  · rw [hset]
    simp only [OrderedMap.find?_insert]
    split_ifs with h
    · rw [h, hfound]
      rfl
    · rfl

/-- A user's call that succeeds finds the attribute writable. -/
theorem setAttribute_eq_true (h : (setAttribute floats s name value true).1 = true) :
    ∃ found, s.attributeMap.find? name = some found ∧ found.accessType = writeAlways := by
  rw [setAttribute] at h
  cases hfound : s.attributeMap.find? name with
  | none => simp [hfound] at h
  | some found =>
    refine ⟨found, rfl, ?_⟩
    cases haccess : found.accessType with
    | readOnly => simp [hfound, haccess] at h
    | writeNoPublic => simp [hfound, haccess] at h
    | writeAlways => rfl

/-- A call on a writable attribute that has the text of the argument already. -/
theorem setAttribute_same {found : Attribute} (hfound : s.attributeMap.find? name = some found)
    (haccess : found.accessType = writeAlways) (hequal : found.value.equal floats value = true) :
    setAttribute floats s name value userSpecified = (true, s) := by
  simp only [setAttribute, hfound, haccess, reduceCtorEq, false_and, if_false, hequal, if_true]

/-- A call on a writable attribute with another text. -/
theorem setAttribute_new {found : Attribute} (hfound : s.attributeMap.find? name = some found)
    (haccess : found.accessType = writeAlways) (hequal : found.value.equal floats value = false) :
    setAttribute floats s name value userSpecified =
      (true, { s with
        attributeMap := s.attributeMap.insert name ⟨value, writeAlways⟩
        modifiedMap := if userSpecified then s.modifiedMap.insert name value
          else s.modifiedMap }) := by
  simp only [setAttribute, hfound, haccess, reduceCtorEq, false_and, if_false, hequal,
    Bool.false_eq_true]

/-- A user's call on a writable attribute leaves a value with the text of its argument, and records
it exactly if the text is new. -/
theorem setAttribute_writable (floats : FloatText) (value : Value) {found : Attribute}
    (hfound : s.attributeMap.find? name = some found) (haccess : found.accessType = writeAlways) :
    (∃ w, (setAttribute floats s name value true).2.attributeMap.find? name =
        some ⟨w, writeAlways⟩ ∧ textOf floats w = textOf floats value) ∧
      (setAttribute floats s name value true).2.modifiedMap.find? name =
        if found.value.equal floats value then s.modifiedMap.find? name else some value := by
  cases hequal : found.value.equal floats value with
  | true =>
    rw [setAttribute_same hfound haccess hequal]
    exact ⟨⟨found.value, by rw [hfound, ← haccess], equal_iff.1 hequal⟩, rfl⟩
  | false =>
    rw [setAttribute_new hfound haccess hequal]
    exact ⟨⟨value, OrderedMap.find?_insert_self _ _ _, rfl⟩, OrderedMap.find?_insert_self _ _ _⟩

end SetAttribute

/-! ### The defaults -/

/-- A name without a NUL is one whose bytes are all ASCII and not NUL. -/
theorem nulFree_ascii {name : String}
    (h : name.toByteArray.data.toList.all (fun b ↦ b != 0 && b < 0x80) = true) :
    0 ∉ ascii name := by
  have hbytes : ∀ c ∈ name.toList, ∀ b ∈ String.utf8EncodeChar c, b ≠ 0 ∧ b < 0x80 := by
    intro c hc b hb
    have hmem : b ∈ name.toByteArray.data.toList := by
      rw [← String.utf8Encode_toList, List.utf8Encode, List.data_toByteArray]
      exact List.mem_flatMap.2 ⟨c, hc, hb⟩
    simpa using List.all_eq_true.1 h b hmem
  intro hzero
  obtain ⟨c, hc, hcode⟩ := List.mem_map.1 hzero
  rcases Nat.lt_or_ge 0x7F c.toNat with hhigh | hlow
  · obtain ⟨b, hb⟩ := List.exists_mem_of_ne_nil _ (String.utf8EncodeChar_ne_nil (c := c))
    exact absurd (Utf8.le_of_mem_encode hhigh hb) (Nat.not_le.2 (hbytes c hc b hb).2)
  · have hbyte : UInt8.ofNat c.toNat ∈ String.utf8EncodeChar c := by
      rw [Utf8.encode1 hlow]
      exact List.mem_singleton_self _
    exact (hbytes c hc _ hbyte).1 hcode
/-- No default attribute has a NUL in its name. -/
theorem nulFree_defaultAttributes (options : BuildOptions) :
    ∀ d ∈ defaultAttributes options, 0 ∉ d.1 := by
  have hfixed : ∀ d ∈ cameraDefaults ++ filteringDefaults ++ interactionDefaults,
      d.1.toByteArray.data.toList.all (fun b ↦ b != 0 && b < 0x80) = true := by decide +kernel
  have hscreens : ∀ d ∈ screenDefaults, 0 ∉ d.1 := by decide +kernel
  intro d hd
  simp only [defaultAttributes, List.mem_append, List.mem_map] at hd
  rcases hd with (⟨e, he, rfl⟩ | hd) | ⟨e, he, rfl⟩
  · rcases he with he | he
    · exact nulFree_ascii (hfixed e (List.mem_append.2 (he.imp_left List.mem_append.2)))
    · simp only [updateDefaults, List.mem_cons, List.not_mem_nil, or_false] at he
      have hnames : 0 ∉ ascii "auto_check_updates" ∧ 0 ∉ ascii "force_accept_updates" := by
        decide +kernel
      rcases he with rfl | rfl
      · dsimp only
        exact hnames.1
      · dsimp only
        exact hnames.2
  · exact hscreens d hd
  · rw [languageDefaults] at he
    split_ifs at he
    · rw [List.mem_singleton.1 he]
      have hname : 0 ∉ ascii "display_language" := by decide +kernel
      dsimp only
      exact hname
    · simp at he

/-- The attributes after `InitializeDefaults` do not depend on the state before. -/
theorem attributeMap_initializeDefaults (options : BuildOptions) (s r : ConfigState) :
    (initializeDefaults options s).attributeMap = (initializeDefaults options r).attributeMap := by
  have hfold : ∀ (ds : List (Bytes × Value × AccessType)) (s r : ConfigState),
      s.attributeMap = r.attributeMap →
      (ds.foldl (fun s d ↦ createAttribute s d.1 d.2.1 d.2.2) s).attributeMap =
        (ds.foldl (fun s d ↦ createAttribute s d.1 d.2.1 d.2.2) r).attributeMap := by
    intro ds
    induction ds with
    | nil => exact fun s r h ↦ h
    | cons d ds ih =>
      intro s r h
      exact ih _ _ (by simp only [createAttribute, h])
  exact hfold _ _ _ rfl

/-- The last call for a name decides. -/
theorem find?_foldl_createAttribute (a : Bytes) (ds : List (Bytes × Value × AccessType)) :
    ∀ s : ConfigState,
      (ds.foldl (fun s d ↦ createAttribute s d.1 d.2.1 d.2.2) s).attributeMap.find? a =
        ((ds.reverse.find? fun d ↦ d.1 = a).map fun d ↦ ⟨d.2.1, d.2.2⟩).or
          (s.attributeMap.find? a) := by
  induction ds with
  | nil => exact fun s ↦ rfl
  | cons d ds ih =>
    intro s
    rw [List.foldl_cons, ih, createAttribute, OrderedMap.find?_insert, List.reverse_cons,
      List.find?_append]
    cases hfind : ds.reverse.find? fun d ↦ d.1 = a with
    | some e => rfl
    | none =>
      by_cases h : a = d.1
      · simp [h]
      · simp [h, Ne.symm h]

theorem foldl_createAttribute_maps (ds : List (Bytes × Value × AccessType)) :
    ∀ s : ConfigState, (ds.foldl (fun s d ↦ createAttribute s d.1 d.2.1 d.2.2) s).modifiedMap =
        s.modifiedMap ∧
      (ds.foldl (fun s d ↦ createAttribute s d.1 d.2.1 d.2.2) s).sectionToFileMap =
        s.sectionToFileMap := by
  induction ds with
  | nil => exact fun s ↦ ⟨rfl, rfl⟩
  | cons d ds ih => exact fun s ↦ ih (createAttribute s d.1 d.2.1 d.2.2)

/-- The value and access type `InitializeDefaults` gives an attribute. -/
theorem find?_initializeDefaults (options : BuildOptions) (s : ConfigState) (a : Bytes) :
    (initializeDefaults options s).attributeMap.find? a =
      ((defaultAttributes options).reverse.find? fun d ↦ d.1 = a).map
        fun d ↦ ⟨d.2.1, d.2.2⟩ := by
  rw [initializeDefaults, find?_foldl_createAttribute, OrderedMap.find?_empty, Option.or_none]

theorem modifiedMap_initializeDefaults (options : BuildOptions) (s : ConfigState) :
    (initializeDefaults options s).modifiedMap = OrderedMap.empty :=
  (foldl_createAttribute_maps _ _).1

/-- Every attribute of the defaults has a name without NUL. -/
theorem nulFree_of_find?_initializeDefaults {a : Bytes} {found : Attribute}
    (h : (initializeDefaults options s).attributeMap.find? a = some found) : 0 ∉ a := by
  rw [find?_initializeDefaults] at h
  obtain ⟨d, hd, -⟩ := Option.map_eq_some_iff.1 h
  have hname : d.1 = a := by simpa using List.find?_some hd
  rw [← hname]
  exact nulFree_defaultAttributes options d (List.mem_reverse.1 (List.mem_of_find?_eq_some hd))

/-! ### Runs of calls -/

theorem runCalls_append (before after : List SetCall) :
    runCalls floats s (before ++ after) = runCalls floats (runCalls floats s before) after :=
  List.foldl_append

/-- No call changes the output files. -/
theorem sectionToFileMap_runCalls (calls : List SetCall) :
    ∀ s : ConfigState, (runCalls floats s calls).sectionToFileMap = s.sectionToFileMap := by
  induction calls with
  | nil => exact fun s ↦ rfl
  | cons c calls ih =>
    intro s
    refine (ih _).trans ?_
    rcases setAttribute_cases floats s c.attributeName c.value c.userSpecified with
      hsame | ⟨found, -, -, hset⟩
    · dsimp only
      rw [hsame]
    · dsimp only
      rw [hset]

/-- What holds of the configuration at all times after `InitializeDefaults`: the attributes and
their access types are those of the defaults, and only values that calls have set, all of them in
`P`, are recorded, for existing attributes. -/
structure Reached (P : Value → Prop) (options : BuildOptions) (s : ConfigState) : Prop where
  accessType : ∀ a, (s.attributeMap.find? a).map Attribute.accessType =
    ((initializeDefaults options s).attributeMap.find? a).map Attribute.accessType
  modified : ∀ a value, s.modifiedMap.find? a = some value →
    P value ∧ (s.attributeMap.find? a).isSome = true

theorem reached_initializeDefaults (P : Value → Prop) (options : BuildOptions) (s : ConfigState) :
    Reached P options (initializeDefaults options s) where
  accessType a := by
    rw [attributeMap_initializeDefaults options (initializeDefaults options s) s]
  modified a value h := by
    rw [modifiedMap_initializeDefaults] at h
    simp at h

theorem Reached.mono {Q : Value → Prop} (h : Reached P options s)
    (hPQ : ∀ value, P value → Q value) : Reached Q options s :=
  ⟨h.accessType, fun a value hvalue ↦ (h.modified a value hvalue).imp_left (hPQ value)⟩

/-- **One call** keeps the configuration in order. -/
theorem Reached.setAttribute (h : Reached P options s) {name : Bytes} {value : Value}
    (hvalue : P value) (userSpecified : Bool) :
    Reached P options (setAttribute floats s name value userSpecified).2 where
  accessType a := by
    rw [accessType_setAttribute, h.accessType a,
      attributeMap_initializeDefaults options s (Config.setAttribute floats s name value _).2]
  modified a v hv := by
    have hsome : ∀ b, ((Config.setAttribute floats s name value userSpecified).2.attributeMap.find?
        b).isSome = (s.attributeMap.find? b).isSome := fun b ↦ by
      simpa using congrArg Option.isSome
        (accessType_setAttribute floats s name value userSpecified b)
    rw [hsome]
    rcases setAttribute_cases floats s name value userSpecified
      with hsame | ⟨found, hfound, -, hset⟩
    · exact h.modified a v (hsame ▸ hv)
    · rw [hset] at hv
      dsimp only at hv
      split_ifs at hv
      · rw [OrderedMap.find?_insert] at hv
        split_ifs at hv with ha
        · obtain rfl := Option.some.inj hv
          exact ⟨hvalue, by rw [ha, hfound]; rfl⟩
        · exact h.modified a v hv
      · exact h.modified a v hv

/-- **A sequence of calls** keeps the configuration in order. -/
theorem Reached.runCalls {calls : List SetCall} (hcalls : ∀ c ∈ calls, P c.value) :
    ∀ {s : ConfigState}, Reached P options s → Reached P options (runCalls floats s calls) := by
  induction calls with
  | nil => exact fun h ↦ h
  | cons c calls ih =>
    intro s h
    exact ih (fun c' hc' ↦ hcalls c' (List.mem_cons_of_mem c hc'))
      (h.setAttribute (hcalls c List.mem_cons_self) c.userSpecified)

/-- Calls on other attributes leave an attribute and its record alone. -/
theorem runCalls_of_ne (floats : FloatText) {calls : List SetCall}
    (h : ∀ c ∈ calls, c.attributeName ≠ a) :
    ∀ s, (runCalls floats s calls).attributeMap.find? a = s.attributeMap.find? a ∧
      (runCalls floats s calls).modifiedMap.find? a = s.modifiedMap.find? a := by
  induction calls with
  | nil => exact fun s ↦ ⟨rfl, rfl⟩
  | cons c calls ih =>
    intro s
    obtain ⟨hfind, hmodified⟩ := ih (fun c' hc' ↦ h c' (List.mem_cons_of_mem c hc'))
      (setAttribute floats s c.attributeName c.value c.userSpecified).2
    obtain ⟨hfind', hmodified'⟩ :=
      setAttribute_of_ne floats s c.value c.userSpecified (h c List.mem_cons_self).symm
    exact ⟨hfind.trans hfind', hmodified.trans hmodified'⟩

/-! ### Loading -/

/-- Loading entries that do not name an attribute leaves it alone. -/
theorem setAttributes_of_not_mem (floats : FloatText) {entries : List (Bytes × Value)}
    (h : ∀ e ∈ entries, e.1 ≠ a) :
    ∀ s, (setAttributes floats s entries).attributeMap.find? a = s.attributeMap.find? a := by
  induction entries with
  | nil => exact fun s ↦ rfl
  | cons e entries ih =>
    intro s
    exact (ih (fun e' he' ↦ h e' (List.mem_cons_of_mem e he')) _).trans
      (setAttribute_of_ne floats s e.2 true (h e List.mem_cons_self).symm).1

/-- **Loading a section** gives a writable attribute the text the section has for it, and leaves it
at its default if the section does not name it. -/
theorem setAttributes_writable {entries : List (Bytes × Value)}
    (hsorted : SortedAssoc.Sorted entries) :
    ∀ {s : ConfigState} {found : Attribute}, s.attributeMap.find? a = some found →
      found.accessType = writeAlways →
      ∃ w, getAttribute (setAttributes floats s entries) a = some w ∧
        textOf floats w =
          textOf floats ((SortedAssoc.find? a entries).getD found.value) := by
  induction entries with
  | nil =>
    intro s found hfound _
    exact ⟨found.value, by simp [getAttribute, setAttributes, hfound], rfl⟩
  | cons e entries ih =>
    obtain ⟨key, value⟩ := e
    obtain ⟨hhead, htail⟩ := SortedAssoc.sorted_cons.1 hsorted
    intro s found hfound haccess
    by_cases hkey : a = key
    · subst hkey
      obtain ⟨⟨w, hw, htext⟩, -⟩ :=
        setAttribute_writable floats value hfound haccess
      refine ⟨w, ?_, by simpa [SortedAssoc.find?_cons] using htext⟩
      -- the names are sorted, so the other entries have other names
      have hothers := setAttributes_of_not_mem floats
        (fun e' he' ↦ (hhead e' he').ne') (setAttribute floats s a value true).2
      simp only [getAttribute, setAttributes, List.foldl_cons] at hothers ⊢
      rw [hothers, hw]
      rfl
    · have hsame := (setAttribute_of_ne floats s value true hkey).1
      obtain ⟨w, hw, htext⟩ := ih htail (hsame.trans hfound) haccess
      refine ⟨w, hw, ?_⟩
      rwa [SortedAssoc.find?_cons, if_neg hkey]

/-- Naming an output file does not touch the attributes. -/
@[simp]
theorem attributeMap_setOutputFile (fileName sectionName : Bytes) :
    (setOutputFile s fileName sectionName).attributeMap = s.attributeMap := rfl

/-- A hash inside an ordered hash is sorted. -/
theorem sorted_hashGet {object entries : List (Bytes × Value)} {key : Bytes}
    (h : (hash object).Ordered) (hget : (hash object).hashGet key = hash entries) :
    SortedAssoc.Sorted entries := by
  simp only [Ordered, everywhere, orderedEntries, Bool.and_eq_true, decide_eq_true_eq,
    everywhereEntries_iff] at h
  rw [hashGet] at hget
  cases hfind : SortedAssoc.find? key object with
  | none => simp [hfind] at hget
  | some v =>
    have hv := h.2 _ (SortedAssoc.mem_of_find? hfind)
    rw [hfind, Option.getD_some] at hget
    rw [hget] at hv
    simp only [everywhere, orderedEntries, Bool.and_eq_true, decide_eq_true_eq] at hv
    exact hv.1

/-- The value a file has for an attribute under a section, if it has one. -/
def valueInFile (floats : FloatText) (files : Files) (fileName sectionName a : Bytes) :
    Option Value :=
  match (savedObject floats files fileName).hashGet sectionName with
  | .hash entries => SortedAssoc.find? a entries
  | _ => none

/-- An attribute that loading does not reach keeps its value. -/
theorem getAttribute_setOutputFile (fileName sectionName : Bytes) {found : Attribute}
    (hfound : s.attributeMap.find? a = some found) :
    getAttribute (setOutputFile s fileName sectionName) a = some found.value := by
  rw [getAttribute, attributeMap_setOutputFile, hfound, Option.map_some]

/-- **Loading a file** gives a writable attribute the text the file has for it under the section,
and leaves it as it is if the file has none, or cannot be read. -/
theorem loadFromFile_writable (floats : FloatText) (files : Files) (fileName sectionName : Bytes)
    {found : Attribute} (hfound : s.attributeMap.find? a = some found)
    (haccess : found.accessType = writeAlways) :
    ∃ w, getAttribute (loadFromFile floats files s fileName sectionName).1 a = some w ∧
      textOf floats w =
        textOf floats ((valueInFile floats files fileName sectionName a).getD found.value) := by
  have hkept := getAttribute_setOutputFile fileName sectionName hfound
  rw [valueInFile, savedObject, loadFromFile]
  cases files fileName with
  | none => exact ⟨found.value, hkept, rfl⟩
  | some content =>
    have hordered : (readFrom floats content).Ordered := ordered_readFrom content
    obtain ⟨object, hobject⟩ : ∃ object, readFrom floats content = object := ⟨_, rfl⟩
    simp only [hobject] at hordered ⊢
    cases object with
    | hash entries =>
      simp only [isHash, Bool.not_true, Bool.false_eq_true, if_false, if_true]
      cases hget : (hash entries).hashGet sectionName with
      | hash entries' =>
        have hsorted : SortedAssoc.Sorted entries' := sorted_hashGet hordered hget
        rw [← attributeMap_setOutputFile fileName sectionName] at hfound
        exact setAttributes_writable hsorted hfound haccess
      | _ => exact ⟨found.value, hkept, rfl⟩
    | _ => exact ⟨found.value, hkept, rfl⟩

/-! ### The restart -/

variable {files : Files} {sectionName fileName : Bytes} {value : Value}

/-- The value of an attribute after `InitializeDefaults`. -/
def defaultOf (options : BuildOptions) (a : Bytes) : Option Value :=
  getAttribute (initializeDefaults options .construct) a

/-- What is recorded is a hash without floating-point numbers and NUL. -/
theorem Reached.settable_modifiedMap (h : Reached Settable options s) :
    Settable (hash s.modifiedMap.entries) := by
  have hentries : ∀ e ∈ s.modifiedMap.entries,
      Settable e.2 ∧ (s.attributeMap.find? e.1).isSome = true := fun e he ↦
    h.modified e.1 e.2 (OrderedMap.mem_entries.1 he)
  have hkeys : ∀ e ∈ s.modifiedMap.entries, 0 ∉ e.1 := by
    intro e he
    have hsome := congrArg Option.isSome (h.accessType e.1)
    rw [Option.isSome_map, Option.isSome_map, (hentries e he).2] at hsome
    obtain ⟨found, hfound⟩ := Option.isSome_iff_exists.1 hsome.symm
    exact nulFree_of_find?_initializeDefaults hfound
  refine ⟨?_, ?_, ?_⟩
  · simp only [FloatFree, everywhere, floatFreeType, Bool.true_and]
    exact everywhereEntries_iff.2 fun e he ↦ (hentries e he).1.1
  · simp only [NulFree, everywhere, nulFreeText, Bool.and_eq_true, List.all_eq_true,
      decide_eq_true_eq]
    exact ⟨hkeys, everywhereEntries_iff.2 fun e he ↦ (hentries e he).1.2.1⟩
  · simp only [Ordered, everywhere, orderedEntries, Bool.and_eq_true, decide_eq_true_eq]
    exact ⟨s.modifiedMap.sorted, everywhereEntries_iff.2 fun e he ↦ (hentries e he).1.2.2⟩

/-- Plain values are recorded in a plain hash. -/
theorem Reached.plain_modifiedMap (h : Reached Plain options s) :
    Plain (hash s.modifiedMap.entries) := by
  refine plain_iff.2 ⟨(h.mono fun _ hvalue ↦ (plain_iff.1 hvalue).1).settable_modifiedMap, ?_⟩
  simp only [ForeignFree, everywhere, foreignFreeType, Bool.true_and]
  exact everywhereEntries_iff.2 fun e he ↦
    (plain_iff.1 (h.modified e.1 e.2 (OrderedMap.mem_entries.1 he)).1).2

/-- Can the section be read back? -/
def Readable (s : ConfigState) (sectionName : Bytes) : Prop :=
  0 ∉ sectionName ∧ (hash s.modifiedMap.entries).legible = true

instance : Decidable (Readable s sectionName) := inferInstanceAs (Decidable (_ ∧ _))

/-- The other sections of a file have names that differ from that of the section also when they are
cut at their first NUL, as they are in the text. -/
def NamesApart (object : Value) (sectionName : Bytes) : Prop :=
  ∀ entries, object = hash entries → ∀ e ∈ entries, cString e.1 = sectionName → e.1 = sectionName

theorem namesApart_of_nulFree {object : Value} (h : object.NulFree) (sectionName : Bytes) :
    NamesApart object sectionName := by
  rintro entries rfl e he hcut
  simp only [NulFree, everywhere, nulFreeText, Bool.and_eq_true, List.all_eq_true,
    decide_eq_true_eq] at h
  rw [← hcut, cString_of_nulFree (h.1 e he)]

/-- What is read back under a key that no entry has. -/
theorem find?_asReadEntries_of_ne {key : Bytes} {entries : List (Bytes × Value)}
    (h : ∀ e ∈ entries, cString e.1 ≠ key) :
    ∀ done, SortedAssoc.find? key (asReadEntries entries done) = SortedAssoc.find? key done := by
  induction entries with
  | nil => exact fun done ↦ rfl
  | cons e entries ih =>
    intro done
    rw [asReadEntries, ih (fun e' he' ↦ h e' (List.mem_cons_of_mem e he'))]
    exact SortedAssoc.find?_insert_of_ne (h e List.mem_cons_self).symm _ _

/-- What is read back under a key that one entry has. -/
theorem find?_asReadEntries {key : Bytes} {value : Value} (hkey : 0 ∉ key)
    {entries : List (Bytes × Value)} (hmem : (key, value) ∈ entries)
    (hunique : ∀ e ∈ entries, cString e.1 = key → e = (key, value)) :
    ∀ done, SortedAssoc.find? key (asReadEntries entries done) = some value.asRead := by
  induction entries with
  | nil => simp at hmem
  | cons e entries ih =>
    intro done
    rw [asReadEntries]
    by_cases hlater : (key, value) ∈ entries
    · exact ih hlater (fun e' he' ↦ hunique e' (List.mem_cons_of_mem e he')) _
    · -- no later entry has the key
      have hothers : ∀ e' ∈ entries, cString e'.1 ≠ key := by
        intro e' he' hcut
        exact hlater (hunique e' (List.mem_cons_of_mem e he') hcut ▸ he')
      obtain rfl : (key, value) = e := (List.mem_cons.1 hmem).resolve_right hlater
      rw [find?_asReadEntries_of_ne hothers, cString_of_nulFree hkey]
      exact SortedAssoc.find?_insert_self _ _ _

/-- Other entries do not keep a file from being read. -/
theorem legible_insert {old : List (Bytes × Value)} (hold : (hash old).ForeignFree) (key : Bytes)
    (value : Value) : (hash (SortedAssoc.insert key value old)).legible = value.legible := by
  simp only [ForeignFree, everywhere, foreignFreeType, Bool.true_and, everywhereEntries_iff] at hold
  rw [legible, Bool.eq_iff_iff, legibleEntries_iff]
  constructor
  · exact fun hall ↦ hall _ (SortedAssoc.mem_of_find? (SortedAssoc.find?_insert_self _ _ _))
  · intro hlegible e he
    rcases SortedAssoc.mem_insert he with rfl | he
    · exact hlegible
    · exact legible_of_foreignFree e.2 (hold e he)

/-- What is read back of an inserted entry. -/
theorem find?_inserted {key : Bytes} {value : Value} {old : List (Bytes × Value)} (hkey : 0 ∉ key)
    (hold : (hash old).Ordered) (hapart : NamesApart (hash old) key) :
    SortedAssoc.find? key (asReadEntries (knownEntries (SortedAssoc.insert key value old)) []) =
      some value.known.asRead := by
  simp only [Ordered, everywhere, orderedEntries, Bool.and_eq_true, decide_eq_true_eq] at hold
  refine find?_asReadEntries hkey ?_ ?_ []
  · rw [knownEntries_eq_map]
    exact List.mem_map_of_mem (f := fun e : Bytes × Value ↦ (e.1, e.2.known))
      (SortedAssoc.mem_of_find? (SortedAssoc.find?_insert_self key value old))
  · intro e he hcut
    rw [knownEntries_eq_map] at he
    obtain ⟨entry, hentry, rfl⟩ := List.mem_map.1 he
    have hname : entry.1 = key := by
      rcases SortedAssoc.mem_insert hentry with rfl | hentry
      · rfl
      · exact hapart old rfl entry hentry hcut
    have hfind := SortedAssoc.find?_of_mem (hold.1.insert key value) hentry
    rw [hname, SortedAssoc.find?_insert_self] at hfind
    rw [hname, ← Option.some.inj hfind]

/-- What is read back of a hash. -/
theorem asRead_known_hash {entries : List (Bytes × Value)} (hnul : (hash entries).NulFree)
    (hordered : (hash entries).Ordered) :
    (hash entries).known.asRead = .hash (entries.map fun e ↦ (e.1, e.2.known.asRead)) := by
  simp only [NulFree, Ordered, everywhere, nulFreeText, orderedEntries, Bool.and_eq_true,
    List.all_eq_true, decide_eq_true_eq] at hnul hordered
  have hsorted : SortedAssoc.Sorted (entries.map fun e ↦ (e.1, e.2.known)) :=
    (SortedAssoc.sorted_map (f := fun e : Bytes × Value ↦ (e.1, e.2.known)) fun _ ↦ rfl).2
      hordered.1
  have hkeys : ∀ e ∈ entries.map fun e ↦ (e.1, e.2.known), 0 ∉ e.1 := by
    intro e he
    obtain ⟨entry, hentry, rfl⟩ := List.mem_map.1 he
    exact hnul.1 entry hentry
  rw [known, asRead, knownEntries_eq_map, asReadEntries_of_ordered hsorted hkeys, List.map_map]
  rfl

/-- What `Save` has written is read back, if the section is legible. -/
theorem readFrom_newContent (floats : FloatText) (sectionName : Bytes)
    {old : List (Bytes × Value)} (hfloat : (hash old).FloatFree)
    (hforeign : (hash old).ForeignFree) (hmodified : (hash s.modifiedMap.entries).FloatFree) :
    readFrom floats (newContent floats s sectionName false old) =
      if (hash s.modifiedMap.entries).legible then
        .hash (asReadEntries (knownEntries
          (SortedAssoc.insert sectionName (hash s.modifiedMap.entries) old)) [])
      else null := by
  rw [newContent, ← fromJSON]
  simp only [sectionValue, Bool.false_eq_true, if_false]
  rw [fromJSON_toJSON_of_floatFree (floatFree_insert sectionName hfloat hmodified),
    legible_insert hforeign, known, asRead]

/-- What the recorded values are read back as, under the name of their section. -/
theorem hashGet_newContent (floats : FloatText) (sectionName : Bytes) {old : List (Bytes × Value)}
    (hfloat : (hash old).FloatFree) (hforeign : (hash old).ForeignFree)
    (hordered : (hash old).Ordered) (hapart : NamesApart (hash old) sectionName)
    (hmodified : Settable (hash s.modifiedMap.entries)) :
    (readFrom floats (newContent floats s sectionName false old)).hashGet sectionName =
      if Readable s sectionName then
        .hash (s.modifiedMap.entries.map fun e ↦ (e.1, e.2.known.asRead))
      else null := by
  rw [readFrom_newContent floats sectionName hfloat hforeign hmodified.1]
  by_cases hlegible : (hash s.modifiedMap.entries).legible = true
  · rw [if_pos hlegible, hashGet]
    by_cases hnul : 0 ∈ sectionName
    · -- no key has a NUL when it is read
      rw [if_neg fun h : Readable s sectionName ↦ h.1 hnul]
      cases hfind : SortedAssoc.find? sectionName (asReadEntries (knownEntries
        (SortedAssoc.insert sectionName (hash s.modifiedMap.entries) old)) []) with
      | none => rfl
      | some v =>
        exact absurd hnul (nulFree_keys_asReadEntries _ _ (SortedAssoc.mem_of_find? hfind))
    · rw [if_pos ⟨hnul, hlegible⟩, find?_inserted hnul hordered hapart, Option.getD_some,
        asRead_known_hash hmodified.2.1 hmodified.2.2]
  · rw [if_neg hlegible, if_neg fun h : Readable s sectionName ↦ hlegible h.2]
    rfl

/-- What `Save` starts from is a hash as the reader builds it. -/
theorem savedObject_readerType (floats : FloatText) (files : Files) (fileName : Bytes) :
    ∃ old, savedObject floats files fileName = hash old ∧ (hash old).Ordered ∧
      (hash old).ForeignFree := by
  obtain ⟨object, hreader, hsaved⟩ : ∃ object : Value, (object.Ordered ∧ object.ForeignFree) ∧
      savedObject floats files fileName = if object.isHash then object else hash [] := by
    rw [savedObject]
    cases files fileName with
    | none => exact ⟨null, ⟨by decide, by decide⟩, rfl⟩
    | some content =>
      exact ⟨readFrom floats content, ⟨ordered_readFrom content, foreignFree_readFrom content⟩, rfl⟩
  rw [hsaved]
  cases hcase : object with
  | hash old => exact ⟨old, rfl, hcase ▸ hreader.1, hcase ▸ hreader.2⟩
  | _ => exact ⟨[], rfl, by decide, by decide⟩

/-- What a restart finds is what `Save` was given: the file has what is known of the recorded value
of an attribute, or none if the section cannot be read back. -/
theorem valueInFile_save (hs : Reached Settable options s)
    (holdFloat : (savedObject floats files fileName).FloatFree)
    (hapart : NamesApart (savedObject floats files fileName) sectionName)
    (hfile : fileOf s sectionName = some fileName) (hrecorded : s.modifiedMap.entries ≠ []) :
    valueInFile floats (save floats files s sectionName false).2 fileName sectionName a =
      if Readable s sectionName then (s.modifiedMap.find? a).map fun v ↦ v.known.asRead
      else none := by
  obtain ⟨old, hobject, hordered, hforeign⟩ := savedObject_readerType floats files fileName
  rw [hobject] at holdFloat hapart
  have hget := hashGet_newContent floats sectionName holdFloat hforeign hordered hapart
    hs.settable_modifiedMap
  have hcontent : (save floats files s sectionName false).2 fileName =
      some (newContent floats s sectionName false old) := by
    have hsome : (!s.modifiedMap.entries.isEmpty || false) = true := by simpa using hrecorded
    rw [save, if_pos hsome, hfile]
    dsimp only
    rw [Function.update_self, hobject]
    rfl
  have hobject' : ∀ object : Value,
      (if object.isHash then object else .hash []).hashGet sectionName =
        object.hashGet sectionName := by
    intro object
    cases object <;> rfl
  rw [valueInFile, savedObject, hcontent]
  dsimp only
  rw [hobject', hget]
  split_ifs
  · exact SortedAssoc.find?_map_snd (fun v ↦ v.known.asRead) a s.modifiedMap.entries
  · rfl

/-- Without a recorded value `Save` writes nothing. -/
theorem save_of_nothing (hrecorded : s.modifiedMap.entries = []) :
    (save floats files s sectionName false).2 = files := by
  simp [save, hrecorded]

/-- The attributes are there again after the defaults of a restart, with their default values. -/
theorem Reached.restarted (hs : Reached P options s) {found : Attribute}
    (hfound : s.attributeMap.find? a = some found) (haccess : found.accessType = writeAlways)
    (r : ConfigState) :
    ∃ default, (initializeDefaults options r).attributeMap.find? a = some default ∧
      default.accessType = writeAlways ∧ defaultOf options a = some default.value := by
  have haccess' := hs.accessType a
  rw [hfound, Option.map_some, haccess, attributeMap_initializeDefaults options s r] at haccess'
  obtain ⟨default, hdefault, hwritable⟩ := Option.map_eq_some_iff.1 haccess'.symm
  refine ⟨default, hdefault, hwritable, ?_⟩
  rw [defaultOf, getAttribute, attributeMap_initializeDefaults options .construct r, hdefault,
    Option.map_some]

/-- **After a restart** from a file with recorded values, a writable attribute has the text of what
is known of the value recorded for it, or that of its default if nothing was, or if the section
cannot be read back. -/
theorem restart_textOf (hs : Reached Settable options s)
    (holdFloat : (savedObject floats files fileName).FloatFree)
    (hapart : NamesApart (savedObject floats files fileName) sectionName)
    (hfile : fileOf s sectionName = some fileName) (hrecorded : s.modifiedMap.entries ≠ [])
    {found : Attribute} (hfound : s.attributeMap.find? a = some found)
    (haccess : found.accessType = writeAlways) (r : ConfigState) :
    ∃ w d, getAttribute (restart floats options (save floats files s sectionName false).2 r fileName
        sectionName) a = some w ∧ defaultOf options a = some d ∧
      textOf floats w = textOf floats
        (if Readable s sectionName then ((s.modifiedMap.find? a).map known).getD d else d) := by
  obtain ⟨default, hdefault, hwritable, hd⟩ := hs.restarted hfound haccess r
  obtain ⟨w, hw, htext⟩ := loadFromFile_writable floats (save floats files s sectionName false).2
    fileName sectionName hdefault hwritable
  refine ⟨w, default.value, hw, hd, ?_⟩
  rw [htext, valueInFile_save hs holdFloat hapart hfile hrecorded]
  split_ifs with hreadable
  · cases hrecord : s.modifiedMap.find? a with
    | none => rfl
    | some m =>
      have hlegible := hreadable.2
      rw [legible, legibleEntries_iff] at hlegible
      obtain ⟨hexact, hnulFree, hordered⟩ :=
        (hs.modified a m hrecord).1.plain_known (hlegible (a, m) (OrderedMap.mem_entries.2 hrecord))
      exact (toJSON_of_same (sameUpToKind_asRead m.known hexact hnulFree hordered) true false).symm
  · rfl

/-- Of plain values nothing is lost. -/
theorem Reached.restart_textOf_plain (hs : Reached Plain options s)
    (holdFloat : (savedObject floats files fileName).FloatFree)
    (hapart : NamesApart (savedObject floats files fileName) sectionName)
    (hfile : fileOf s sectionName = some fileName) (hsection : 0 ∉ sectionName)
    (hrecorded : s.modifiedMap.entries ≠ []) {found : Attribute}
    (hfound : s.attributeMap.find? a = some found) (haccess : found.accessType = writeAlways)
    (r : ConfigState) :
    ∃ w d, getAttribute (restart floats options (save floats files s sectionName false).2 r fileName
        sectionName) a = some w ∧ defaultOf options a = some d ∧
      textOf floats w = textOf floats ((s.modifiedMap.find? a).getD d) := by
  obtain ⟨w, d, hw, hd, htext⟩ := restart_textOf (hs.mono fun _ h ↦ (plain_iff.1 h).1) holdFloat
    hapart hfile hrecorded hfound haccess r
  have hreadable : Readable s sectionName :=
    ⟨hsection, legible_of_foreignFree _ (plain_iff.1 hs.plain_modifiedMap).2⟩
  refine ⟨w, d, hw, hd, ?_⟩
  rw [htext, if_pos hreadable]
  cases hrecord : s.modifiedMap.find? a with
  | none => rfl
  | some m =>
    rw [Option.map_some, known_of_foreignFree m (plain_iff.1 (hs.modified a m hrecord).1).2]

/-- When the user's call `SetAttribute(a, value, true)` in the state `s` will survive a restart from
what is recorded in the end. If nothing is, `Save` does nothing, and the value is the one the file
had already, or the default. A section that cannot be read back keeps nothing but the defaults. In
one that can, the value is new, or it is what is known of the one recorded before, or it is the
default and nothing was recorded for `a`. -/
def Survives (floats : FloatText) (options : BuildOptions) (files : Files)
    (fileName sectionName : Bytes) (last s : ConfigState) (a : Bytes) (value : Value) : Prop :=
  if last.modifiedMap.entries = [] then
    ∃ w, (valueInFile floats files fileName sectionName a).or (defaultOf options a) = some w ∧
      w.equal floats value = true
  else if Readable last sectionName then
    ∀ current, getAttribute s a = some current → current.equal floats value = true →
      ∃ w, ((s.modifiedMap.find? a).map known).or (defaultOf options a) = some w ∧
        w.equal floats value = true
  else ∃ d, defaultOf options a = some d ∧ d.equal floats value = true

/-- **What survives a restart.** After `InitializeDefaults` and any calls of `SetAttribute`, let the
user's call on `a` succeed and no later call touch `a`. After `Save` and a restart, `a` has the
user's value exactly if `Survives` held of the user's call. -/
theorem restored_iff (s₀ r : ConfigState) (before after : List SetCall)
    (hcalls : ∀ c ∈ before ++ after, Settable c.value) (hvalue : Plain value)
    (hset : (setAttribute floats (runCalls floats (initializeDefaults options s₀) before)
      a value true).1 = true)
    (hafter : ∀ c ∈ after, c.attributeName ≠ a)
    (hs : s = runCalls floats (initializeDefaults options s₀) (before ++ ⟨a, value, true⟩ :: after))
    (holdFloat : (savedObject floats files fileName).FloatFree)
    (hapart : NamesApart (savedObject floats files fileName) sectionName)
    (hfile : fileOf s sectionName = some fileName) :
    (∃ w, getAttribute (restart floats options (save floats files s sectionName false).2 r fileName
        sectionName) a = some w ∧ w.equal floats value = true) ↔
      Survives floats options files fileName sectionName s
        (runCalls floats (initializeDefaults options s₀) before) a value := by
  set s₁ := runCalls floats (initializeDefaults options s₀) before with hs₁
  have hsplit : s = runCalls floats (setAttribute floats s₁ a value true).2 after := by
    rw [hs, hs₁, runCalls_append]
    rfl
  have hreached : Reached Settable options s := by
    rw [hs]
    refine Reached.runCalls (fun c hc ↦ ?_) (reached_initializeDefaults Settable options s₀)
    rcases List.mem_append.1 hc with hc | hc
    · exact hcalls c (List.mem_append_left _ hc)
    · rcases List.mem_cons.1 hc with rfl | hc
      · exact (plain_iff.1 hvalue).1
      · exact hcalls c (List.mem_append_right _ hc)
  -- the user's call stores the value, and no later one touches it
  obtain ⟨found, hfound, haccess⟩ := setAttribute_eq_true hset
  obtain ⟨⟨w₁, hw₁, -⟩, hrecord⟩ :=
    setAttribute_writable floats value hfound haccess
  obtain ⟨hfind, hmodified⟩ := runCalls_of_ne floats hafter
    (setAttribute floats s₁ a value true).2
  rw [← hsplit] at hfind hmodified
  rw [hrecord] at hmodified
  have hcurrent : getAttribute s₁ a = some found.value := by
    rw [getAttribute, hfound, Option.map_some]
  have hrestored : ∀ {files' w},
      getAttribute (restart floats options files' r fileName sectionName) a =
        some w → ((∃ w, getAttribute (restart floats options files' r fileName sectionName) a =
          some w ∧
        w.equal floats value = true) ↔ textOf floats w = textOf floats value) := by
    intro files' w hw
    simp only [hw, Option.some.injEq, exists_eq_left', equal_iff]
  rw [Survives, hcurrent]
  by_cases hrecorded : s.modifiedMap.entries = []
  · -- nothing is recorded: the restart reads the file as it was
    obtain ⟨default, hdefault, hwritable, hd⟩ := hreached.restarted (hfind.trans hw₁) rfl r
    obtain ⟨w, hw, htext⟩ :=
      loadFromFile_writable floats files fileName sectionName hdefault hwritable
    rw [save_of_nothing hrecorded, hrestored hw, htext, hd, if_pos hrecorded]
    cases valueInFile floats files fileName sectionName a <;> simp [equal_iff]
  · obtain ⟨w, d, hw, hd, htext⟩ :=
      restart_textOf hreached holdFloat hapart hfile hrecorded (hfind.trans hw₁) rfl r
    rw [hrestored hw, htext, hd, hmodified, if_neg hrecorded]
    by_cases hreadable : Readable s sectionName
    · simp only [if_pos hreadable, Option.some.injEq, forall_eq']
      -- a value that is not new is not recorded by this call, but may have been before
      cases hequal : found.value.equal floats value with
      | false => simp [known_of_foreignFree value (plain_iff.1 hvalue).2]
      | true =>
        cases s₁.modifiedMap.find? a with
        | none => simp [equal_iff]
        | some m => simp [equal_iff]
    · simp only [if_neg hreadable, Option.some.injEq, exists_eq_left', equal_iff]

/-- The configuration lives in one file. -/
def outputState : ConfigState :=
  setOutputFile .construct (ascii "config.json") (ascii "configuration")

theorem fileOf_outputState (options : BuildOptions) (calls : List SetCall) :
    fileOf (runCalls floats (initializeDefaults options outputState) calls)
      (ascii "configuration") = some (ascii "config.json") := by
  rw [fileOf, sectionToFileMap_runCalls, initializeDefaults, (foldl_createAttribute_maps _ _).2]
  decide +kernel

theorem find?_updateDefaults (s : ConfigState) :
    (initializeDefaults ⟨false, false⟩ s).attributeMap.find? (ascii "auto_check_updates") =
        some ⟨bool true, writeAlways⟩ ∧
      (initializeDefaults ⟨false, false⟩ s).attributeMap.find? (ascii "force_accept_updates") =
        some ⟨bool false, writeAlways⟩ := by
  rw [find?_initializeDefaults, find?_initializeDefaults]
  exact ⟨rfl, rfl⟩

/-- All enumeration constants have the same text, so a call with another one changes nothing. -/
theorem setAttribute_interactionMode (s : ConfigState) (typeName : String) (userSpecified : Bool) :
    setAttribute noFloatText (initializeDefaults ⟨false, false⟩ s) (ascii "os_interaction_mode")
      (foreign typeName) userSpecified = (true, initializeDefaults ⟨false, false⟩ s) := by
  have hdefault : (((defaultAttributes ⟨false, false⟩).reverse.find?
      fun d ↦ d.1 = ascii "os_interaction_mode").map
        fun d ↦ (d.2.2, foreignFreeType d.2.1)) = some (writeAlways, false) := by decide +kernel
  obtain ⟨d, hd, heq⟩ := Option.map_eq_some_iff.1 hdefault
  obtain ⟨haccess, hforeign⟩ := Prod.mk.inj heq
  obtain ⟨constant, hconstant⟩ := (foreignFreeType_eq_false_iff d.2.1).1 hforeign
  have hfound := find?_initializeDefaults ⟨false, false⟩ s (ascii "os_interaction_mode")
  rw [hd, Option.map_some, hconstant] at hfound
  exact setAttribute_same hfound haccess (equal_iff.2 rfl)

/-- What the user changes is recorded. -/
theorem modifiedMap_twoChanges {name other : Bytes} {value old value' old' : Value}
    (hne : other ≠ name) (hname : s.attributeMap.find? name = some ⟨old, writeAlways⟩)
    (hother : s.attributeMap.find? other = some ⟨old', writeAlways⟩)
    (hold : old.equal floats value = false) (hold' : old'.equal floats value' = false) :
    (runCalls floats s [⟨name, value, true⟩, ⟨other, value', true⟩]).modifiedMap =
      (s.modifiedMap.insert name value).insert other value' := by
  have hfirst : runCalls floats s [⟨name, value, true⟩] =
      { s with
        attributeMap := s.attributeMap.insert name ⟨value, writeAlways⟩
        modifiedMap := s.modifiedMap.insert name value } := by
    rw [runCalls, List.foldl_cons, List.foldl_nil, setAttribute_new hname rfl hold, if_pos rfl]
  have hother' : (runCalls floats s [⟨name, value, true⟩]).attributeMap.find? other =
      some ⟨old', writeAlways⟩ := by
    rw [hfirst]
    exact (OrderedMap.find?_insert_of_ne _ hne _).trans hother
  have hlast : runCalls floats s [⟨name, value, true⟩, ⟨other, value', true⟩] =
      (setAttribute floats (runCalls floats s [⟨name, value, true⟩]) other value' true).2 := rfl
  rw [hlast, setAttribute_new hother' rfl hold', if_pos rfl, hfirst]

/-- The program sets the interaction mode to an enumeration constant, and a user switches the update
check off and accepts forced updates. The user finds the update check off after a restart. -/
theorem restored_userSetting :
    let s := runCalls noFloatText (initializeDefaults ⟨false, false⟩ outputState)
      [⟨ascii "os_interaction_mode", foreign "Touchless::GestureInteractionMode", false⟩,
        ⟨ascii "auto_check_updates", bool false, true⟩,
        ⟨ascii "force_accept_updates", bool true, true⟩]
    ∃ w, getAttribute (restart noFloatText ⟨false, false⟩
        (save noFloatText otherFile s (ascii "configuration") false).2
        .construct (ascii "config.json") (ascii "configuration")) (ascii "auto_check_updates") =
          some w ∧
      w.equal noFloatText (bool false) = true := by
  intro s
  have hnew : (bool true).equal noFloatText (bool false) = false ∧
      (bool false).equal noFloatText (bool true) = false :=
    ⟨by decide +kernel, by decide +kernel⟩
  have hnames : ascii "force_accept_updates" ≠ ascii "auto_check_updates" := by decide +kernel
  obtain ⟨hauto, hforce⟩ := find?_updateDefaults outputState
  have hbefore : runCalls noFloatText (initializeDefaults ⟨false, false⟩ outputState)
      [⟨ascii "os_interaction_mode", foreign "Touchless::GestureInteractionMode", false⟩] =
        initializeDefaults ⟨false, false⟩ outputState := by
    rw [runCalls, List.foldl_cons, List.foldl_nil, setAttribute_interactionMode]
  have hset : (setAttribute noFloatText (initializeDefaults ⟨false, false⟩ outputState)
      (ascii "auto_check_updates") (bool false) true).1 = true := by
    rw [setAttribute_new hauto rfl hnew.1]
  have hrecorded : s.modifiedMap =
      (OrderedMap.empty.insert (ascii "auto_check_updates") (bool false)).insert
        (ascii "force_accept_updates") (bool true) := by
    have hlast : s = _ := runCalls_append
      [⟨ascii "os_interaction_mode", foreign "Touchless::GestureInteractionMode", false⟩]
      [⟨ascii "auto_check_updates", bool false, true⟩,
        ⟨ascii "force_accept_updates", bool true, true⟩]
    rw [hlast, hbefore, modifiedMap_twoChanges hnames hauto hforce hnew.1 hnew.2,
      modifiedMap_initializeDefaults]
  have hold := savedObject_eq (holdsObject_otherFile (ascii "config.json"))
  have hfloat : (hash otherSection).FloatFree := by decide +kernel
  have hapart : NamesApart (hash otherSection) (ascii "configuration") := by
    intro entries hentries
    obtain rfl := Value.hash.inj hentries
    decide +kernel
  rw [← hold] at hfloat hapart
  refine (restored_iff (s := s) outputState .construct
    [⟨ascii "os_interaction_mode", foreign "Touchless::GestureInteractionMode", false⟩]
    [⟨ascii "force_accept_updates", bool true, true⟩] (by decide) (by decide)
    (by rw [hbefore, hset]) (by simpa using hnames) rfl hfloat hapart
    (fileOf_outputState _ _)).2 ?_
  have hentries : s.modifiedMap.entries ≠ [] := by
    rw [hrecorded]
    decide +kernel
  have hreadable : Readable s (ascii "configuration") := by
    refine ⟨by decide +kernel, ?_⟩
    rw [hrecorded]
    decide +kernel
  rw [Survives, if_neg hentries, if_pos hreadable, hbefore]
  intro current hcurrent hsame
  rw [getAttribute, hauto] at hcurrent
  obtain rfl := Option.some.inj hcurrent
  rw [hnew.1] at hsame
  cases hsame

/-- An attribute with nothing recorded is back at its default after a restart from a file with other
recorded values. -/
theorem unrecorded_lost (hs : Reached Settable options s)
    (holdFloat : (savedObject floats files fileName).FloatFree)
    (hapart : NamesApart (savedObject floats files fileName) sectionName)
    (hfile : fileOf s sectionName = some fileName) {found : Attribute}
    (hfound : s.attributeMap.find? a = some found) (haccess : found.accessType = writeAlways)
    {other : Bytes} {value' : Value} (hne : a ≠ other)
    (hmodified : s.modifiedMap = OrderedMap.empty.insert other value') {d : Value}
    (hd : defaultOf options a = some d) (hdiffers : d.equal floats value = false)
    (r : ConfigState) :
    (save floats files s sectionName false).1 = true ∧
      ¬∃ w, getAttribute
        (restart floats options (save floats files s sectionName false).2 r fileName
        sectionName) a = some w ∧ w.equal floats value = true := by
  have hrecorded : s.modifiedMap.entries ≠ [] := by
    rw [hmodified]
    exact List.cons_ne_nil _ _
  have hunrecorded : s.modifiedMap.find? a = none := by
    rw [hmodified]
    exact OrderedMap.find?_insert_of_ne _ hne _
  constructor
  · have hsome : (!s.modifiedMap.entries.isEmpty || false) = true := by simpa using hrecorded
    simp only [save, if_pos hsome, hfile]
  · obtain ⟨w, d', hw, hd', htext⟩ :=
      restart_textOf hs holdFloat hapart hfile hrecorded hfound haccess r
    obtain rfl : d = d' := Option.some.inj (hd.symm.trans hd')
    rintro ⟨w', hw', hequal⟩
    obtain rfl : w = w' := Option.some.inj (hw.symm.trans hw')
    rw [hunrecorded, Option.map_none, Option.getD_none, ite_self, equal_iff.1 hequal] at htext
    rw [equal_iff.2 htext.symm] at hdiffers
    cases hdiffers

/-- A value that the program sets and the user then confirms is not recorded: when the user changes
another attribute afterwards, that alone is. -/
theorem confirmed_not_recorded {before after : ConfigState} {name other : Bytes}
    {value old value' old' : Value}
    (hbefore : before = runCalls floats s [⟨name, value, false⟩])
    (hafter : after = runCalls floats s
      [⟨name, value, false⟩, ⟨name, value, true⟩, ⟨other, value', true⟩])
    (hne : name ≠ other) (hname : s.attributeMap.find? name = some ⟨old, writeAlways⟩)
    (hother : s.attributeMap.find? other = some ⟨old', writeAlways⟩)
    (hold : old.equal floats value = false) (hold' : old'.equal floats value' = false) :
    (setAttribute floats before name value true).1 = true ∧
      after.attributeMap.find? name = some ⟨value, writeAlways⟩ ∧
      after.modifiedMap = s.modifiedMap.insert other value' := by
  -- the program's call changes the value and records nothing
  have hset : before =
      { s with attributeMap := s.attributeMap.insert name ⟨value, writeAlways⟩ } := by
    rw [hbefore, runCalls, List.foldl_cons, List.foldl_nil, setAttribute_new hname rfl hold,
      if_neg Bool.false_ne_true]
  have hname' : before.attributeMap.find? name = some ⟨value, writeAlways⟩ := by
    rw [hset]
    exact OrderedMap.find?_insert_self _ _ _
  have hother' : before.attributeMap.find? other = some ⟨old', writeAlways⟩ := by
    rw [hset]
    exact (OrderedMap.find?_insert_of_ne _ hne.symm _).trans hother
  -- the user's call finds the value it sets, and the last call records the other attribute
  have hconfirmed : setAttribute floats before name value true = (true, before) :=
    setAttribute_same hname' rfl (equal_iff.2 rfl)
  have hlast : after = { before with
      attributeMap := before.attributeMap.insert other ⟨value', writeAlways⟩
      modifiedMap := before.modifiedMap.insert other value' } := by
    have hcalls : after = (setAttribute floats (setAttribute floats before name value true).2 other
        value' true).2 := by rw [hafter, hbefore]; rfl
    rw [hcalls, hconfirmed, setAttribute_new hother' rfl hold', if_pos rfl]
  refine ⟨congrArg Prod.fst hconfirmed, ?_, ?_⟩
  · rw [hlast]
    exact (OrderedMap.find?_insert_of_ne _ hne _).trans hname'
  · rw [hlast, hset]

/-- The program switches the update check off, and then the user does so too, and also accepts
forced updates. Both of the user's calls and `Save` succeed, and after a restart the update check is
on. -/
theorem restored_confirmedSetting_lost :
    let before := runCalls noFloatText (initializeDefaults ⟨false, false⟩ outputState)
      [⟨ascii "auto_check_updates", bool false, false⟩]
    let s := runCalls noFloatText (initializeDefaults ⟨false, false⟩ outputState)
      [⟨ascii "auto_check_updates", bool false, false⟩,
        ⟨ascii "auto_check_updates", bool false, true⟩,
        ⟨ascii "force_accept_updates", bool true, true⟩]
    let saved := save noFloatText (fun _ ↦ none) s (ascii "configuration") false
    (setAttribute noFloatText before (ascii "auto_check_updates") (bool false) true).1 = true ∧
      saved.1 = true ∧
      ¬∃ w, getAttribute (restart noFloatText ⟨false, false⟩ saved.2 .construct
          (ascii "config.json") (ascii "configuration")) (ascii "auto_check_updates") = some w ∧
        w.equal noFloatText (bool false) = true := by
  intro before s
  obtain ⟨hauto, hforce⟩ := find?_updateDefaults outputState
  have hnew : (bool true).equal noFloatText (bool false) = false ∧
      (bool false).equal noFloatText (bool true) = false :=
    ⟨by decide +kernel, by decide +kernel⟩
  have hnames : ascii "auto_check_updates" ≠ ascii "force_accept_updates" := by decide +kernel
  have hsaved : savedObject noFloatText (fun _ ↦ none) (ascii "config.json") = hash [] := rfl
  have hapart : NamesApart (hash []) (ascii "configuration") := by
    intro entries hentries
    obtain rfl := Value.hash.inj hentries
    simp
  have hd : defaultOf ⟨false, false⟩ (ascii "auto_check_updates") = some (bool true) := by
    rw [defaultOf, getAttribute, (find?_updateDefaults .construct).1, Option.map_some]
  have hfile : fileOf s (ascii "configuration") = some (ascii "config.json") :=
    fileOf_outputState _ _
  have hreached : Reached Settable ⟨false, false⟩ s :=
    Reached.runCalls (by decide) (reached_initializeDefaults _ ⟨false, false⟩ outputState)
  obtain ⟨hconfirmed, hfound, hmodified⟩ := confirmed_not_recorded (Eq.refl before) (Eq.refl s)
    hnames hauto hforce hnew.1 hnew.2
  rw [modifiedMap_initializeDefaults] at hmodified
  rw [← hsaved] at hapart
  have hfloat : (savedObject noFloatText (fun _ ↦ none) (ascii "config.json")).FloatFree := by
    decide +kernel
  exact ⟨hconfirmed, unrecorded_lost hreached hfloat hapart hfile hfound rfl hnames hmodified hd
    hnew.1 .construct⟩

end Touchless.Config
