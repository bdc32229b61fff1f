import Touchless.Configuration.ConfigRestart
import Touchless.Utility.ValueWritten

/-!
# What a running program has recorded

A program loads its section, changes attributes for the user, and saves the section from time to
time. What `ModifiedMap` has for an attribute goes with the value that the attribute has, and if it
has nothing for any, the file has nothing to say either (`Kept`). Loading, a user's call of
`SetAttribute` and `Save` keep this, so whenever `Save` has been called, the next start of the
program finds every attribute with the text that it has now (`Kept.restart_textOf`).

`restored_iff` is about calls that the user has not made as well: those are not recorded. A program
that makes none needs no such condition.

The class compares values by their texts. A truth value is read back as it was set because no other
value has its text (`eq_bool_of_textOf`).
-/

namespace Touchless

namespace Value

/-! ### What a text tells of a value -/

variable {floats : FloatText} {p : Value → Bool} {w : Value}

theorem textOf_eq (floats : FloatText) (w : Value) :
    Config.textOf floats w = writeBody floats true true w 1 := rfl

theorem not_floatFree_double (bits : UInt64) : ¬(double bits).FloatFree := fun h ↦ nomatch h

theorem not_floatFree_longDouble (bits : BitVec 80) : ¬(longDouble bits).FloatFree :=
  fun h ↦ nomatch h

/-- A number begins with a digit or a minus sign. -/
theorem head_number {text : Bytes} (h : Json.IsNumber text) :
    ∃ c ∈ text.head?, c = 0x2D ∨ isDigit c = true := by
  cases h with
  | @number sign int fraction exponent hminus hint _ _ =>
    rcases hminus with rfl | rfl
    · obtain ⟨c, tail, rfl⟩ := List.exists_cons_of_ne_nil hint.1.1
      exact ⟨c, rfl, .inr (hint.1.2 c (.head _))⟩
    · exact ⟨0x2D, rfl, .inl rfl⟩

/-- The text of a truth value. -/
def boolText (b : Bool) : Bytes := if b then ascii "true" else ascii "false"

/-- It is no number. -/
theorem not_number_boolText (b : Bool) : ¬Json.IsNumber (boolText b) := by
  intro h
  obtain ⟨c, hc, hdigit⟩ := head_number h
  revert c
  cases b <;> decide +kernel

theorem decimalInt_injective {n k : ℤ} (h : decimalInt n = decimalInt k) : n = k := by
  have hminus : ∀ m, decimal m ≠ 0x2D :: decimal k.natAbs ∧ decimal m ≠ 0x2D :: decimal n.natAbs :=
    fun m ↦ by
      constructor <;> intro hm <;>
      exact absurd (isDigit_of_mem_decimal (hm ▸ List.mem_cons_self)) (by decide)
  have habs : ∀ {m m' : ℕ}, decimal m = decimal m' → m = m' := fun {m m'} hm ↦ by
    rw [← ofDecimal_decimal m, hm, ofDecimal_decimal]
  rw [decimalInt, decimalInt] at h
  split_ifs at h with hn hk
  · have := habs (List.cons.inj h).2
    omega
  · exact absurd h.symm (hminus _).2
  · exact absurd h (hminus _).1
  · have := habs h
    omega

/-- **The text of a truth value** is that of nothing else, if there is no floating-point number, or
these are printed as numbers. -/
theorem eq_bool_of_textOf (hfloats : w.FloatFree ∨ ClassicLocale floats) {b : Bool}
    (h : Config.textOf floats w = Config.textOf floats (bool b)) : w = bool b := by
  have h : writeBody floats true true w 1 = boolText b := h
  have hinteger : ∀ n : ℤ, decimalInt n ≠ boolText b := fun n hn ↦
    not_number_boolText b (hn ▸ Json.isNumber_decimalInt n)
  have hfloat : ¬(Json.IsNumber (boolText b) ∨ notANumber (boolText b) = true) := by
    rintro (hnumber | hname)
    · exact not_number_boolText b hnumber
    · revert hname
      cases b <;> decide
  have hnull : ascii "null" ≠ boolText b := by cases b <;> decide
  cases w with
  | bool b' =>
    have htexts : boolText b' = boolText b → b' = b := by cases b <;> cases b' <;> decide
    exact congrArg bool (htexts h)
  | null => exact absurd h hnull
  | int n => exact absurd h (hinteger n.toInt)
  | longlong n => exact absurd h (hinteger n.toInt)
  | uint n =>
    rw [writeBody, decimal_eq_decimalInt] at h
    exact absurd h (hinteger n.toNat)
  | ulonglong n =>
    rw [writeBody, decimal_eq_decimalInt] at h
    exact absurd h (hinteger n.toNat)
  | double bits =>
    rw [writeBody] at h
    split_ifs at h
    · exact absurd h hnull
    · exact absurd (h ▸ (hfloats.resolve_left (not_floatFree_double bits)).double bits) hfloat
  | longDouble bits =>
    exact absurd (h ▸ (hfloats.resolve_left (not_floatFree_longDouble bits)).longDouble bits) hfloat
  | string s =>
    rw [writeBody, writeString, if_pos rfl, quote] at h
    cases b <;> cases h
  | array elements =>
    rw [writeBody] at h
    cases b <;> cases h
  | hash entries =>
    rw [writeBody] at h
    cases b <;> cases h
  | foreign typeName => cases b <;> cases h

/-! ### What is read back -/

mutual

/-- **Values that agree pass the same tests**, if a test does not tell their roots apart. -/
theorem everywhere_of_same (hp : ∀ value other, SameUpToKind value other → p other = p value) :
    ∀ value other : Value, SameUpToKind value other → other.everywhere p = value.everywhere p
  | null, other, h => by
    cases other with
    | null => rfl
    | _ => simp [SameUpToKind] at h
  | bool b, other, h => by
    have hroot := hp _ _ h
    cases other with
    | bool b' => exact hroot
    | _ => simp [SameUpToKind] at h
  | string s, other, h => by
    have hroot := hp _ _ h
    cases other with
    | string s' => exact hroot
    | _ => simp [SameUpToKind] at h
  | int n, other, h => by
    have hroot := hp _ _ h
    cases other with
    | int n' | uint n' | longlong n' | ulonglong n' => exact hroot
    | _ => simp [SameUpToKind, integer?] at h
  | uint n, other, h => by
    have hroot := hp _ _ h
    cases other with
    | int n' | uint n' | longlong n' | ulonglong n' => exact hroot
    | _ => simp [SameUpToKind, integer?] at h
  | longlong n, other, h => by
    have hroot := hp _ _ h
    cases other with
    | int n' | uint n' | longlong n' | ulonglong n' => exact hroot
    | _ => simp [SameUpToKind, integer?] at h
  | ulonglong n, other, h => by
    have hroot := hp _ _ h
    cases other with
    | int n' | uint n' | longlong n' | ulonglong n' => exact hroot
    | _ => simp [SameUpToKind, integer?] at h
  | double _, other, h => by simp [SameUpToKind] at h
  | longDouble _, other, h => by simp [SameUpToKind] at h
  | foreign _, other, h => by simp [SameUpToKind] at h
  | array elements, other, h => by
    have hroot := hp _ _ h
    cases other with
    | array others =>
      simp only [SameUpToKind] at h
      rw [everywhere, everywhere, hroot, everywhereElements_of_same hp elements others h]
    | _ => simp [SameUpToKind] at h
  | hash entries, other, h => by
    have hroot := hp _ _ h
    cases other with
    | hash others =>
      simp only [SameUpToKind] at h
      rw [everywhere, everywhere, hroot, everywhereEntries_of_same hp entries others h]
    | _ => simp [SameUpToKind] at h

theorem everywhereElements_of_same
    (hp : ∀ value other, SameUpToKind value other → p other = p value) :
    ∀ elements others : List Value, SameElements elements others →
      everywhereElements p others = everywhereElements p elements
  | [], [], _ => rfl
  | [], _ :: _, h => by simp [SameElements] at h
  | _ :: _, [], h => by simp [SameElements] at h
  | value :: elements, other :: others, h => by
    simp only [SameElements] at h
    rw [everywhereElements, everywhereElements, everywhere_of_same hp value other h.1,
      everywhereElements_of_same hp elements others h.2]

theorem everywhereEntries_of_same
    (hp : ∀ value other, SameUpToKind value other → p other = p value) :
    ∀ entries others : List (Bytes × Value), SameEntries entries others →
      everywhereEntries p others = everywhereEntries p entries
  | [], [], _ => rfl
  | [], _ :: _, h => by simp [SameEntries] at h
  | _ :: _, [], h => by simp [SameEntries] at h
  | (key, value) :: entries, (key', other) :: others, h => by
    simp only [SameEntries] at h
    rw [everywhereEntries, everywhereEntries, everywhere_of_same hp value other h.2.1,
      everywhereEntries_of_same hp entries others h.2.2]

end

theorem floatFreeType_of_same (value other : Value) (h : SameUpToKind value other) :
    floatFreeType other = floatFreeType value := by
  cases value <;> cases other <;> first | rfl | simp [SameUpToKind, integer?] at h

theorem nulFreeText_of_same (value other : Value) (h : SameUpToKind value other) :
    nulFreeText other = nulFreeText value := by
  cases value with
  | string s =>
    cases other with
    | string s' =>
      simp only [SameUpToKind] at h
      rw [h]
    | _ => simp [SameUpToKind] at h
  | hash entries =>
    cases other with
    | hash others =>
      simp only [SameUpToKind] at h
      have hkeys : ∀ entries : List (Bytes × Value), nulFreeText (hash entries) =
          (entries.map Prod.fst).all fun key ↦ decide (0 ∉ key) := fun entries ↦ by
        rw [nulFreeText, List.all_map]
        rfl
      rw [hkeys, hkeys, keys_of_same h]
    | _ => simp [SameUpToKind] at h
  | _ => cases other <;> first | rfl | simp [SameUpToKind, integer?] at h

/-- **A plain value is plain when it is read back.** -/
theorem plain_readFrom_toJSON {value : Value} (h : Config.Plain value)
    (escapeSlashes prettify : Bool) :
    Config.Plain (readFrom floats (value.toJSON floats escapeSlashes prettify)) := by
  obtain ⟨hexact, hnul, hordered⟩ := h
  have hsame : SameUpToKind value (fromJSON floats (value.toJSON floats escapeSlashes prettify)) :=
    roundTrip hexact hnul hordered escapeSlashes prettify
  have hfloat : (readFrom floats (value.toJSON floats escapeSlashes prettify)).FloatFree := by
    rw [FloatFree, ← fromJSON, everywhere_of_same floatFreeType_of_same _ _ hsame]
    exact ((exact_iff value).1 hexact).1
  refine ⟨(exact_iff _).2 ⟨hfloat, foreignFree_readFrom _⟩, ?_, ordered_readFrom _⟩
  rw [NulFree, ← fromJSON, everywhere_of_same nulFreeText_of_same _ _ hsame]
  exact hnul

end Value

namespace Config

open Value AccessType

variable {floats : FloatText} {options : BuildOptions} {s : ConfigState}
variable {files : Files} {fileName sectionName name : Bytes}

/-! ### Attributes that may be changed -/

/-- An attribute that is there, and that may be changed. -/
def Writable (s : ConfigState) (name : Bytes) : Prop :=
  (s.attributeMap.find? name).map Attribute.accessType = some writeAlways

theorem Writable.found (h : Writable s name) :
    ∃ found, s.attributeMap.find? name = some found ∧ found.accessType = writeAlways :=
  Option.map_eq_some_iff.1 h

/-- `SetAttribute` does not change what may be changed. -/
theorem writable_setAttribute (floats : FloatText) (s : ConfigState) (name' : Bytes)
    (value : Value) (userSpecified : Bool) :
    Writable (setAttribute floats s name' value userSpecified).2 name ↔ Writable s name := by
  rw [Writable, accessType_setAttribute, Writable]

theorem writable_setAttributes (entries : List (Bytes × Value)) :
    ∀ {s : ConfigState}, Writable (setAttributes floats s entries) name ↔ Writable s name := by
  induction entries with
  | nil => exact Iff.rfl
  | cons entry entries ih =>
    exact ih.trans (writable_setAttribute floats _ entry.1 entry.2 true)

/-- A truth value that is set is there. -/
theorem getAttribute_setAttribute_bool (hfloats : ClassicLocale floats) (h : Writable s name)
    (b : Bool) : getAttribute (setAttribute floats s name (bool b) true).2 name =
      some (bool b) := by
  obtain ⟨found, hfound, haccess⟩ := h.found
  obtain ⟨⟨w, hw, htext⟩, -⟩ := setAttribute_writable floats (bool b) hfound haccess
  rw [getAttribute, hw, Option.map_some, eq_bool_of_textOf (.inr hfloats) htext]

/-- Another attribute that is set makes no difference. -/
theorem getAttribute_setAttribute_of_ne {name' : Bytes} (hne : name ≠ name') (value : Value)
    (userSpecified : Bool) :
    getAttribute (setAttribute floats s name' value userSpecified).2 name =
      getAttribute s name := by
  rw [getAttribute, getAttribute, (setAttribute_of_ne floats s value userSpecified hne).1]

/-- **What loading does**: it sets the entries of the section, if the file has one. -/
theorem loadFromFile_eq (floats : FloatText) (files : Files) (s : ConfigState)
    (fileName sectionName : Bytes) : ∃ entries,
    (loadFromFile floats files s fileName sectionName).1 =
        setAttributes floats (setOutputFile s fileName sectionName) entries ∧
      (entries = [] ∧ (∀ a, valueInFile floats files fileName sectionName a = none) ∨
        (savedObject floats files fileName).hashGet sectionName = hash entries) := by
  simp only [loadFromFile, valueInFile, savedObject]
  cases files fileName with
  | none => exact ⟨[], rfl, .inl ⟨rfl, fun _ ↦ rfl⟩⟩
  | some content =>
    obtain ⟨object, hobject⟩ : ∃ object, readFrom floats content = object := ⟨_, rfl⟩
    simp only [hobject]
    cases object with
    | hash object =>
      simp only [isHash, Bool.not_true, Bool.false_eq_true, if_false, if_true]
      cases hsection : (hash object).hashGet sectionName with
      | hash entries => exact ⟨entries, rfl, .inr rfl⟩
      | _ => exact ⟨[], rfl, .inl ⟨rfl, fun _ ↦ rfl⟩⟩
    | _ => exact ⟨[], rfl, .inl ⟨rfl, fun _ ↦ rfl⟩⟩

/-- What the file says nothing about has its default after a restart. -/
theorem getAttribute_restart_of_none (r : ConfigState)
    (h : valueInFile floats files fileName sectionName name = none) :
    getAttribute (restart floats options files r fileName sectionName) name =
      defaultOf options name := by
  obtain ⟨entries, hload, hentries⟩ :=
    loadFromFile_eq floats files (initializeDefaults options r) fileName sectionName
  have hnever : ∀ e ∈ entries, e.1 ≠ name := by
    rcases hentries with ⟨rfl, -⟩ | hget
    · exact nofun
    · obtain ⟨object, hobject, hordered, -⟩ := savedObject_readerType floats files fileName
      rw [valueInFile, hget] at h
      rw [hobject] at hget
      rintro e he rfl
      have hfind := SortedAssoc.find?_of_mem (sorted_hashGet hordered hget) he
      exact Option.some_ne_none _ (hfind.symm.trans h)
  rw [restart, hload, getAttribute, setAttributes_of_not_mem floats hnever,
    attributeMap_setOutputFile, attributeMap_initializeDefaults options r .construct]
  rfl

/-! ### What is kept -/

/-- What has been recorded of a writable attribute has its text, and nothing has been recorded of
one that has its default. -/
def Recorded (floats : FloatText) (options : BuildOptions) (s : ConfigState) : Prop :=
  ∀ a d, defaultOf options a = some d → Writable s a →
    ∃ w, getAttribute s a = some w ∧
      textOf floats w = textOf floats ((s.modifiedMap.find? a).getD d)

/-- **A user's call** records what it changes. -/
theorem Recorded.setAttribute (h : Recorded floats options s) (name : Bytes) (value : Value) :
    Recorded floats options (setAttribute floats s name value true).2 := by
  intro a d hd hwritable
  rw [writable_setAttribute] at hwritable
  obtain ⟨w, hw, htext⟩ := h a d hd hwritable
  rcases setAttribute_cases floats s name value true with hsame | ⟨found, hfound, -, hset⟩
  · rw [hsame]
    exact ⟨w, hw, htext⟩
  · rw [hset]
    dsimp only [getAttribute]
    rw [if_pos rfl, OrderedMap.find?_insert, OrderedMap.find?_insert]
    split_ifs
    · exact ⟨value, rfl, rfl⟩
    · exact ⟨w, hw, htext⟩

/-- Every attribute has a plain value, or its default. -/
def Settled (options : BuildOptions) (s : ConfigState) : Prop :=
  ∀ a w, getAttribute s a = some w → Plain w ∨ defaultOf options a = some w

theorem Settled.setAttribute (h : Settled options s) (name : Bytes) {value : Value}
    (hplain : Plain value) (userSpecified : Bool) :
    Settled options (Config.setAttribute floats s name value userSpecified).2 := by
  intro a w hw
  rcases setAttribute_cases floats s name value userSpecified with hsame | ⟨found, -, -, hset⟩
  · rw [hsame] at hw
    exact h a w hw
  · rw [hset] at hw
    dsimp only [getAttribute] at hw
    rw [OrderedMap.find?_insert] at hw
    split_ifs at hw
    · obtain rfl := Option.some.inj hw
      exact .inl hplain
    · exact h a w hw

/-- What holds of the configuration of a running program and of its file, between any two calls. -/
structure Kept (floats : FloatText) (options : BuildOptions) (files : Files)
    (fileName sectionName : Bytes) (s : ConfigState) : Prop where
  reached : Reached Plain options s
  output : fileOf s sectionName = some fileName
  file : Plain (savedObject floats files fileName)
  recorded : Recorded floats options s
  settled : Settled options s
  unsaved : s.modifiedMap.entries = [] → ∀ a d v, defaultOf options a = some d → Writable s a →
    valueInFile floats files fileName sectionName a = some v → textOf floats v = textOf floats d

/-- A user's call with a plain value keeps it. -/
theorem Kept.setAttribute (h : Kept floats options files fileName sectionName s) (name : Bytes)
    {value : Value} (hplain : Plain value) :
    Kept floats options files fileName sectionName
      (Config.setAttribute floats s name value true).2 := by
  refine ⟨h.reached.setAttribute hplain true, ?_, h.file, h.recorded.setAttribute name value,
    h.settled.setAttribute name hplain true, ?_⟩
  · rcases setAttribute_cases floats s name value true with hsame | ⟨found, -, -, hset⟩
    · rw [hsame]
      exact h.output
    · rw [hset]
      exact h.output
  · intro hnothing a d v hd hwritable hv
    rw [writable_setAttribute] at hwritable
    rcases setAttribute_cases floats s name value true with hsame | ⟨found, -, -, hset⟩
    · rw [hsame] at hnothing
      exact h.unsaved hnothing a d v hd hwritable hv
    · -- the call has recorded its value
      have hrecorded := OrderedMap.find?_insert_self s.modifiedMap name value
      rw [hset] at hnothing
      dsimp only at hnothing
      rw [if_pos rfl] at hnothing
      have hmem : (name, value) ∈ (s.modifiedMap.insert name value).entries :=
        OrderedMap.mem_entries.2 hrecorded
      rw [hnothing] at hmem
      cases hmem

/-- `Save` keeps it, whatever there is to save. -/
theorem Kept.save (h : Kept floats options files fileName sectionName s)
    (hsection : 0 ∉ sectionName) :
    Kept floats options (Config.save floats files s sectionName false).2 fileName
      sectionName s := by
  by_cases hrecorded : s.modifiedMap.entries = []
  · rw [save_of_nothing hrecorded]
    exact h
  · refine ⟨h.reached, h.output, ?_, h.recorded, h.settled, fun hnothing ↦
      absurd hnothing hrecorded⟩
    obtain ⟨old, hobject, -⟩ := savedObject_readerType floats files fileName
    have hold := h.file
    rw [hobject] at hold
    have hmodified := h.reached.plain_modifiedMap
    have hnew : Plain (readFrom floats (newContent floats s sectionName false old)) :=
      plain_readFrom_toJSON ⟨exact_insert sectionName hold.1 hmodified.1,
        nulFree_insert hsection hold.2.1 hmodified.2.1,
        ordered_insert sectionName hold.2.2 hmodified.2.2⟩ false true
    have hcontent : (Config.save floats files s sectionName false).2 fileName =
        some (newContent floats s sectionName false old) := by
      have hsome : (!s.modifiedMap.entries.isEmpty || false) = true := by simpa using hrecorded
      rw [Config.save, if_pos hsome, h.output]
      dsimp only
      rw [Function.update_self, hobject]
      rfl
    rw [savedObject, hcontent]
    dsimp only
    split_ifs
    · exact hnew
    · exact ⟨by decide, by decide, by decide⟩

/-- The entries of a plain section are plain. -/
theorem plain_of_mem_hashGet {object : Value} (hobject : Plain object)
    {entries : List (Bytes × Value)} {key : Bytes} (hget : object.hashGet key = hash entries) :
    ∀ e ∈ entries, Plain e.2 := by
  cases object with
  | hash object =>
    obtain ⟨hexact, hnul, hordered⟩ := hobject
    rw [hashGet] at hget
    cases hfind : SortedAssoc.find? key object with
    | none => simp [hfind] at hget
    | some v =>
      rw [hfind, Option.getD_some] at hget
      subst hget
      have hmem := SortedAssoc.mem_of_find? hfind
      simp only [Exact, NulFree, Ordered, everywhere, Bool.and_eq_true,
        everywhereEntries_iff] at hexact hnul hordered
      have hexact' := hexact.2 _ hmem
      have hnul' := hnul.2 _ hmem
      have hordered' := hordered.2 _ hmem
      simp only [everywhere, Bool.and_eq_true, everywhereEntries_iff] at hexact' hnul' hordered'
      exact fun e he ↦ ⟨hexact'.2 e he, hnul'.2 e he, hordered'.2 e he⟩
  | _ => simp [hashGet] at hget

/-- Loading sets attributes one after another. -/
theorem setAttributes_eq_runCalls (s : ConfigState) (entries : List (Bytes × Value)) :
    setAttributes floats s entries =
      runCalls floats s (entries.map fun e ↦ ⟨e.1, e.2, true⟩) := by
  rw [setAttributes, runCalls, List.foldl_map]

theorem Recorded.setAttributes (entries : List (Bytes × Value)) :
    ∀ {s : ConfigState}, Recorded floats options s →
      Recorded floats options (Config.setAttributes floats s entries) := by
  induction entries with
  | nil => exact fun h ↦ h
  | cons entry entries ih => exact fun h ↦ ih (h.setAttribute entry.1 entry.2)

/-- The state in which a section is loaded, after the defaults: nothing has been recorded. -/
structure Fresh (options : BuildOptions) (fileName sectionName : Bytes) (s : ConfigState) :
    Prop where
  attributeMap : s.attributeMap = (initializeDefaults options .construct).attributeMap
  modifiedMap : s.modifiedMap = OrderedMap.empty
  output : s.sectionToFileMap.find? sectionName = some fileName

/-- A section that has been given a file has it. -/
theorem find?_setOutputFile (fileName sectionName : Bytes) :
    (setOutputFile s fileName sectionName).sectionToFileMap.find? sectionName = some fileName :=
  OrderedMap.find?_insert_self _ _ _

theorem fresh_setOutputFile (fileName sectionName : Bytes)
    (hattributes : s.attributeMap = (initializeDefaults options .construct).attributeMap)
    (hmodified : s.modifiedMap = OrderedMap.empty) :
    Fresh options fileName sectionName (setOutputFile s fileName sectionName) :=
  ⟨(attributeMap_setOutputFile fileName sectionName).trans hattributes, hmodified,
    find?_setOutputFile fileName sectionName⟩

theorem Fresh.reached (h : Fresh options fileName sectionName s) : Reached Plain options s where
  accessType a := by rw [h.attributeMap, attributeMap_initializeDefaults options s .construct]
  modified a value hvalue := by
    rw [h.modifiedMap, OrderedMap.find?_empty] at hvalue
    cases hvalue

theorem Fresh.defaultOf (h : Fresh options fileName sectionName s) (a : Bytes) :
    getAttribute s a = defaultOf options a := by
  rw [getAttribute, h.attributeMap, Config.defaultOf, getAttribute]

theorem Fresh.recorded (h : Fresh options fileName sectionName s) :
    Recorded floats options s := by
  intro a d hd _
  refine ⟨d, (h.defaultOf a).trans hd, ?_⟩
  rw [h.modifiedMap, OrderedMap.find?_empty, Option.getD_none]

theorem Settled.setAttributes (entries : List (Bytes × Value)) (hplain : ∀ e ∈ entries, Plain e.2) :
    ∀ {s : ConfigState}, Settled options s →
      Settled options (Config.setAttributes floats s entries) := by
  induction entries with
  | nil => exact fun h ↦ h
  | cons entry entries ih =>
    exact fun h ↦ ih (fun e he ↦ hplain e (List.mem_cons_of_mem _ he))
      (h.setAttribute entry.1 (hplain entry List.mem_cons_self) true)

/-- What has been loaded has the text that it has in the file. -/
theorem textOf_loaded {entries : List (Bytes × Value)} (hsorted : SortedAssoc.Sorted entries)
    {a : Bytes} {v w : Value}
    (hv : SortedAssoc.find? a entries = some v) (hwritable : Writable s a)
    (hw : getAttribute (Config.setAttributes floats s entries) a = some w) :
    textOf floats w = textOf floats v := by
  obtain ⟨found, hfound, haccess⟩ := hwritable.found
  obtain ⟨w', hw', htext⟩ : ∃ w', getAttribute (Config.setAttributes floats s entries) a = some w' ∧
      textOf floats w' = textOf floats ((SortedAssoc.find? a entries).getD found.value) :=
    setAttributes_writable hsorted hfound haccess
  obtain rfl := Option.some.inj (hw.symm.trans hw')
  rw [htext, hv, Option.getD_some]

/-- **The start of the program.** -/
theorem kept_restart (hfile : Plain (savedObject floats files fileName)) (r : ConfigState) :
    Kept floats options files fileName sectionName
      (restart floats options files r fileName sectionName) := by
  obtain ⟨entries, hload, hentries⟩ :=
    loadFromFile_eq floats files (initializeDefaults options r) fileName sectionName
  have hfresh := fresh_setOutputFile fileName sectionName
    (attributeMap_initializeDefaults options r .construct)
    (modifiedMap_initializeDefaults options r)
  rw [restart, hload]
  generalize setOutputFile (initializeDefaults options r) fileName sectionName = fresh at hfresh
  have hplain : ∀ e ∈ entries, Plain e.2 := by
    rcases hentries with ⟨rfl, -⟩ | hget
    · exact nofun
    · exact plain_of_mem_hashGet hfile hget
  have hnothing : Recorded floats options fresh := hfresh.recorded
  have hrecorded := hnothing.setAttributes entries
  have hsettled : Settled options fresh := fun a w hw ↦ .inr ((hfresh.defaultOf a).symm.trans hw)
  refine ⟨?_, ?_, hfile, hrecorded, hsettled.setAttributes entries hplain, ?_⟩
  · rw [setAttributes_eq_runCalls]
    refine hfresh.reached.runCalls fun c hc ↦ ?_
    obtain ⟨e, he, rfl⟩ := List.mem_map.1 hc
    exact hplain e he
  · rw [setAttributes_eq_runCalls, fileOf, sectionToFileMap_runCalls, hfresh.output]
    rfl
  · intro hnothing a d v hd hwritable hv
    -- nothing of what has been loaded has been recorded, so it is the default
    obtain ⟨w, hw, htext⟩ := hrecorded a d hd hwritable
    have hnone : (Config.setAttributes floats fresh entries).modifiedMap.find? a = none := by
      rw [OrderedMap.find?, hnothing]
      rfl
    rw [hnone, Option.getD_none] at htext
    rcases hentries with ⟨-, hnever⟩ | hget
    · rw [hnever a] at hv
      cases hv
    · rw [valueInFile, hget] at hv
      obtain ⟨object, hobject, hordered, -⟩ := savedObject_readerType floats files fileName
      rw [hobject] at hget
      rw [← htext, textOf_loaded (sorted_hashGet hordered hget) hv
        ((writable_setAttributes entries).1 hwritable) hw]

/-- **What a restart finds.** After `Save` the next start of the program finds every attribute that
may be changed with the text that it has. -/
theorem Kept.restart_textOf (h : Kept floats options files fileName sectionName s)
    (hsection : 0 ∉ sectionName) (hwritable : Writable s name) (r : ConfigState) :
    ∃ v w, getAttribute s name = some v ∧
      getAttribute (restart floats options (Config.save floats files s sectionName false).2 r
        fileName sectionName) name = some w ∧ textOf floats w = textOf floats v := by
  obtain ⟨found, hfound, haccess⟩ := hwritable.found
  obtain ⟨default, hdefault, haccess', hd⟩ := h.reached.restarted hfound haccess r
  obtain ⟨v, hv, htext⟩ := h.recorded name default.value hd hwritable
  by_cases hrecorded : s.modifiedMap.entries = []
  · obtain ⟨w, hw, hread⟩ :=
      loadFromFile_writable floats files fileName sectionName hdefault haccess'
    rw [save_of_nothing hrecorded]
    refine ⟨v, w, hv, hw, ?_⟩
    have hnone : s.modifiedMap.find? name = none := by
      rw [OrderedMap.find?, hrecorded]
      rfl
    rw [hnone, Option.getD_none] at htext
    rw [hread, htext]
    cases hvalue : valueInFile floats files fileName sectionName name with
    | none => rfl
    | some value => exact h.unsaved hrecorded name default.value value hd hwritable hvalue
  · obtain ⟨w, d, hw, hd', hread⟩ := h.reached.restart_textOf_plain
      ((exact_iff _).1 h.file.1).1 (namesApart_of_nulFree h.file.2.1 sectionName) h.output hsection
      hrecorded hfound haccess r
    obtain rfl := Option.some.inj (hd.symm.trans hd')
    exact ⟨v, w, hv, hw, hread.trans htext.symm⟩

end Config

end Touchless
