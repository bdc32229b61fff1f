import Touchless.Configuration.Config
import Touchless.Utility.ValueReadBack

/-!
# What `Save` writes

`Save` reads the file, sets the entry of its section in the object it finds there, and writes the
object back. The new file says what it should (`SavedSection`) when every value the user has
modified is of a type that JSON text can carry and the name of the section has no NUL; the text then
reads back as the old object with the section replaced.

With `toDefault` it never does. The section is then an empty `std::map` of attributes, which the
class does not know as a hash: `toStream` writes nothing behind the name of the section, and the
whole file, with all its other sections, is unreadable from then on.
-/

namespace Touchless.Config

open Value

variable {floats : FloatText} {files files' : Files} {s : ConfigState}
variable {sectionName fileName : Bytes} {toDefault : Bool}

/-- What a call of `Save` should leave in the file: the old object with the entry of the section
replaced, by the modified attributes or, with `toDefault`, by the empty object. -/
def SavedSection (floats : FloatText) (s : ConfigState) (sectionName : Bytes) (toDefault : Bool)
    (old : List (Bytes × Value)) (content : Bytes) : Prop :=
  SameUpToKind
    (hash (SortedAssoc.insert sectionName
      (hash (if toDefault then [] else s.modifiedMap.entries)) old))
    (readFrom floats content)

/-- The file holds a JSON object, or is missing and counts as the empty one. -/
def HoldsObject (floats : FloatText) (files : Files) (fileName : Bytes)
    (old : List (Bytes × Value)) : Prop :=
  match files fileName with
  | some content => readFrom floats content = hash old
  | none => old = []

theorem savedObject_eq {old : List (Bytes × Value)} (h : HoldsObject floats files fileName old) :
    savedObject floats files fileName = hash old := by
  rw [HoldsObject] at h
  rw [savedObject]
  cases hcontent : files fileName with
  | none =>
    rw [hcontent] at h
    simp [h, isHash]
  | some content =>
    rw [hcontent] at h
    simp only at h
    simp [h, isHash]

/-- **The spec of `Save`**: a call that returns true has put the new object into the sectionNames
file.
-/
theorem save_eq_true (h : save floats files s sectionName toDefault = (true, files')) :
    ∃ fileName, fileOf s sectionName = some fileName ∧
      (toDefault = true ∨ s.modifiedMap.entries ≠ []) ∧
      files' fileName = some (((savedObject floats files fileName).hashSet sectionName
        (sectionValue s toDefault)).1.toJSON floats false true) := by
  rw [save] at h
  split_ifs at h with hcond
  swap
  · simp at h
  cases hfile : fileOf s sectionName with
  | none => simp [hfile] at h
  | some fileName =>
    simp only [hfile, Prod.mk.injEq, true_and] at h
    refine ⟨fileName, rfl, ?_, ?_⟩
    · simp only [Bool.or_eq_true, Bool.not_eq_true', List.isEmpty_eq_false_iff] at hcond
      exact hcond.symm
    · rw [← h, Function.update_self]

/-- The content `Save` writes over a file that holds an object. -/
def newContent (floats : FloatText) (s : ConfigState) (sectionName : Bytes) (toDefault : Bool)
    (old : List (Bytes × Value)) : Bytes :=
  (hash (SortedAssoc.insert sectionName (sectionValue s toDefault) old)).toJSON floats false true

theorem save_newContent (h : save floats files s sectionName toDefault = (true, files'))
    (hfile : fileOf s sectionName = some fileName) {old : List (Bytes × Value)}
    (hold : HoldsObject floats files fileName old) :
    files' fileName = some (newContent floats s sectionName toDefault old) := by
  obtain ⟨fileName', hfile', -, hcontent⟩ := save_eq_true h
  obtain rfl : fileName = fileName' := Option.some.inj (hfile.symm.trans hfile')
  rw [hcontent, savedObject_eq hold]
  rfl

/-! ### The entries of the object -/

/-- A test that asks nothing of the entries of a hash holds throughout it with one more entry. -/
theorem everywhere_insert {p : Value → Bool} (hp : ∀ entries, p (hash entries) = true)
    (key : Bytes) {value : Value} {entries : List (Bytes × Value)}
    (hentries : (hash entries).everywhere p = true) (hvalue : value.everywhere p = true) :
    (hash (SortedAssoc.insert key value entries)).everywhere p = true := by
  rw [everywhere, hp, Bool.true_and] at hentries ⊢
  exact everywhereEntries_insert hentries key hvalue

theorem exact_insert (key : Bytes) {value : Value} {entries : List (Bytes × Value)}
    (hentries : (hash entries).Exact) (hvalue : value.Exact) :
    (hash (SortedAssoc.insert key value entries)).Exact :=
  everywhere_insert (fun _ ↦ rfl) key hentries hvalue

theorem floatFree_insert (key : Bytes) {value : Value} {entries : List (Bytes × Value)}
    (hentries : (hash entries).FloatFree) (hvalue : value.FloatFree) :
    (hash (SortedAssoc.insert key value entries)).FloatFree :=
  everywhere_insert (fun _ ↦ rfl) key hentries hvalue

theorem nulFree_insert {key : Bytes} {value : Value} {entries : List (Bytes × Value)}
    (hkey : 0 ∉ key) (hentries : (hash entries).NulFree) (hvalue : value.NulFree) :
    (hash (SortedAssoc.insert key value entries)).NulFree := by
  simp only [NulFree, everywhere, nulFreeText, Bool.and_eq_true, List.all_eq_true,
    decide_eq_true_eq] at hentries ⊢
  refine ⟨fun e he ↦ ?_, everywhereEntries_insert hentries.2 key hvalue⟩
  rcases SortedAssoc.mem_insert he with rfl | he
  · exact hkey
  · exact hentries.1 e he

theorem ordered_insert (key : Bytes) {value : Value} {entries : List (Bytes × Value)}
    (hentries : (hash entries).Ordered) (hvalue : value.Ordered) :
    (hash (SortedAssoc.insert key value entries)).Ordered := by
  simp only [Ordered, everywhere, orderedEntries, Bool.and_eq_true, decide_eq_true_eq]
    at hentries ⊢
  exact ⟨hentries.1.insert key value, everywhereEntries_insert hentries.2 key hvalue⟩

/-- An object read from a file is ordered and holds no foreign object. -/
theorem holdsObject_readerType {old : List (Bytes × Value)}
    (h : HoldsObject floats files fileName old) :
    (hash old).Ordered ∧ (hash old).ForeignFree := by
  rw [HoldsObject] at h
  cases hcontent : files fileName with
  | none =>
    rw [hcontent] at h
    simp only at h
    subst h
    exact ⟨by decide, by decide⟩
  | some content =>
    rw [hcontent] at h
    simp only at h
    exact ⟨h ▸ ordered_readFrom content, h ▸ foreignFree_readFrom content⟩

/-! ### When the file says what it should -/

/-- With `toDefault` the file is unreadable, whatever it held before. -/
theorem readFrom_newContent_toDefault {old : List (Bytes × Value)} (hold : (hash old).FloatFree) :
    readFrom floats (newContent floats s sectionName true old) = null := by
  have hvalue : (sectionValue s true).FloatFree := rfl
  have hfloat := floatFree_insert sectionName hold hvalue
  have hillegible : (hash (SortedAssoc.insert sectionName (sectionValue s true) old)).legible =
      false := by
    rw [legible, Bool.eq_false_iff, Ne, legibleEntries_iff]
    intro hall
    have hsection := hall _ (SortedAssoc.mem_of_find? (SortedAssoc.find?_insert_self _ _ _))
    simp [sectionValue, legible] at hsection
  rw [newContent, ← fromJSON, fromJSON_toJSON_of_floatFree hfloat, hillegible,
    if_neg Bool.false_ne_true]

/-- A section without foreign objects is read back as it was written. -/
theorem savedSection_newContent {old : List (Bytes × Value)} (hold : (hash old).Exact)
    (holdNul : (hash old).NulFree) (holdOrdered : (hash old).Ordered)
    (hmodified : (hash s.modifiedMap.entries).Exact)
    (hnul : (hash s.modifiedMap.entries).NulFree)
    (hordered : (hash s.modifiedMap.entries).Ordered) (hsection : 0 ∉ sectionName) :
    SavedSection floats s sectionName false old (newContent floats s sectionName false old) := by
  have hexact := exact_insert sectionName hold hmodified
  rw [SavedSection, newContent, ← fromJSON]
  simp only [sectionValue, Bool.false_eq_true, if_false]
  rw [fromJSON_toJSON hexact]
  exact sameUpToKind_asRead _ hexact (nulFree_insert hsection holdNul hnul)
    (ordered_insert sectionName holdOrdered hordered)

/-- A section that is read back as it was written has no foreign object and no NUL in its name. -/
theorem of_savedSection_newContent {old : List (Bytes × Value)}
    (h : SavedSection floats s sectionName false old (newContent floats s sectionName false old)) :
    0 ∉ sectionName ∧ (hash s.modifiedMap.entries).ForeignFree := by
  rw [SavedSection, newContent, ← fromJSON] at h
  simp only [sectionValue, Bool.false_eq_true, if_false] at h
  have hexact := exact_of_same _ _ h
  have hmem : (sectionName, hash s.modifiedMap.entries) ∈
      SortedAssoc.insert sectionName (hash s.modifiedMap.entries) old :=
    SortedAssoc.mem_of_find? (SortedAssoc.find?_insert_self _ _ _)
  refine ⟨?_, ?_⟩
  · rw [fromJSON_toJSON hexact, asRead] at h
    obtain ⟨others, hothers, hsame⟩ := sameUpToKind_hash h
    obtain rfl := Value.hash.inj hothers
    have hkeys := keys_of_same hsame
    have hkey : sectionName ∈ (asReadEntries (SortedAssoc.insert sectionName
        (hash s.modifiedMap.entries) old) []).map Prod.fst := by
      rw [← hkeys]
      exact List.mem_map_of_mem hmem
    obtain ⟨e, he, rfl⟩ := List.mem_map.1 hkey
    exact nulFree_keys_asReadEntries _ e he
  · simp only [Exact, everywhere, exactType, Bool.true_and, everywhereEntries_iff] at hexact
    exact ((exact_iff _).1 (hexact _ hmem)).2

/-- **When `Save` does what it should.** On a file that holds an object, with no floating-point
numbers and no NUL in the values, a call of `Save` that returns true leaves the old object with the
section replaced, exactly if it is not asked to restore the defaults, the name of the section has no
NUL, and no modified value is an object of a type the class has no case for. -/
theorem save_savedSection_iff {old : List (Bytes × Value)}
    (hold : HoldsObject floats files fileName old) (holdFloat : (hash old).FloatFree)
    (holdNul : (hash old).NulFree) (hfloat : (hash s.modifiedMap.entries).FloatFree)
    (hnul : (hash s.modifiedMap.entries).NulFree)
    (hordered : (hash s.modifiedMap.entries).Ordered)
    (hfile : fileOf s sectionName = some fileName)
    (hsave : save floats files s sectionName toDefault = (true, files')) :
    (∃ content, files' fileName = some content ∧
        SavedSection floats s sectionName toDefault old content) ↔
      toDefault = false ∧ 0 ∉ sectionName ∧ (hash s.modifiedMap.entries).ForeignFree := by
  have hcontent := save_newContent hsave hfile hold
  obtain ⟨holdOrdered, holdForeign⟩ := holdsObject_readerType hold
  have holdExact := (exact_iff _).2 ⟨holdFloat, holdForeign⟩
  constructor
  · rintro ⟨content, hfiles, hsaved⟩
    obtain rfl : newContent floats s sectionName toDefault old = content :=
      Option.some.inj (hcontent.symm.trans hfiles)
    cases toDefault with
    | true =>
      rw [SavedSection, readFrom_newContent_toDefault holdFloat] at hsaved
      simp [SameUpToKind] at hsaved
    | false => exact ⟨rfl, of_savedSection_newContent hsaved⟩
  · rintro ⟨rfl, hsection, hforeign⟩
    exact ⟨_, hcontent, savedSection_newContent holdExact holdNul holdOrdered
      ((exact_iff _).2 ⟨hfloat, hforeign⟩) hnul hordered hsection⟩

/-- The state after the defaults and one changed attribute, with an output file. -/
def changedState : ConfigState :=
  { setOutputFile (initializeDefaults ⟨false, false⟩ .construct) (ascii "config.json")
      (ascii "configuration") with
    modifiedMap := OrderedMap.empty.insert (ascii "image_width") (int 320) }

/-- An object with another section. -/
def otherSection : List (Bytes × Value) := [(ascii "general", hash [(ascii "volume", int 7)])]

/-- A file with that object. -/
def otherFile : Files := fun _ ↦ some ((hash otherSection).toJSON noFloatText false true)

theorem holdsObject_otherFile (fileName : Bytes) :
    HoldsObject noFloatText otherFile fileName otherSection := by
  have hread : fromJSON noFloatText ((hash otherSection).toJSON noFloatText false true) =
      (hash otherSection).asRead := fromJSON_toJSON (by decide) false true
  exact hread

/-- It is kept, next to the section that is saved. -/
theorem save_savedSection_otherSection :
    ∃ files', HoldsObject noFloatText otherFile (ascii "config.json") otherSection ∧
      save noFloatText otherFile changedState (ascii "configuration") false = (true, files') ∧
      ∃ content, files' (ascii "config.json") = some content ∧
        SavedSection noFloatText changedState (ascii "configuration") false otherSection
          content := by
  have hold := holdsObject_otherFile (ascii "config.json")
  have hfile : fileOf changedState (ascii "configuration") = some (ascii "config.json") := by
    decide +kernel
  obtain ⟨files', hsave⟩ : ∃ files', save noFloatText otherFile changedState
      (ascii "configuration") false = (true, files') := by
    rw [save, hfile]
    exact ⟨_, rfl⟩
  refine ⟨files', hold, hsave, (save_savedSection_iff hold (by decide +kernel)
    (by decide +kernel) (by decide +kernel) (by decide +kernel) (by decide +kernel) hfile
    hsave).2 ?_⟩
  exact ⟨rfl, by decide +kernel, by decide +kernel⟩

/-- With `toDefault` on a missing file, `Save` reports success and leaves no readable file. -/
theorem save_toDefault_unreadable :
    ∃ files', save noFloatText (fun _ ↦ none) changedState (ascii "configuration") true =
        (true, files') ∧
      HoldsObject noFloatText (fun _ ↦ none) (ascii "config.json") [] ∧
      fileOf changedState (ascii "configuration") = some (ascii "config.json") ∧
      ¬∃ content, files' (ascii "config.json") = some content ∧
        SavedSection noFloatText changedState (ascii "configuration") true [] content := by
  have hfile : fileOf changedState (ascii "configuration") = some (ascii "config.json") := by
    decide +kernel
  obtain ⟨files', hsave⟩ : ∃ files', save noFloatText (fun _ ↦ none) changedState
      (ascii "configuration") true = (true, files') := by
    rw [save, hfile]
    exact ⟨_, rfl⟩
  refine ⟨files', hsave, rfl, hfile, ?_⟩
  rintro ⟨content, hcontent, hsaved⟩
  obtain rfl := Option.some.inj (hcontent.symm.trans (save_newContent hsave hfile rfl))
  rw [SavedSection, readFrom_newContent_toDefault (by decide)] at hsaved
  simp [SameUpToKind] at hsaved

end Touchless.Config
