import Touchless.Configuration.ConfigRestart
import Touchless.Utility.ValueEquality

/-!
# Settings that look alike

`SetAttribute` sets an attribute only if the new value is not equal to the stored one, and equality
is that of the texts. A string setting is therefore kept back, with success reported, if it differs
from the stored one only behind a NUL (`setAttribute_stores_iff`).
-/

namespace Touchless.Config

open Value AccessType

/-- **What a successful call leaves**: the new value, unless it has the text of the stored one. -/
theorem find?_setAttribute {floats : FloatText} {s : ConfigState} {name : Bytes} {new : Value}
    {userSpecified : Bool} {found : Attribute} (hfound : s.attributeMap.find? name = some found)
    (hset : (setAttribute floats s name new userSpecified).1 = true) :
    (setAttribute floats s name new userSpecified).2.attributeMap.find? name =
      some (if found.value.equal floats new then found else { found with value := new }) := by
  rw [setAttribute, hfound] at hset ⊢
  dsimp only at hset ⊢
  by_cases hread : found.accessType = readOnly
  · rw [if_pos hread] at hset
    cases hset
  by_cases hpublic : found.accessType = writeNoPublic ∧ userSpecified = true
  · rw [if_neg hread, if_pos hpublic] at hset
    cases hset
  rw [if_neg hread, if_neg hpublic]
  by_cases hequal : found.value.equal floats new = true
  · rw [if_pos hequal, if_pos hequal]
    exact hfound
  · rw [if_neg hequal, if_neg hequal]
    exact OrderedMap.find?_insert_self _ _ _

/-- **Texts tell values apart** exactly if what they leave out does not matter: for two values made
of strings, arrays and hashes, and for every attribute that has the first and accepts the second. -/
theorem setAttribute_stores_iff (floats : FloatText) (value new : Value) (htext : value.Textual)
    (htext' : new.Textual) :
    ((value.equal floats new = true ↔ value = new) ↔ (value.cut = new.cut → value = new)) ∧
    ((value.toJSON floats true false = new.toJSON floats true false ↔ value = new) ↔
      (value.cut = new.cut → value = new)) ∧
    ∀ (s : ConfigState) (name : Bytes) (userSpecified : Bool) (found : Attribute),
      s.attributeMap.find? name = some found → found.value = value →
      (setAttribute floats s name new userSpecified).1 = true →
      ((setAttribute floats s name new userSpecified).2.attributeMap.find? name =
          some { found with value := new } ↔ (value.cut = new.cut → value = new)) := by
  have hequal := @equal_iff_cut floats _ _ htext htext'
  have hreflexive : value = new → value.cut = new.cut := congrArg cut
  refine ⟨by rw [hequal]; tauto, by rw [← equal_iff, hequal]; tauto, ?_⟩
  rintro s name userSpecified found hfound rfl hset
  rw [find?_setAttribute hfound hset, Option.some.injEq, ← hequal]
  by_cases htexts : found.value.equal floats new = true
  · -- the call has returned without setting anything
    rw [if_pos htexts]
    constructor
    · exact fun hfound _ ↦ congrArg Attribute.value hfound
    · intro hsame
      rw [← hsame htexts]
  · rw [if_neg htexts]
    exact ⟨fun _ h ↦ absurd h htexts, fun _ ↦ rfl⟩

/-- A state with one attribute, which everyone may set. -/
def sampleState (value : Value) : ConfigState :=
  createAttribute .construct (ascii "tracking_mode") value writeAlways

theorem setAttribute_stores_iff_balanced :
    let value := string (ascii "balanced")
    let new := array [hash [(ascii "mode", string (ascii "balanced"))]]
    ((value.equal noFloatText new = true ↔ value = new) ↔ (value.cut = new.cut → value = new)) ∧
    ((value.toJSON noFloatText true false = new.toJSON noFloatText true false ↔ value = new) ↔
      (value.cut = new.cut → value = new)) ∧
    ((setAttribute noFloatText (sampleState value) (ascii "tracking_mode") new
        true).2.attributeMap.find? (ascii "tracking_mode") = some ⟨new, writeAlways⟩ ↔
      (value.cut = new.cut → value = new)) := by
  have hiff := setAttribute_stores_iff noFloatText (string (ascii "balanced"))
    (array [hash [(ascii "mode", string (ascii "balanced"))]]) (by decide +kernel)
    (by decide +kernel)
  exact ⟨hiff.1, hiff.2.1, hiff.2.2 _ _ _ ⟨string (ascii "balanced"), writeAlways⟩
    (OrderedMap.find?_insert_self _ _ _) rfl (by decide +kernel)⟩

/-- A string that differs from the stored one behind a NUL is taken for it: the call reports success
and changes nothing. -/
theorem setAttribute_discards :
    let value := string (ascii "fast")
    let new := string (ascii "fast" ++ [0x00, 0x21])
    value.Textual ∧ new.Textual ∧ value ≠ new ∧ value.equal noFloatText new = true ∧
      value.toJSON noFloatText true false = new.toJSON noFloatText true false ∧
      setAttribute noFloatText (sampleState value) (ascii "tracking_mode") new true =
        (true, sampleState value) := by
  have hequal : (string (ascii "fast")).equal noFloatText (string (ascii "fast" ++ [0x00, 0x21])) =
      true := by decide +kernel
  refine ⟨rfl, rfl, by simp, hequal, equal_iff.1 hequal, ?_⟩
  exact setAttribute_same (OrderedMap.find?_insert_self _ _ _) rfl hequal

end Touchless.Config
