import Touchless.Foundations.Chords
import Touchless.Foundations.Latches
import Touchless.GestureInteraction.GestureInteractionManager

/-!
# The charms of Windows 8

`applyCharms` of `OSInteraction/OSInteractionWin.cpp`: a pointable that is moved beyond an edge of
the screen sends a key combination to Windows, which brings out the charm bar, the switchable
programs or the commands of the application. The mode of the charms, which the interaction modes
keep between the calls, prevents that a combination is sent again in every frame.

`CharmsRun` says how the mode and the calls with it come about, and `CharmsRecorded` that the calls
which an interaction mode has recorded are of this kind. A combination is sent only where a
pointable has come back to the middle of the screen since the last one (`CharmsRun.latched`), and no
key is left down (`CharmsCall.held_flatMap_inputs`).
-/

namespace Touchless

namespace OSInteractionDriverWin

/-- The virtual keys of Windows. -/
def VK_TAB : ℕ := 0x09

def VK_CONTROL : ℕ := 0x11

def VK_LWIN : ℕ := 0x5B

/-- `windowsKeyDown`: the key and the flags of an input. -/
def windowsKeyDown (key : ℕ) : Stroke ℕ := ⟨key, false⟩

/-- `windowsKeyUp`, with `KEYEVENTF_KEYUP`. -/
def windowsKeyUp (key : ℕ) : Stroke ℕ := ⟨key, true⟩

/-- `windowsKeyCombo` with two keys. -/
def windowsKeyCombo2 (key1 key2 : ℕ) : List (Stroke ℕ) :=
  [windowsKeyDown key1, windowsKeyDown key2, windowsKeyUp key2, windowsKeyUp key1]

/-- `windowsKeyCombo` with three keys. -/
def windowsKeyCombo3 (key1 key2 key3 : ℕ) : List (Stroke ℕ) :=
  [windowsKeyDown key1, windowsKeyDown key2, windowsKeyDown key3, windowsKeyUp key3,
    windowsKeyUp key2, windowsKeyUp key1]

theorem windowsKeyCombo2_eq (key1 key2 : ℕ) :
    windowsKeyCombo2 key1 key2 = Stroke.chord [key1, key2] := rfl

theorem windowsKeyCombo3_eq (key1 key2 key3 : ℕ) :
    windowsKeyCombo3 key1 key2 key3 = Stroke.chord [key1, key2, key3] := rfl

variable {F : Type} [Arithmetic F]

/-- The test of `applyCharms` for the middle of the screen. -/
def isMiddle (aspectNormalized : Vector3 F) : Bool :=
  Arithmetic.le (lit (1 / 20)) aspectNormalized.x &&
    Arithmetic.le aspectNormalized.x (lit (19 / 20)) &&
    Arithmetic.le (lit (1 / 20)) aspectNormalized.y &&
    Arithmetic.le aspectNormalized.y (lit (19 / 20))

/-- `applyCharms`: the inputs it sends, and the mode it leaves. The keys of characters depend on the
layout of the keyboard (`VkKeyScan`). -/
def applyCharms (vkKeyScan : Char → ℕ) (aspectNormalized : Vector3 F)
    (numPointablesActive charmsMode : ℤ) : List (Stroke ℕ) × ℤ :=
  if charmsMode = 0 ∧ numPointablesActive = 1 then
    if Arithmetic.le (lit (107 / 100)) aspectNormalized.x then
      (windowsKeyCombo2 VK_LWIN (vkKeyScan 'c'), 1)
    else if Arithmetic.le aspectNormalized.x (-lit (7 / 100)) then
      (windowsKeyCombo3 VK_LWIN VK_CONTROL VK_TAB, 2)
    else if Arithmetic.le aspectNormalized.y (-lit (7 / 100)) then
      (windowsKeyCombo2 VK_LWIN (vkKeyScan 'z'), 3)
    else ([], charmsMode)
  else if isMiddle aspectNormalized then ([], 0)
  else ([], charmsMode)

end OSInteractionDriverWin

open OSInteractionDriverWin

/-- The arguments of a call of `applyCharms`, with the mode before it. -/
structure CharmsCall (F : Type) where
  aspectNormalized : Vector3 F
  numPointablesActive : ℤ
  charmsMode : ℤ

namespace CharmsCall

variable {F : Type} [Arithmetic F] (vkKeyScan : Char → ℕ) (c : CharmsCall F)

/-- The inputs that the call sends. -/
def inputs : List (Stroke ℕ) :=
  (applyCharms vkKeyScan c.aspectNormalized c.numPointablesActive c.charmsMode).1

/-- The mode that it leaves. -/
def modeAfter : ℤ :=
  (applyCharms vkKeyScan c.aspectNormalized c.numPointablesActive c.charmsMode).2

/-- The call as the interaction modes record it. -/
def toOSCall : OSCall F :=
  .applyCharms c.aspectNormalized c.numPointablesActive (c.modeAfter vkKeyScan)

/-- The call sends a key combination. -/
def Sends : Prop := c.inputs vkKeyScan ≠ []

/-- The pointable is in the middle of the screen. -/
def IsMiddle : Prop := isMiddle c.aspectNormalized = true

/-- The keys of the combinations: those of Windows and C, of Windows, Ctrl and Tab, and of Windows
and Z. -/
def keys : ℤ → List ℕ
  | 1 => [VK_LWIN, vkKeyScan 'c']
  | 2 => [VK_LWIN, VK_CONTROL, VK_TAB]
  | 3 => [VK_LWIN, vkKeyScan 'z']
  | _ => []

/-- **What is sent**: where the mode was 0, the combination of the mode that the call leaves. -/
theorem inputs_eq :
    c.inputs vkKeyScan =
      if c.charmsMode = 0 then Stroke.chord (keys vkKeyScan (c.modeAfter vkKeyScan)) else [] := by
  rw [inputs, modeAfter, applyCharms]
  by_cases hmode : c.charmsMode = 0
  · rw [if_pos hmode, hmode]
    split_ifs
    · exact windowsKeyCombo2_eq _ _
    · exact windowsKeyCombo3_eq _ _ _
    · exact windowsKeyCombo2_eq _ _
    -- without a combination the mode stays 0
    · rfl
    · rfl
    · rfl
  · rw [if_neg hmode, if_neg fun h ↦ hmode h.1]
    split_ifs <;> rfl

variable {vkKeyScan c}

theorem exists_inputs_eq_chord : ∃ keys, c.inputs vkKeyScan = Stroke.chord keys := by
  rw [inputs_eq]
  split_ifs
  · exact ⟨_, rfl⟩
  · exact ⟨[], rfl⟩

theorem Sends.charmsMode (h : c.Sends vkKeyScan) : c.charmsMode = 0 := by
  by_contra hmode
  rw [Sends, inputs_eq, if_neg hmode] at h
  exact h rfl

/-- Where a combination is sent, its keys are down together, and no others are. -/
theorem Sends.held_take_inputs (h : c.Sends vkKeyScan) (key : ℕ) :
    Stroke.held ((c.inputs vkKeyScan).take (keys vkKeyScan (c.modeAfter vkKeyScan)).length) key =
      decide (key ∈ keys vkKeyScan (c.modeAfter vkKeyScan)) := by
  rw [inputs_eq, if_pos h.charmsMode, Stroke.held_take_chord]

/-- A call that leaves the mode 0 finds it so and sends nothing, or is one in the middle. -/
theorem of_modeAfter (h : c.modeAfter vkKeyScan = 0) :
    c.charmsMode = 0 ∧ ¬c.Sends vkKeyScan ∨ c.IsMiddle := by
  by_cases hmode : c.charmsMode = 0
  · refine .inl ⟨hmode, fun hsends ↦ hsends ?_⟩
    rw [inputs_eq, if_pos hmode, h]
    rfl
  · right
    rw [modeAfter, applyCharms, if_neg fun h ↦ hmode h.1] at h
    by_contra hmiddle
    rw [IsMiddle] at hmiddle
    rw [if_neg hmiddle] at h
    exact hmode h

/-- **No key is left down.** -/
theorem held_flatMap_inputs (calls : List (CharmsCall F)) :
    Stroke.held (calls.flatMap (inputs vkKeyScan)) = fun _ ↦ false :=
  Stroke.held_flatMap_chord fun _ _ ↦ exists_inputs_eq_chord

end CharmsCall

/-- How the mode of the charms and the calls with it come about: the mode is -1 at first and
whenever no pointable is there, and a call leaves the mode for what follows. -/
inductive CharmsRun {F : Type} [Arithmetic F] (vkKeyScan : Char → ℕ) :
    List (CharmsCall F) → ℤ → Prop
  | start : CharmsRun vkKeyScan [] (-1)
  | reset {calls : List (CharmsCall F)} {mode : ℤ} (h : CharmsRun vkKeyScan calls mode) :
      CharmsRun vkKeyScan calls (-1)
  | call {calls : List (CharmsCall F)} (c : CharmsCall F)
      (h : CharmsRun vkKeyScan calls c.charmsMode) :
      CharmsRun vkKeyScan (calls ++ [c]) (c.modeAfter vkKeyScan)

/-- Is this a call of `applyCharms`? -/
def OSCall.isCharms {F : Type} : OSCall F → Bool
  | applyCharms _ _ _ => true
  | _ => false

namespace CharmsRun

variable {F : Type} [Arithmetic F] {vkKeyScan : Char → ℕ} {calls : List (CharmsCall F)} {mode : ℤ}

theorem latched_and_armed (h : CharmsRun vkKeyScan calls mode) :
    Latched CharmsCall.IsMiddle (CharmsCall.Sends vkKeyScan) calls ∧
      (mode = 0 → Armed CharmsCall.IsMiddle (CharmsCall.Sends vkKeyScan) calls) := by
  induction h with
  | start => exact ⟨latched_nil, fun h ↦ absurd h (by decide)⟩
  | reset h ih => exact ⟨ih.1, fun h ↦ absurd h (by decide)⟩
  | call c h ih =>
    refine ⟨ih.1.concat fun hsends ↦ ih.2 hsends.charmsMode, fun hmode ↦ ?_⟩
    rcases CharmsCall.of_modeAfter hmode with ⟨hzero, hsends⟩ | hmiddle
    · exact (ih.2 hzero).concat hsends
    · exact .of_arms hmiddle

/-- **A combination is sent** only where a pointable has come back to the middle of the screen since
the last one. -/
theorem latched (h : CharmsRun vkKeyScan calls mode) :
    Latched CharmsCall.IsMiddle (CharmsCall.Sends vkKeyScan) calls := h.latched_and_armed.1

end CharmsRun

/-- The calls of the charms among the calls of a mode, and the mode of the charms, come about in a
run of the charms. -/
def CharmsRecorded {F : Type} [Arithmetic F] (vkKeyScan : Char → ℕ) (osCalls : List (OSCall F))
    (mode : ℤ) : Prop :=
  ∃ log, CharmsRun vkKeyScan log mode ∧
    osCalls.filter OSCall.isCharms = log.map (CharmsCall.toOSCall vkKeyScan)

namespace CharmsRecorded

variable {F : Type} [Arithmetic F] {vkKeyScan : Char → ℕ} {osCalls sent : List (OSCall F)}
  {mode : ℤ}

theorem start : CharmsRecorded vkKeyScan ([] : List (OSCall F)) (-1) := ⟨[], .start, rfl⟩

theorem reset (h : CharmsRecorded vkKeyScan osCalls mode) :
    CharmsRecorded vkKeyScan osCalls (-1) := by
  obtain ⟨log, hrun, hlog⟩ := h
  exact ⟨log, hrun.reset, hlog⟩

theorem call {c : CharmsCall F} (h : CharmsRecorded vkKeyScan osCalls c.charmsMode) :
    CharmsRecorded vkKeyScan (osCalls ++ [c.toOSCall vkKeyScan]) (c.modeAfter vkKeyScan) := by
  obtain ⟨log, hrun, hlog⟩ := h
  refine ⟨log ++ [c], hrun.call c, ?_⟩
  rw [List.filter_append, hlog, List.map_append]
  rfl

/-- Other calls do not matter. -/
theorem append (h : CharmsRecorded vkKeyScan osCalls mode)
    (hsent : ∀ call ∈ sent, call.isCharms = false) :
    CharmsRecorded vkKeyScan (osCalls ++ sent) mode := by
  obtain ⟨log, hrun, hlog⟩ := h
  have hnone : sent.filter OSCall.isCharms = [] := by
    refine List.filter_eq_nil_iff.2 fun call hcall ↦ ?_
    rw [hsent call hcall]
    exact Bool.false_ne_true
  refine ⟨log, hrun, ?_⟩
  rw [List.filter_append, hnone, List.append_nil, hlog]

theorem concat {other : OSCall F} (h : CharmsRecorded vkKeyScan osCalls mode)
    (hother : other.isCharms = false) : CharmsRecorded vkKeyScan (osCalls ++ [other]) mode :=
  h.append fun _ hcall ↦ List.eq_of_mem_singleton hcall ▸ hother

/-- **The key combinations** that have been sent. -/
theorem combinations (h : CharmsRecorded vkKeyScan osCalls mode) :
    ∃ log, CharmsRun vkKeyScan log mode ∧
      osCalls.filter OSCall.isCharms = log.map (CharmsCall.toOSCall vkKeyScan) ∧
      Latched CharmsCall.IsMiddle (CharmsCall.Sends vkKeyScan) log ∧
      Stroke.held (log.flatMap (CharmsCall.inputs vkKeyScan)) = fun _ ↦ false := by
  obtain ⟨log, hrun, hlog⟩ := h
  exact ⟨log, hrun, hlog, hrun.latched, CharmsCall.held_flatMap_inputs log⟩

end CharmsRecorded

/-- The charms of the Windows driver. -/
def Environment.windowsCharms {leap : Leap} (vkKeyScan : Char → ℕ) (env : Environment leap) :
    Environment leap :=
  { env with
    applyCharms := fun aspectNormalized numPointablesActive charmsMode ↦
      (OSInteractionDriverWin.applyCharms vkKeyScan aspectNormalized numPointablesActive
        charmsMode).2 }

end Touchless
