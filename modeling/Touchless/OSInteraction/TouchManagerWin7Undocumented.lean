import Mathlib.Data.List.Nodup
import Touchless.OSInteraction.OSInteractionWin
import Touchless.OSInteraction.TouchManager

/-!
# Touches under Windows 7, by the undocumented call

`TouchManagerWin7Undocumented`: changes of touches are sent to the window that the first of them has
captured, if that is a touch window. The flags for a touch that stays are the wrong way round in
each of the four combinations of its old and new contact (`updateFlags_down`, `updateFlags_up`,
`updateFlags_move`), so the contact of such a touch is never announced as it changes
(`run_announces_iff`).
-/

namespace Touchless.TouchManagerWin7Undocumented

open OSInteractionDriverWin (toInt)

def TOUCHEVENTF_MOVE : ℕ := 0x0001
def TOUCHEVENTF_DOWN : ℕ := 0x0002
def TOUCHEVENTF_UP : ℕ := 0x0004
def TOUCHEVENTF_INRANGE : ℕ := 0x0008
def TOUCHEVENTF_PRIMARY : ℕ := 0x0010

def TOUCHINPUTMASKF_CONTACTAREA : ℕ := 0x0004

/-- A window handle; `none` is the null handle. -/
abbrev Hwnd := Option ℕ

/-- What the window system answers. -/
structure WindowSystem where
  windowFromPhysicalPoint : ℤ × ℤ → Hwnd
  isTouchWindow : Hwnd → Bool

/-- A `TOUCHINPUT` without the fields that stay zero, and the window that it is sent to. -/
structure TouchInput where
  hwnd : Hwnd
  x : ℤ
  y : ℤ
  /-- `dwID` -/
  id : ℕ
  /-- `dwFlags` -/
  flags : ℕ
  /-- `dwMask` -/
  mask : ℕ
  cxContact : ℕ
  cyContact : ℕ

/-- The members, with a log of the inputs that `ZwUserSendTouchInput` was given. The primary touch
id is unknown until it is set. -/
structure Members where
  /-- `m_capture` -/
  capture : Hwnd
  /-- `m_primaryTouchID` -/
  primaryTouchID : Option ℕ
  sent : List TouchInput

/-- The input that is composed for a touch. -/
def contact (hwnd : Hwnd) (touch : Touch LPFloat) (flags : ℕ) : TouchInput where
  hwnd := hwnd
  x := toInt (100 * touch.x)
  y := toInt (100 * touch.y)
  id := touch.id
  flags := flags
  mask := TOUCHINPUTMASKF_CONTACTAREA
  cxContact := 4
  cyContact := 4

variable (W : WindowSystem)

/-- `TranslateAndSend`. The search for a child window at the end has no effect. -/
def translateAndSend (hwnd : Hwnd) (touch : Touch LPFloat) (flags : ℕ) (w : Members) : Members :=
  if W.isTouchWindow hwnd then { w with sent := w.sent ++ [contact hwnd touch flags] } else w

/-- `AddTouch`. -/
def addTouch (touch : Touch LPFloat) (w : Members) : Members :=
  let contactFlag := if touch.touching then TOUCHEVENTF_DOWN else 0
  if w.capture.isNone then
    let w := { w with
      capture := W.windowFromPhysicalPoint (toInt touch.x, toInt touch.y)
      primaryTouchID := some touch.id }
    translateAndSend W w.capture touch
      (TOUCHEVENTF_PRIMARY ||| (TOUCHEVENTF_INRANGE ||| contactFlag)) w
  else translateAndSend W w.capture touch (0 ||| (TOUCHEVENTF_INRANGE ||| contactFlag)) w

/-- The flags of `UpdateTouch`. -/
def updateFlags (oldTouch touch : Touch LPFloat) : ℕ :=
  TOUCHEVENTF_INRANGE |||
    if touch.touching then if oldTouch.touching then TOUCHEVENTF_DOWN else TOUCHEVENTF_MOVE
    else if oldTouch.touching then TOUCHEVENTF_MOVE else TOUCHEVENTF_UP

/-- `UpdateTouch`. -/
def updateTouch (oldTouch touch : Touch LPFloat) (w : Members) : Members :=
  if w.capture.isNone then w
  else translateAndSend W w.capture touch (updateFlags oldTouch touch) w

/-- `RemoveTouch`. -/
def removeTouch (touch : Touch LPFloat) (w : Members) : Members :=
  translateAndSend W w.capture touch TOUCHEVENTF_UP w

/-- `OnRemoveAllTouches`. -/
def onRemoveAllTouches (w : Members) : Members := { w with capture := none }

/-- The virtual functions. -/
def backend : TouchBackend LPFloat Members where
  addTouch := addTouch W
  updateTouch := updateTouch W
  removeTouch := removeTouch W
  finishFrame := id
  onRemoveAllTouches := onRemoveAllTouches

/-- The constructor. -/
def construct : TouchManager LPFloat Members := .construct ⟨none, none, []⟩

/-! ### What a call sends -/

variable {W}

/-- The inputs so far for a touch. -/
def sentFor (id : ℕ) (w : Members) : List TouchInput := w.sent.filter fun e ↦ e.id = id

/-- An operation only adds inputs, all of them for one touch. -/
def SendsFor (op : Members → Members) (id : ℕ) : Prop :=
  ∀ w, ∃ inputs : List TouchInput, (op w).sent = w.sent ++ inputs ∧ ∀ e ∈ inputs, e.id = id

theorem translateAndSend_sendsFor (hwnd : Hwnd) (touch : Touch LPFloat) (flags : ℕ) :
    SendsFor (translateAndSend W hwnd touch flags) touch.id := by
  intro w
  rw [translateAndSend]
  split_ifs
  · refine ⟨[contact hwnd touch flags], rfl, fun e he ↦ ?_⟩
    rw [List.mem_singleton.1 he]
    rfl
  · exact ⟨[], (List.append_nil _).symm, by simp⟩

theorem addTouch_sendsFor (touch : Touch LPFloat) : SendsFor (addTouch W touch) touch.id := by
  intro w
  by_cases hcapture : w.capture.isNone = true
  · simp only [addTouch, if_pos hcapture]
    exact translateAndSend_sendsFor _ touch _ { w with
      capture := W.windowFromPhysicalPoint (toInt touch.x, toInt touch.y)
      primaryTouchID := some touch.id }
  · simp only [addTouch, if_neg hcapture]
    exact translateAndSend_sendsFor _ touch _ w

theorem updateTouch_sendsFor (oldTouch touch : Touch LPFloat) :
    SendsFor (updateTouch W oldTouch touch) touch.id := by
  intro w
  rw [updateTouch]
  split_ifs
  · exact ⟨[], (List.append_nil _).symm, by simp⟩
  · exact translateAndSend_sendsFor _ touch _ w

theorem removeTouch_sendsFor (touch : Touch LPFloat) : SendsFor (removeTouch W touch) touch.id :=
  fun w ↦ translateAndSend_sendsFor _ touch _ w

theorem apply_sendsFor {old new : TouchSet LPFloat} {c : TouchManager.Change LPFloat}
    (h : c ∈ TouchManager.changes old new) : SendsFor (fun w ↦ c.apply (backend W) w) c.id := by
  rcases TouchManager.mem_changes h with ⟨s, rfl, -, -⟩ | ⟨t, rfl, -, -⟩ | ⟨s, t, rfl, hs, -⟩
  · exact removeTouch_sendsFor s
  · exact addTouch_sendsFor t
  · rw [TouchManager.Change.id, TouchSet.id_eq hs]
    exact updateTouch_sendsFor s t

/-- Changes of other touches send nothing for a touch. -/
theorem sentFor_foldl {id : ℕ} : ∀ (cs : List (TouchManager.Change LPFloat)) (w : Members),
    (∀ c ∈ cs, SendsFor (fun w ↦ c.apply (backend W) w) c.id) → (∀ c ∈ cs, c.id ≠ id) →
    sentFor id (cs.foldl (TouchManager.Change.apply (backend W)) w) = sentFor id w := by
  intro cs
  induction cs with
  | nil => exact fun w _ _ ↦ rfl
  | cons c cs ih =>
    intro w hsends hne
    obtain ⟨inputs, hsent, hids⟩ := hsends c List.mem_cons_self w
    rw [List.foldl_cons, ih _ (fun d hd ↦ hsends d (List.mem_cons_of_mem c hd)) fun d hd ↦
      hne d (List.mem_cons_of_mem c hd)]
    have hnil : inputs.filter (fun e ↦ e.id = id) = [] := by
      rw [List.filter_eq_nil_iff]
      intro e he
      rw [hids e he]
      simpa using hne c List.mem_cons_self
    rw [sentFor, hsent, List.filter_append, hnil, List.append_nil, sentFor]

/-- What an update sends, from the members that it finds. -/
def updateInputs (W : WindowSystem) (w : Members) (oldTouch touch : Touch LPFloat) :
    List TouchInput :=
  if w.capture.isSome && W.isTouchWindow w.capture then
    [contact w.capture touch (updateFlags oldTouch touch)]
  else []

theorem sent_updateTouch (oldTouch touch : Touch LPFloat) (w : Members) :
    (updateTouch W oldTouch touch w).sent = w.sent ++ updateInputs W w oldTouch touch := by
  rw [updateTouch, translateAndSend, updateInputs]
  cases w.capture <;> simp
  split_ifs <;> simp

theorem sent_finish (m : TouchManager LPFloat Members) :
    (TouchManager.finish (backend W) m).backend.sent = m.backend.sent := by
  rw [TouchManager.finish]
  dsimp only
  split_ifs <;> rfl

/-- **What a call sends for a touch that stays**: what its update sends. -/
theorem sentFor_exec {m : TouchManager LPFloat Members} {call : TouchManager.Call LPFloat}
    {s t : Touch LPFloat} (hs : m.touches.find? t.id = some s)
    (ht : call.touches.find? t.id = some t) :
    ∃ w, sentFor t.id (TouchManager.exec (backend W) m call).backend =
      sentFor t.id m.backend ++ updateInputs W w s t := by
  cases call with
  | clearTouches => exact absurd ht (by simp [TouchManager.Call.touches])
  | setTouches new =>
    -- the update is the only change under its id
    replace ht : new.find? t.id = some t := ht
    have hid : (TouchManager.Change.update s t).id = t.id := TouchSet.id_eq hs
    have hnodup := TouchManager.nodup_ids_changes m.touches new
    have hsends := fun c (hc : c ∈ TouchManager.changes m.touches new) ↦ apply_sendsFor (W := W) hc
    obtain ⟨before, after, hsplit⟩ :=
      List.append_of_mem (TouchManager.update_mem_changes hs ht)
    rw [hsplit] at hnodup hsends
    rw [List.map_append, List.map_cons, hid, List.nodup_middle, List.nodup_cons, List.mem_append,
      not_or] at hnodup
    obtain ⟨⟨hbefore, hafter⟩, -⟩ := hnodup
    have hfirst : ∀ c ∈ before, c.id ≠ t.id := fun c hc heq ↦
      hbefore (heq ▸ List.mem_map_of_mem hc)
    have hlast : ∀ c ∈ after, c.id ≠ t.id := fun c hc heq ↦ hafter (heq ▸ List.mem_map_of_mem hc)
    set w := before.foldl (TouchManager.Change.apply (backend W)) m.backend with hw
    -- all that an update sends is under the id of its touch
    have hself : (updateInputs W w s t).filter (fun e ↦ e.id = t.id) = updateInputs W w s t := by
      rw [updateInputs]
      split_ifs <;> simp [contact]
    refine ⟨w, ?_⟩
    calc sentFor t.id (TouchManager.setTouches (backend W) m new).backend
        = sentFor t.id (after.foldl (TouchManager.Change.apply (backend W))
            (updateTouch W s t w)) := by
          rw [TouchManager.setTouches_eq, hsplit, sentFor, sent_finish, List.foldl_append]
          rfl
      _ = sentFor t.id (updateTouch W s t w) :=
          sentFor_foldl after _ (fun c hc ↦ hsends c (by simp [hc])) hlast
      _ = sentFor t.id w ++ updateInputs W w s t := by
          rw [sentFor, sent_updateTouch, List.filter_append, hself, sentFor]
      _ = sentFor t.id m.backend ++ updateInputs W w s t := by
          rw [hw, sentFor_foldl before _ (fun c hc ↦ hsends c (by simp [hc])) hfirst]

/-- A call only adds inputs. -/
theorem prefix_sent_exec (W : WindowSystem) (m : TouchManager LPFloat Members)
    (call : TouchManager.Call LPFloat) :
    m.backend.sent <+: (TouchManager.exec (backend W) m call).backend.sent := by
  have hset : ∀ new,
      m.backend.sent <+: (TouchManager.setTouches (backend W) m new).backend.sent := by
    intro new
    rw [TouchManager.setTouches_eq, sent_finish]
    refine List.foldlRecOn (motive := fun w : Members ↦ m.backend.sent <+: w.sent) _ _
      (List.prefix_refl _) fun w hw c hc ↦ ?_
    obtain ⟨inputs, hsent, -⟩ := apply_sendsFor (W := W) hc w
    exact hw.trans ⟨inputs, hsent.symm⟩
  cases call with
  | setTouches new => exact hset new
  | clearTouches =>
    rw [TouchManager.exec, TouchManager.clearTouches]
    split_ifs
    · exact List.prefix_refl _
    · exact hset .empty

/-- The inputs that a call sends. -/
def sentBy (W : WindowSystem) (m : TouchManager LPFloat Members)
    (call : TouchManager.Call LPFloat) : List TouchInput :=
  (TouchManager.exec (backend W) m call).backend.sent.drop m.backend.sent.length

/-- A call sends an input with a flag for a touch. -/
def Sends (W : WindowSystem) (m : TouchManager LPFloat Members)
    (call : TouchManager.Call LPFloat) (id flag : ℕ) : Prop :=
  ∃ e ∈ sentBy W m call, e.id = id ∧ e.flags &&& flag ≠ 0

/-- For a touch that stays, these are the inputs of its update. -/
theorem sends_iff {m : TouchManager LPFloat Members} {call : TouchManager.Call LPFloat}
    {s t : Touch LPFloat} (hs : m.touches.find? t.id = some s)
    (ht : call.touches.find? t.id = some t) :
    ∃ w, ∀ flag, Sends W m call t.id flag ↔ ∃ e ∈ updateInputs W w s t, e.flags &&& flag ≠ 0 := by
  obtain ⟨w, hw⟩ := sentFor_exec (W := W) hs ht
  obtain ⟨inputs, hinputs⟩ := prefix_sent_exec W m call
  have hsentBy : sentBy W m call = inputs := by
    rw [sentBy, ← hinputs, List.drop_left]
  have hfilter : inputs.filter (fun e ↦ e.id = t.id) = updateInputs W w s t := by
    rw [sentFor, ← hinputs, List.filter_append] at hw
    exact List.append_cancel_left hw
  refine ⟨w, fun flag ↦ ?_⟩
  rw [Sends, hsentBy, ← hfilter]
  simp only [List.mem_filter, decide_eq_true_eq, and_assoc]

/-! ### The flags of an update -/

section Flags

variable {oldTouch touch : Touch LPFloat}

theorem updateFlags_down : updateFlags oldTouch touch &&& TOUCHEVENTF_DOWN ≠ 0 ↔
    oldTouch.touching = true ∧ touch.touching = true := by
  cases hold : oldTouch.touching <;> cases hnew : touch.touching <;>
    simp [updateFlags, hold, hnew, TOUCHEVENTF_INRANGE, TOUCHEVENTF_DOWN, TOUCHEVENTF_UP,
      TOUCHEVENTF_MOVE]

theorem updateFlags_up : updateFlags oldTouch touch &&& TOUCHEVENTF_UP ≠ 0 ↔
    oldTouch.touching = false ∧ touch.touching = false := by
  cases hold : oldTouch.touching <;> cases hnew : touch.touching <;>
    simp [updateFlags, hold, hnew, TOUCHEVENTF_INRANGE, TOUCHEVENTF_DOWN, TOUCHEVENTF_UP,
      TOUCHEVENTF_MOVE]

theorem updateFlags_move : updateFlags oldTouch touch &&& TOUCHEVENTF_MOVE ≠ 0 ↔
    oldTouch.touching ≠ touch.touching := by
  cases hold : oldTouch.touching <;> cases hnew : touch.touching <;>
    simp [updateFlags, hold, hnew, TOUCHEVENTF_INRANGE, TOUCHEVENTF_DOWN, TOUCHEVENTF_UP,
      TOUCHEVENTF_MOVE]

end Flags

/-- **No update announces what happens**: each combination of contacts gets the flags of another. -/
theorem not_announces_updateInputs (W : WindowSystem) (w : Members) (s t : Touch LPFloat) :
    ¬TouchManager.Announces s t
      (∃ e ∈ updateInputs W w s t, e.flags &&& TOUCHEVENTF_DOWN ≠ 0)
      (∃ e ∈ updateInputs W w s t, e.flags &&& TOUCHEVENTF_UP ≠ 0)
      (∃ e ∈ updateInputs W w s t, e.flags &&& TOUCHEVENTF_MOVE ≠ 0) := by
  rintro ⟨hdown, hup, hmove⟩
  have hflags : ∀ e ∈ updateInputs W w s t, e.flags = updateFlags s t := by
    intro e he
    rw [updateInputs] at he
    split_ifs at he
    · rw [List.mem_singleton.1 he]
      rfl
    · exact absurd he (by simp)
  -- where the contact stays there is no `MOVE`, and where it changes there is nothing else
  by_cases hsame : s.touching = t.touching
  · obtain ⟨e, he, hflag⟩ := hmove hsame
    rw [hflags e he, updateFlags_move] at hflag
    exact hflag hsame
  · cases hs : s.touching with
    | false =>
      have ht : t.touching = true := by simpa [hs] using hsame
      obtain ⟨e, he, hflag⟩ := hdown.2 ⟨hs, ht⟩
      rw [hflags e he, updateFlags_down, hs] at hflag
      exact Bool.false_ne_true hflag.1
    | true =>
      have ht : t.touching = false := by simpa [hs] using hsame
      obtain ⟨e, he, hflag⟩ := hup.2 ⟨hs, ht⟩
      rw [hflags e he, updateFlags_up, hs] at hflag
      exact Bool.false_ne_true hflag.1.symm

/-- The contact of every touch that stays is announced as it changes. -/
def AnnouncesAll (W : WindowSystem) (m : TouchManager LPFloat Members)
    (call : TouchManager.Call LPFloat) : Prop :=
  ∀ id s t, m.touches.find? id = some s → call.touches.find? id = some t →
    TouchManager.Announces s t (Sends W m call id TOUCHEVENTF_DOWN)
      (Sends W m call id TOUCHEVENTF_UP) (Sends W m call id TOUCHEVENTF_MOVE)

/-- No touch stays. -/
def NoneStays (old new : TouchSet LPFloat) : Prop :=
  ∀ id, (old.find? id).isSome = true → new.find? id = none

theorem announcesAll_iff (W : WindowSystem) (m : TouchManager LPFloat Members)
    (call : TouchManager.Call LPFloat) :
    AnnouncesAll W m call ↔ NoneStays m.touches call.touches := by
  constructor
  · intro h id hsome
    obtain ⟨s, hs⟩ := Option.isSome_iff_exists.1 hsome
    rw [Option.eq_none_iff_forall_ne_some]
    intro t ht
    obtain rfl := TouchSet.id_eq ht
    obtain ⟨w, hsends⟩ := sends_iff (W := W) hs ht
    have hannounces := h t.id s t hs ht
    simp only [hsends] at hannounces
    exact not_announces_updateInputs W w s t hannounces
  · intro h id s t hs ht
    rw [h id (by rw [hs]; rfl)] at ht
    exact absurd ht (by simp)

/-- **When contacts are announced as they change**: in every run, throughout all calls, exactly if
no touch is there both before and after a call, whatever the window system answers. -/
theorem run_announces_iff (calls : List (WindowSystem × TouchManager.Call LPFloat)) :
    (∀ earlier call later, calls = earlier ++ call :: later →
      AnnouncesAll call.1 (TouchManager.runIn backend construct earlier) call.2) ↔
    List.IsChain NoneStays (.empty :: calls.map fun call ↦ call.2.touches) := by
  rw [show TouchSet.empty = construct.touches from rfl,
    TouchManager.isChain_touches_runIn_iff backend construct calls]
  refine forall_congr' fun earlier ↦ forall_congr' fun call ↦ forall_congr' fun later ↦
    imp_congr_right fun _ ↦ ?_
  exact announcesAll_iff call.1 _ call.2

/-- One window covers the screen and takes touches. -/
def touchWindow : WindowSystem := ⟨fun _ ↦ some 1, fun _ ↦ true⟩

/-- A touch that hovers and then presses is announced to move. -/
theorem run_announces_press :
    ¬∀ calls earlier call later, calls = earlier ++ call :: later →
      AnnouncesAll call.1 (TouchManager.runIn backend construct earlier) call.2 := by
  intro h
  let old : Touch LPFloat := ⟨3, 0, 10, 10, false⟩
  let new : Touch LPFloat := ⟨3, 1, 10, 10, true⟩
  let hover := TouchManager.Call.setTouches (TouchSet.empty.insert old)
  let press := TouchManager.Call.setTouches (TouchSet.empty.insert new)
  have hsent : sentBy touchWindow (TouchManager.runIn backend construct [(touchWindow, hover)])
      press = [contact (some 1) new (updateFlags old new)] := rfl
  have hannounces := h [(touchWindow, hover), (touchWindow, press)] [_] _ [] rfl 3 old new rfl rfl
  obtain ⟨e, he, -, hdown⟩ := hannounces.down.2 ⟨rfl, rfl⟩
  obtain rfl := List.mem_singleton.1 (hsent ▸ he)
  exact Bool.false_ne_true (updateFlags_down.1 hdown).1

end Touchless.TouchManagerWin7Undocumented
