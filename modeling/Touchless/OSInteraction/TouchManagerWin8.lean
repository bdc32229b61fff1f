import Mathlib.Data.List.Nodup
import Touchless.OSInteraction.OSInteractionWin
import Touchless.OSInteraction.TouchManager

/-!
# Touches under Windows 8

`TouchManagerWin8`: every change of a touch is queued as a record with pointer flags, and at the end
of a call the queue is injected as one frame. Two questions about the stream of records: does it
keep the contact protocol for each touch (`run_contactProtocol`), and do the pointer ids, which are
the touch ids modulo `MAX_TOUCH_COUNT`, keep the touches apart (`run_separated_iff`)?
-/

namespace Touchless.TouchManagerWin8

open OSInteractionDriverWin (toInt)

/-! ### The records -/

def POINTER_FLAG_INRANGE : ℕ := 0x00000002
def POINTER_FLAG_INCONTACT : ℕ := 0x00000004
def POINTER_FLAG_DOWN : ℕ := 0x00010000
def POINTER_FLAG_UPDATE : ℕ := 0x00020000
def POINTER_FLAG_UP : ℕ := 0x00040000

def TOUCH_FLAG_NONE : ℕ := 0x0000000
def TOUCH_MASK_CONTACTAREA : ℕ := 0x0000001
def TOUCH_MASK_ORIENTATION : ℕ := 0x0000002
def TOUCH_MASK_PRESSURE : ℕ := 0x0000004

def PT_TOUCH : ℕ := 0x00000002

def MAX_TOUCH_COUNT : ℕ := 256

structure Rect where
  left : ℤ
  top : ℤ
  right : ℤ
  bottom : ℤ

/-- `POINTER_INFO`, without the fields that stay zero. -/
structure PointerInfo where
  pointerType : ℕ
  pointerId : ℕ
  pointerFlags : ℕ
  /-- `ptPixelLocation` -/
  pixelLocation : ℤ × ℤ

/-- `POINTER_TOUCH_INFO`, without the fields that stay zero. -/
structure PointerTouchInfo where
  pointerInfo : PointerInfo
  touchFlags : ℕ
  touchMask : ℕ
  /-- `rcContact` -/
  contact : Rect
  orientation : ℕ
  pressure : ℕ

/-- A record of the queue, with the id of the touch it was made for. -/
structure Queued where
  touchId : ℕ
  info : PointerTouchInfo

/-- The members, with a log of the frames that `NtUserInjectTouchInput` was given. -/
structure Members where
  /-- `m_TouchQueue` -/
  touchQueue : List Queued
  injected : List (List Queued)

/-- The record that `TranslateAndSend` queues. -/
def translate (touch : Touch LPFloat) (pointerFlags : ℕ) : Queued :=
  let x := toInt (touch.x - 1 / 2)
  let y := toInt (touch.y + 1 / 2)
  { touchId := touch.id
    info :=
      { pointerInfo :=
          { pointerType := PT_TOUCH
            pointerId := touch.id % MAX_TOUCH_COUNT
            pointerFlags := pointerFlags
            pixelLocation := (x, y) }
        touchFlags := TOUCH_FLAG_NONE
        touchMask := TOUCH_MASK_CONTACTAREA ||| TOUCH_MASK_ORIENTATION ||| TOUCH_MASK_PRESSURE
        contact := { left := x - 2, top := y - 2, right := x + 2, bottom := y + 2 }
        orientation := 90
        pressure := 32000 } }

/-- `TranslateAndSend`. -/
def translateAndSend (touch : Touch LPFloat) (pointerFlags : ℕ) (w : Members) : Members :=
  { w with touchQueue := w.touchQueue ++ [translate touch pointerFlags] }

/-- `AddTouch`. -/
def addTouch (touch : Touch LPFloat) (w : Members) : Members :=
  if touch.touching then
    translateAndSend touch (POINTER_FLAG_INRANGE ||| POINTER_FLAG_INCONTACT ||| POINTER_FLAG_DOWN) w
  else translateAndSend touch (POINTER_FLAG_INRANGE ||| POINTER_FLAG_UPDATE) w

/-- `UpdateTouch`. -/
def updateTouch (oldTouch newTouch : Touch LPFloat) (w : Members) : Members :=
  if newTouch.touching && oldTouch.touching then
    translateAndSend newTouch
      (POINTER_FLAG_INRANGE ||| POINTER_FLAG_INCONTACT ||| POINTER_FLAG_UPDATE) w
  else if newTouch.touching && !oldTouch.touching then
    translateAndSend newTouch
      (POINTER_FLAG_INRANGE ||| POINTER_FLAG_INCONTACT ||| POINTER_FLAG_DOWN) w
  else if !newTouch.touching && oldTouch.touching then
    translateAndSend oldTouch (POINTER_FLAG_INRANGE ||| POINTER_FLAG_UP) w
  else translateAndSend newTouch (POINTER_FLAG_INRANGE ||| POINTER_FLAG_UPDATE) w

/-- `RemoveTouch`. -/
def removeTouch (oldTouch : Touch LPFloat) (w : Members) : Members :=
  if oldTouch.touching then translateAndSend oldTouch POINTER_FLAG_UP w
  else translateAndSend oldTouch POINTER_FLAG_UPDATE w

/-- `FinishFrame`. -/
def finishFrame (w : Members) : Members :=
  if w.touchQueue.isEmpty then w
  else { touchQueue := [], injected := w.injected ++ [w.touchQueue] }

/-- The virtual functions. -/
def backend : TouchBackend LPFloat Members where
  addTouch := addTouch
  updateTouch := updateTouch
  removeTouch := removeTouch
  finishFrame := finishFrame
  onRemoveAllTouches := id

/-- The constructor. -/
def construct : TouchManager LPFloat Members := .construct ⟨[], []⟩

/-- All records so far, in order. -/
def stream (w : Members) : List Queued := w.injected.flatten ++ w.touchQueue

@[simp]
theorem stream_translateAndSend (touch : Touch LPFloat) (pointerFlags : ℕ) (w : Members) :
    stream (translateAndSend touch pointerFlags w) = stream w ++
      [translate touch pointerFlags] := by
  simp [stream, translateAndSend]

@[simp]
theorem stream_finishFrame (w : Members) : stream (finishFrame w) = stream w := by
  rw [finishFrame]
  split_ifs <;> simp [stream]

/-! ### The contact protocol -/

/-- What pointer flags mean for the contact of a touch: `DOWN` opens it, `UP` closes it, an `UPDATE`
in contact needs it, and one that is not in contact, a hover, excludes it. -/
def flagRole (pointerFlags : ℕ) : Bracket Unit :=
  if pointerFlags &&& POINTER_FLAG_DOWN ≠ 0 then .opens ()
  else if pointerFlags &&& POINTER_FLAG_UP ≠ 0 then .closes
  else if pointerFlags &&& POINTER_FLAG_UPDATE ≠ 0 then
    if pointerFlags &&& POINTER_FLAG_INCONTACT ≠ 0 then .needs fun _ ↦ true else .excludes
  else .idle

/-- What a record means for the contact of a touch. -/
def role (id : ℕ) (r : Queued) : Bracket Unit :=
  if r.touchId = id then flagRole r.info.pointerInfo.pointerFlags else .idle

section Flags

/- The six combinations that the code uses. -/

theorem flagRole_down :
    flagRole (POINTER_FLAG_INRANGE ||| POINTER_FLAG_INCONTACT ||| POINTER_FLAG_DOWN) =
      .opens () := by
  simp [flagRole, POINTER_FLAG_INRANGE, POINTER_FLAG_INCONTACT, POINTER_FLAG_DOWN]

theorem flagRole_contact :
    flagRole (POINTER_FLAG_INRANGE ||| POINTER_FLAG_INCONTACT ||| POINTER_FLAG_UPDATE) =
      .needs fun _ ↦ true := by
  simp [flagRole, POINTER_FLAG_INRANGE, POINTER_FLAG_INCONTACT, POINTER_FLAG_DOWN,
    POINTER_FLAG_UP, POINTER_FLAG_UPDATE]

theorem flagRole_hover : flagRole (POINTER_FLAG_INRANGE ||| POINTER_FLAG_UPDATE) = .excludes := by
  simp [flagRole, POINTER_FLAG_INRANGE, POINTER_FLAG_INCONTACT, POINTER_FLAG_DOWN,
    POINTER_FLAG_UP, POINTER_FLAG_UPDATE]

theorem flagRole_up : flagRole (POINTER_FLAG_INRANGE ||| POINTER_FLAG_UP) = .closes := by
  simp [flagRole, POINTER_FLAG_INRANGE, POINTER_FLAG_DOWN, POINTER_FLAG_UP]

theorem flagRole_removed_up : flagRole POINTER_FLAG_UP = .closes := by
  simp [flagRole, POINTER_FLAG_DOWN, POINTER_FLAG_UP]

theorem flagRole_removed_hover : flagRole POINTER_FLAG_UPDATE = .excludes := by
  simp [flagRole, POINTER_FLAG_INCONTACT, POINTER_FLAG_DOWN, POINTER_FLAG_UP, POINTER_FLAG_UPDATE]

end Flags

theorem role_translate (touch : Touch LPFloat) (pointerFlags : ℕ) :
    role touch.id (translate touch pointerFlags) = flagRole pointerFlags := if_pos rfl

theorem role_of_ne {id : ℕ} {touch : Touch LPFloat} (pointerFlags : ℕ) (h : touch.id ≠ id) :
    role id (translate touch pointerFlags) = .idle := if_neg h

/-- The contact of a stored touch. -/
def contact : Option (Touch LPFloat) → Option Unit
  | some t => if t.touching then some () else none
  | none => none

/-- A virtual function queues one record for a touch, and the record takes the contact of the touch
from one stored state to another. -/
def Queues (op : Members → Members) (id : ℕ) (old new : Option (Touch LPFloat)) : Prop :=
  ∃ touch pointerFlags, touch.id = id ∧ (∀ w, op w = translateAndSend touch pointerFlags w) ∧
    Bracket.step (contact old) (flagRole pointerFlags) = some (contact new)

theorem addTouch_queues (t : Touch LPFloat) : Queues (addTouch t) t.id none (some t) := by
  cases ht : t.touching with
  | true =>
    refine ⟨t, _, rfl, fun w ↦ by rw [addTouch, if_pos ht], ?_⟩
    rw [flagRole_down]
    simp [contact, ht, Bracket.step]
  | false =>
    refine ⟨t, _, rfl, fun w ↦ by rw [addTouch, if_neg (by rw [ht]; exact Bool.false_ne_true)], ?_⟩
    rw [flagRole_hover]
    simp [contact, ht, Bracket.step]

theorem updateTouch_queues {s t : Touch LPFloat} (hid : s.id = t.id) :
    Queues (updateTouch s t) t.id (some s) (some t) := by
  cases hs : s.touching <;> cases ht : t.touching
  case true.true =>
    refine ⟨t, _, rfl, fun w ↦ by rw [updateTouch, hs, ht]; rfl, ?_⟩
    rw [flagRole_contact]
    simp [contact, hs, ht, Bracket.step]
  case false.true =>
    refine ⟨t, _, rfl, fun w ↦ by rw [updateTouch, hs, ht]; rfl, ?_⟩
    rw [flagRole_down]
    simp [contact, hs, ht, Bracket.step]
  case true.false =>
    -- the release is reported where the touch was
    refine ⟨s, _, hid, fun w ↦ by rw [updateTouch, hs, ht]; rfl, ?_⟩
    rw [flagRole_up]
    simp [contact, hs, ht, Bracket.step]
  case false.false =>
    refine ⟨t, _, rfl, fun w ↦ by rw [updateTouch, hs, ht]; rfl, ?_⟩
    rw [flagRole_hover]
    simp [contact, hs, ht, Bracket.step]

theorem removeTouch_queues (s : Touch LPFloat) : Queues (removeTouch s) s.id (some s) none := by
  cases hs : s.touching with
  | true =>
    refine ⟨s, _, rfl, fun w ↦ by rw [removeTouch, if_pos hs], ?_⟩
    rw [flagRole_removed_up]
    simp [contact, hs, Bracket.step]
  | false =>
    refine ⟨s, _, rfl,
      fun w ↦ by rw [removeTouch, if_neg (by rw [hs]; exact Bool.false_ne_true)], ?_⟩
    rw [flagRole_removed_hover]
    simp [contact, hs, Bracket.step]

/-- The stream has been in order, and has left every touch in the contact that is stored. -/
def Matched (m : TouchManager LPFloat Members) : Prop :=
  ∀ id, Bracket.replay (role id) none (stream m.backend) = some (contact (m.touches.find? id))

/-- **One record**, and the stored set after it. -/
theorem Matched.step {m m' : TouchManager LPFloat Members} (h : Matched m) (op : Members → Members)
    (id : ℕ) (hq : Queues op id (m.touches.find? id) (m'.touches.find? id))
    (hbackend : m'.backend = op m.backend)
    (hother : ∀ i, i ≠ id → m'.touches.find? i = m.touches.find? i) : Matched m' := by
  obtain ⟨touch, pointerFlags, rfl, hop, hstep⟩ := hq
  intro i
  rw [hbackend, hop, stream_translateAndSend, Bracket.replay_append, h i, Option.bind_some]
  by_cases hi : i = touch.id
  · subst hi
    simpa [Bracket.replay, role_translate] using hstep
  · rw [hother i hi]
    have hidle := role_of_ne pointerFlags (Ne.symm hi)
    cases hcontact : contact (m.touches.find? i) <;> simp [Bracket.replay, hidle, Bracket.step]

theorem matched_visitPrior {m : TouchManager LPFloat Members} (new : TouchSet LPFloat) (i : ℕ)
    (h : Matched m) : Matched (TouchManager.visitPrior backend new m i) := by
  rw [TouchManager.visitPrior]
  cases hprior : m.touches.find? i with
  | none => exact h
  | some s =>
    obtain rfl := TouchSet.id_eq hprior
    dsimp only
    cases hnew : new.find? s.id with
    | some t => exact h
    | none =>
      have hgone : (m.touches.erase s.id).find? s.id = none := by
        rw [TouchSet.find?_erase, if_pos rfl]
      refine h.step (removeTouch s) s.id ?_ rfl fun i hi ↦ ?_
      · rw [hprior]
        show Queues _ _ _ ((m.touches.erase s.id).find? s.id)
        rw [hgone]
        exact removeTouch_queues s
      · exact TouchSet.find?_erase.trans (if_neg hi)

theorem matched_visitNew {m : TouchManager LPFloat Members} (t : Touch LPFloat) (h : Matched m) :
    Matched (TouchManager.visitNew backend m t) := by
  rw [TouchManager.visitNew]
  cases hprior : m.touches.find? t.id with
  | none =>
    refine h.step (addTouch t) t.id ?_ rfl fun i hi ↦ ?_
    · rw [hprior]
      show Queues _ _ _ ((m.touches.insert t).find? t.id)
      rw [TouchSet.find?_insert, if_pos rfl]
      exact addTouch_queues t
    · exact TouchSet.find?_insert.trans (if_neg hi)
  | some s =>
    have hid := TouchSet.id_eq hprior
    refine h.step (updateTouch s t) t.id ?_ rfl fun i hi ↦ ?_
    · rw [hprior]
      show Queues _ _ _ (((m.touches.erase s.id).insert t).find? t.id)
      rw [TouchSet.find?_insert, if_pos rfl]
      exact updateTouch_queues hid
    · show ((m.touches.erase s.id).insert t).find? i = _
      rw [TouchSet.find?_insert, if_neg hi, TouchSet.find?_erase, if_neg (by rwa [hid])]

theorem matched_finish {m : TouchManager LPFloat Members} (h : Matched m) :
    Matched (TouchManager.finish backend m) := by
  have hbackend : (TouchManager.finish backend m).backend = finishFrame m.backend := by
    simp [TouchManager.finish, backend]
  intro i
  rw [hbackend, stream_finishFrame]
  exact h i

theorem matched_construct : Matched construct := fun _ ↦ rfl

theorem matched_run (calls : List (TouchManager.Call LPFloat)) :
    Matched (TouchManager.run backend construct calls) :=
  TouchManager.run_invariant backend matched_construct calls
    (fun new _ i h ↦ matched_visitPrior new i h) (fun _ t h ↦ matched_visitNew t h)
    fun _ h ↦ matched_finish h

/-! ### The frames -/

/-- The record of a change. -/
theorem apply_change {old new : TouchSet LPFloat} {c : TouchManager.Change LPFloat}
    (h : c ∈ TouchManager.changes old new) : ∃ touch pointerFlags, touch.id = c.id ∧
      ∀ w, c.apply backend w = translateAndSend touch pointerFlags w := by
  rcases TouchManager.mem_changes h with ⟨s, rfl, -, -⟩ | ⟨t, rfl, -, -⟩ | ⟨s, t, rfl, hs, -⟩
  · obtain ⟨touch, pointerFlags, hid, hop, -⟩ := removeTouch_queues s
    exact ⟨touch, pointerFlags, hid, hop⟩
  · obtain ⟨touch, pointerFlags, hid, hop, -⟩ := addTouch_queues t
    exact ⟨touch, pointerFlags, hid, hop⟩
  · obtain ⟨touch, pointerFlags, hid, hop, -⟩ := updateTouch_queues (TouchSet.id_eq hs)
    exact ⟨touch, pointerFlags, hid.trans (TouchSet.id_eq hs).symm, hop⟩

/-- The queue after a list of changes: a record for each, under its id. -/
theorem foldl_apply : ∀ (cs : List (TouchManager.Change LPFloat)) (w : Members),
    (∀ c ∈ cs, ∃ touch pointerFlags, touch.id = c.id ∧
      ∀ w, c.apply backend w = translateAndSend touch pointerFlags w) →
    ∃ records : List Queued, cs.foldl (TouchManager.Change.apply backend) w =
        { w with touchQueue := w.touchQueue ++ records } ∧
      records.map Queued.touchId = cs.map TouchManager.Change.id ∧
      ∀ r ∈ records, r.info.pointerInfo.pointerId = r.touchId % MAX_TOUCH_COUNT := by
  intro cs
  induction cs with
  | nil => exact fun w _ ↦ ⟨[], by simp, rfl, by simp⟩
  | cons c cs ih =>
    intro w h
    obtain ⟨touch, pointerFlags, hid, hop⟩ := h c List.mem_cons_self
    obtain ⟨records, hfold, hids, hpointers⟩ :=
      ih (translateAndSend touch pointerFlags w) fun d hd ↦ h d (List.mem_cons_of_mem c hd)
    refine ⟨translate touch pointerFlags :: records, ?_, ?_, ?_⟩
    · rw [List.foldl_cons, hop, hfold]
      simp [translateAndSend]
    · rw [List.map_cons, List.map_cons, hids, ← hid]
      rfl
    · intro r hr
      rcases List.mem_cons.1 hr with rfl | hr
      · rfl
      · exact hpointers r hr

/-- The records that a call injects: one for each change. -/
structure IsFrame (old new : TouchSet LPFloat) (records : List Queued) : Prop where
  ids : records.map Queued.touchId = (TouchManager.changes old new).map TouchManager.Change.id
  pointers : ∀ r ∈ records, r.info.pointerInfo.pointerId = r.touchId % MAX_TOUCH_COUNT

/-- **What a call injects**: at most one frame, with the records of the changes. The queue is left
empty. -/
theorem exec_injected {m : TouchManager LPFloat Members} (hqueue : m.backend.touchQueue = [])
    (call : TouchManager.Call LPFloat) : ∃ frames : List (List Queued), frames.length ≤ 1 ∧
      IsFrame m.touches call.touches frames.flatten ∧
      (TouchManager.exec backend m call).backend = ⟨[], m.backend.injected ++ frames⟩ := by
  have hset : ∀ new, ∃ frames : List (List Queued), frames.length ≤ 1 ∧
      IsFrame m.touches new frames.flatten ∧
      (TouchManager.setTouches backend m new).backend = ⟨[], m.backend.injected ++ frames⟩ := by
    intro new
    obtain ⟨records, hfold, hids, hpointers⟩ :=
      foldl_apply (TouchManager.changes m.touches new) m.backend fun c hc ↦ apply_change hc
    rw [TouchManager.setTouches_eq, hfold]
    cases records with
    -- without a change nothing is injected
    | nil =>
      exact ⟨[], by simp, ⟨hids, hpointers⟩, by
        simp [TouchManager.finish, backend, finishFrame, hqueue]⟩
    | cons r records =>
      refine ⟨[r :: records], by simp, ?_, ?_⟩
      · rw [List.flatten_singleton]
        exact ⟨hids, hpointers⟩
      · simp [TouchManager.finish, backend, finishFrame, hqueue]
  cases call with
  | setTouches new => exact hset new
  | clearTouches =>
    rw [TouchManager.exec, TouchManager.clearTouches]
    split_ifs with hempty
    · refine ⟨[], by simp, ⟨?_, by simp⟩, ?_⟩
      · rw [TouchSet.isEmpty_iff.1 hempty]
        rfl
      · rw [← hqueue, List.append_nil]
    · exact hset .empty

/-- The queue is empty between calls. -/
theorem run_touchQueue (calls : List (TouchManager.Call LPFloat)) :
    (TouchManager.run backend construct calls).backend.touchQueue = [] := by
  refine List.foldlRecOn (motive := fun m : TouchManager LPFloat Members ↦
    m.backend.touchQueue = []) calls _ rfl fun m hm call _ ↦ ?_
  obtain ⟨frames, -, -, hexec⟩ := exec_injected hm call
  rw [hexec]

/-- **The contact protocol**: throughout every run, the records of each touch are in order, and its
last `DOWN` is unmatched exactly if it is stored as touching; and a call injects at most one record
for each touch. -/
theorem run_contactProtocol (earlier : List (TouchManager.Call LPFloat))
    (call : TouchManager.Call LPFloat) :
    (∀ m ∈ TouchManager.during backend (TouchManager.run backend construct earlier) call, ∀ id,
      Bracket.WellBracketed (role id) (stream m.backend) ∧
      (Bracket.Opened (role id) (fun _ ↦ true) (stream m.backend) ↔
        ∃ t, m.touches.find? id = some t ∧ t.touching = true)) ∧
    ∃ frames, (TouchManager.run backend construct (earlier ++ [call])).backend.injected =
        (TouchManager.run backend construct earlier).backend.injected ++ frames ∧
      (frames.flatten.map Queued.touchId).Nodup := by
  constructor
  · intro m hm id
    have hmatched : Matched m := TouchManager.during_invariant backend (matched_run earlier) call
      (fun _ i h ↦ matched_visitPrior call.touches i h) (fun _ h t _ ↦ matched_visitNew t h)
      (fun _ h ↦ matched_finish h) m hm
    refine ⟨Bracket.replay_wellBracketed (hmatched id), ?_⟩
    rw [Bracket.opened_iff_of_replay (hmatched id)]
    cases hfind : m.touches.find? id with
    | none => simp [contact]
    | some t => simp [contact]
  · obtain ⟨frames, -, hframe, hexec⟩ := exec_injected (run_touchQueue earlier) call
    refine ⟨frames, ?_, ?_⟩
    · rw [TouchManager.run, List.foldl_append]
      exact congrArg Members.injected hexec
    · rw [hframe.ids]
      exact TouchManager.nodup_ids_changes _ _

/-! ### The pointer ids -/

/-- The pointer id that a record is reported under. -/
def Queued.pointerId (r : Queued) : ℕ := r.info.pointerInfo.pointerId

/-- The pointer ids tell the touches apart, in the frames that a call injects, and among the touches
that are active at any point of it. -/
structure Separated (m : TouchManager LPFloat Members) (call : TouchManager.Call LPFloat) :
    Prop where
  frames : ∀ frames, (TouchManager.exec backend m call).backend.injected =
    m.backend.injected ++ frames → ∀ frame ∈ frames, (frame.map Queued.pointerId).Nodup
  active : ∀ x ∈ TouchManager.during backend m call, ∀ r ∈ stream x.backend,
    ∀ s ∈ stream x.backend, (x.touches.find? r.touchId).isSome = true →
      (x.touches.find? s.touchId).isSome = true → r.pointerId = s.pointerId → r.touchId = s.touchId

/-- The touches before and after a call have different ids modulo `MAX_TOUCH_COUNT`. -/
def DistinctPointers (old new : TouchSet LPFloat) : Prop :=
  ∀ i j, i ∈ old.ids ∨ i ∈ new.ids → j ∈ old.ids ∨ j ∈ new.ids →
    i % MAX_TOUCH_COUNT = j % MAX_TOUCH_COUNT → i = j

/-- All records so far have the pointer ids of their touches. -/
def Reduced (w : Members) : Prop :=
  ∀ r ∈ stream w, r.pointerId = r.touchId % MAX_TOUCH_COUNT

theorem Reduced.translateAndSend {w : Members} (h : Reduced w) (touch : Touch LPFloat)
    (pointerFlags : ℕ) : Reduced (translateAndSend touch pointerFlags w) := by
  intro r hr
  rw [stream_translateAndSend, List.mem_append, List.mem_singleton] at hr
  rcases hr with hr | rfl
  · exact h r hr
  · rfl

theorem Reduced.queues {w : Members} (h : Reduced w) {op : Members → Members} {id : ℕ}
    {old new : Option (Touch LPFloat)} (hq : Queues op id old new) : Reduced (op w) := by
  obtain ⟨touch, pointerFlags, -, hop, -⟩ := hq
  rw [hop]
  exact h.translateAndSend touch pointerFlags

/-- What holds of a manager throughout a call between two sets. -/
structure Within (old new : TouchSet LPFloat) (m : TouchManager LPFloat Members) : Prop where
  reduced : Reduced m.backend
  stored : ∀ i, (m.touches.find? i).isSome = true → i ∈ old.ids ∨ i ∈ new.ids

section Within

variable {old new : TouchSet LPFloat} {m : TouchManager LPFloat Members}

theorem Within.visitPrior (h : Within old new m) (i : ℕ) :
    Within old new (TouchManager.visitPrior backend new m i) := by
  rw [TouchManager.visitPrior]
  cases hprior : m.touches.find? i with
  | none => exact h
  | some s =>
    dsimp only
    cases new.find? s.id with
    | some t => exact h
    | none =>
      refine ⟨h.reduced.queues (removeTouch_queues s), fun i hi ↦ h.stored i ?_⟩
      rw [TouchSet.find?_erase] at hi
      split_ifs at hi
      · exact absurd hi (by simp)
      · exact hi

theorem Within.visitNew (h : Within old new m) {t : Touch LPFloat} (ht : t ∈ new.toList) :
    Within old new (TouchManager.visitNew backend m t) := by
  have hself : t.id ∈ new.ids := TouchSet.mem_ids.2 (by rw [TouchSet.mem_toList.1 ht]; rfl)
  rw [TouchManager.visitNew]
  cases hprior : m.touches.find? t.id with
  | none =>
    refine ⟨h.reduced.queues (addTouch_queues t), fun i hi ↦ ?_⟩
    rw [TouchSet.find?_insert] at hi
    split_ifs at hi with hid
    · exact .inr (hid ▸ hself)
    · exact h.stored i hi
  | some s =>
    refine ⟨h.reduced.queues (updateTouch_queues (TouchSet.id_eq hprior)), fun i hi ↦ ?_⟩
    rw [TouchSet.find?_insert, TouchSet.find?_erase, TouchSet.id_eq hprior] at hi
    split_ifs at hi with hid
    · exact .inr (hid ▸ hself)
    · exact h.stored i hi

theorem Within.finish (h : Within old new m) : Within old new (TouchManager.finish backend m) := by
  have hbackend : (TouchManager.finish backend m).backend = finishFrame m.backend := by
    simp [TouchManager.finish, backend]
  refine ⟨?_, h.stored⟩
  rw [hbackend, Reduced, stream_finishFrame]
  exact h.reduced

end Within

theorem reduced_run (calls : List (TouchManager.Call LPFloat)) :
    Reduced (TouchManager.run backend construct calls).backend := by
  refine (List.foldlRecOn (motive := fun m : TouchManager LPFloat Members ↦
    m.backend.touchQueue = [] ∧ Reduced m.backend) calls _ ⟨rfl, fun r hr ↦ ?_⟩
    fun m ⟨hqueue, h⟩ call _ ↦ ?_).2
  · simp [stream, construct, TouchManager.construct] at hr
  · obtain ⟨frames, -, hframe, hexec⟩ := exec_injected hqueue call
    rw [hexec]
    refine ⟨rfl, fun r hr ↦ ?_⟩
    rw [stream, List.append_nil, List.flatten_append, List.mem_append] at hr
    rcases hr with hr | hr
    · exact h r (List.mem_append_left _ hr)
    · exact hframe.pointers r hr

/-- Throughout a call. -/
theorem within_during {m : TouchManager LPFloat Members} (h : Reduced m.backend)
    (call : TouchManager.Call LPFloat) :
    ∀ x ∈ TouchManager.during backend m call, Within m.touches call.touches x :=
  TouchManager.during_invariant backend ⟨h, fun _ hi ↦ .inl (TouchSet.mem_ids.2 hi)⟩ call
    (fun _ i h ↦ h.visitPrior i) (fun _ h _ ht ↦ h.visitNew ht) fun _ h ↦ h.finish

/-- **One call** keeps the touches apart exactly if their ids differ modulo `MAX_TOUCH_COUNT`. -/
theorem separated_iff_distinctPointers {m : TouchManager LPFloat Members}
    (hqueue : m.backend.touchQueue = []) (hreduced : Reduced m.backend)
    (call : TouchManager.Call LPFloat) :
    Separated m call ↔ DistinctPointers m.touches call.touches := by
  obtain ⟨frames, hlength, hframe, hexec⟩ := exec_injected hqueue call
  have hinjected : (TouchManager.exec backend m call).backend.injected =
      m.backend.injected ++ frames := congrArg Members.injected hexec
  have hids : ∀ i, (∃ r ∈ frames.flatten, r.touchId = i) ↔
      i ∈ m.touches.ids ∨ i ∈ call.touches.ids := fun i ↦ by
    rw [← TouchManager.mem_ids_changes, ← hframe.ids, List.mem_map]
  constructor
  · -- two ids that agree modulo the count are the ids of two records of the one frame
    intro h i j hi hj hij
    obtain ⟨r, hr, rfl⟩ := (hids i).2 hi
    obtain ⟨s, hs, rfl⟩ := (hids j).2 hj
    have hnodup : (frames.flatten.map Queued.pointerId).Nodup := by
      match frames, hlength with
      | [], _ => exact List.nodup_nil
      | [frame], _ =>
        rw [List.flatten_singleton]
        exact h.frames [frame] hinjected frame List.mem_cons_self
    have hpointer : r.pointerId = s.pointerId :=
      (hframe.pointers r hr).trans (hij.trans (hframe.pointers s hs).symm)
    exact congrArg Queued.touchId (List.inj_on_of_nodup_map hnodup hr hs hpointer)
  · intro h
    refine ⟨fun frames' hframes' frame hmem ↦ ?_, fun x hx r hr s hs hactive hactive' heq ↦ ?_⟩
    · -- within a frame the ids differ, and so do the pointer ids
      obtain rfl : frames' = frames := List.append_cancel_left (hframes'.symm.trans hinjected)
      have hsub : ∀ r ∈ frame, r ∈ frames'.flatten := fun r hr ↦
        List.mem_flatten.2 ⟨frame, hmem, hr⟩
      have hnodup : (frame.map Queued.touchId).Nodup := by
        have hall := hframe.ids ▸ TouchManager.nodup_ids_changes m.touches call.touches
        exact hall.sublist ((List.sublist_flatten_of_mem hmem).map _)
      refine List.Nodup.map_on (fun r hr s hs heq ↦ ?_) hnodup.of_map
      have hid : r.touchId = s.touchId :=
        h _ _ ((hids _).1 ⟨r, hsub r hr, rfl⟩) ((hids _).1 ⟨s, hsub s hs, rfl⟩)
          ((hframe.pointers r (hsub r hr)).symm.trans
            (heq.trans (hframe.pointers s (hsub s hs))))
      exact List.inj_on_of_nodup_map hnodup hr hs hid
    · -- throughout the call, what is in contact is a touch of before or after it
      have hwithin := within_during hreduced call x hx
      refine h _ _ (hwithin.stored _ hactive) (hwithin.stored _ hactive') ?_
      rw [← hwithin.reduced r hr, ← hwithin.reduced s hs, heq]

/-- **When pointer ids tell the touches apart**: in every run, throughout all calls, exactly if in
each call the ids of the touches before and after it differ modulo `MAX_TOUCH_COUNT`. -/
theorem run_separated_iff (calls : List (TouchManager.Call LPFloat)) :
    (∀ earlier call later, calls = earlier ++ call :: later →
      Separated (TouchManager.run backend construct earlier) call) ↔
    List.IsChain DistinctPointers (.empty :: calls.map TouchManager.Call.touches) := by
  rw [show TouchSet.empty = construct.touches from rfl,
    TouchManager.isChain_touches_iff backend construct calls]
  refine forall_congr' fun earlier ↦ forall_congr' fun call ↦ forall_congr' fun later ↦
    imp_congr_right fun _ ↦ ?_
  exact separated_iff_distinctPointers (run_touchQueue earlier) (reduced_run earlier) call

/-- Two touches, both in contact, whose ids differ by `MAX_TOUCH_COUNT`. -/
def collidingTouches : TouchSet LPFloat :=
  (TouchSet.empty.insert ⟨0, 0, 0, 0, true⟩).insert ⟨256, 0, 10, 10, true⟩

/-- They are injected in one frame under one pointer id. -/
theorem run_separated_collidingTouches :
    ¬∀ calls earlier call later, calls = earlier ++ call :: later →
      Separated (TouchManager.run backend construct earlier) call := by
  intro h
  let down := POINTER_FLAG_INRANGE ||| POINTER_FLAG_INCONTACT ||| POINTER_FLAG_DOWN
  have hinjected : (TouchManager.exec backend construct
      (.setTouches collidingTouches)).backend.injected =
      construct.backend.injected ++
        [[translate ⟨0, 0, 0, 0, true⟩ down, translate ⟨256, 0, 10, 10, true⟩ down]] := rfl
  have hseparated := h [.setTouches collidingTouches] [] _ [] rfl
  have hnodup := hseparated.frames _ hinjected _ List.mem_cons_self
  simp [Queued.pointerId, translate, MAX_TOUCH_COUNT] at hnodup

end Touchless.TouchManagerWin8
