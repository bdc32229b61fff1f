import Touchless.OSInteraction.TouchManager
import Touchless.Utility.LPVirtualScreen

/-!
# Touches under Windows 7, by the touch driver

`TouchManagerWin7Driver`: every change of a touch is sent to the driver as a HID report, with the
contact of the touch as it is now; for a touch that disappears that is its contact as it last was.
So the driver is left with a contact exactly if a touch in contact disappears (`run_released_iff`).
-/

namespace Touchless.TouchManagerWin7Driver

/-- The arguments of `SendReport`, and the touch that it is sent for. -/
structure Report where
  touchId : ℕ
  /-- the id as a byte -/
  contactId : ℕ
  touching : Bool
  x : LPFloat
  y : LPFloat
  width : LPFloat
  height : LPFloat

/-- `NormalizeTouch`. -/
def normalizeTouch (v : LPVirtualScreen) (touch : Touch LPFloat) : Touch LPFloat :=
  let output := v.normalize ⟨touch.x, touch.y⟩ true
  { touch with x := output.x, y := output.y }

/-- The report that `SendReport` sends. -/
def report (touch : Touch LPFloat) : Report where
  touchId := touch.id
  contactId := touch.id % 2 ^ 8
  touching := touch.touching
  x := touch.x
  y := touch.y
  width := 1 / 2
  height := 1 / 2

/-- `AddTouch`, on the reports so far. -/
def addTouch (v : LPVirtualScreen) (touchDenorm : Touch LPFloat) (reports : List Report) :
    List Report :=
  reports ++ [report (normalizeTouch v touchDenorm)]

/-- `UpdateTouch`. -/
def updateTouch (v : LPVirtualScreen) (_oldTouch touchDenorm : Touch LPFloat)
    (reports : List Report) : List Report :=
  reports ++ [report (normalizeTouch v touchDenorm)]

/-- `RemoveTouch`. -/
def removeTouch (v : LPVirtualScreen) (touchDenorm : Touch LPFloat) (reports : List Report) :
    List Report :=
  reports ++ [report (normalizeTouch v touchDenorm)]

/-- The virtual functions. -/
def backend (v : LPVirtualScreen) : TouchBackend LPFloat (List Report) where
  addTouch := addTouch v
  updateTouch := updateTouch v
  removeTouch := removeTouch v
  finishFrame := id
  onRemoveAllTouches := id

/-- The constructor. -/
def construct : TouchManager LPFloat (List Report) := .construct []

/-- The last report for a touch. -/
def lastReport? (id : ℕ) (reports : List Report) : Option Report :=
  (reports.filter fun r ↦ r.touchId = id).getLast?

/-- The touch that a change is reported with. -/
def reported : TouchManager.Change LPFloat → Touch LPFloat
  | .remove old => old
  | .add new => new
  | .update _ new => new

section Reports

variable {id : ℕ} {m : TouchManager LPFloat (List Report)} {old new : TouchSet LPFloat}

/-- What is reported for an id when one set of touches is replaced by another. -/
def lastState (old new : TouchSet LPFloat) (id : ℕ) : Option (Touch LPFloat) :=
  (new.find? id).or (old.find? id)

theorem lastReport?_append (first second : List Report) :
    lastReport? id (first ++ second) = (lastReport? id second).or (lastReport? id first) := by
  rw [lastReport?, List.filter_append, List.getLast?_append]
  rfl

/-- Every change of an id reports its last state. -/
theorem reported_eq {c : TouchManager.Change LPFloat} (h : c ∈ TouchManager.changes old new) :
    lastState old new c.id = some (reported c) ∧ c.id = (reported c).id := by
  rcases TouchManager.mem_changes h with
    ⟨s, rfl, hold, hnew⟩ | ⟨t, rfl, hold, hnew⟩ | ⟨s, t, rfl, hold, hnew⟩
  · exact ⟨by rw [lastState, TouchManager.Change.id, hnew, hold]; rfl, rfl⟩
  · exact ⟨by rw [lastState, TouchManager.Change.id, hnew]; rfl, rfl⟩
  · have hid := TouchSet.id_eq hold
    exact ⟨by rw [lastState, TouchManager.Change.id, hid, hnew]; rfl, hid⟩

theorem foldl_apply (v : LPVirtualScreen) (cs : List (TouchManager.Change LPFloat))
    (reports : List Report) : cs.foldl (TouchManager.Change.apply (backend v)) reports =
      reports ++ cs.map fun c ↦ report (normalizeTouch v (reported c)) := by
  induction cs generalizing reports with
  | nil => simp
  | cons c cs ih =>
    have happly : c.apply (backend v) reports =
        reports ++ [report (normalizeTouch v (reported c))] := by
      cases c <;> rfl
    rw [List.foldl_cons, happly, ih]
    simp

/-- **The reports of a call.** -/
theorem exec_reports (v : LPVirtualScreen) (m : TouchManager LPFloat (List Report))
    (call : TouchManager.Call LPFloat) : (TouchManager.exec (backend v) m call).backend =
      m.backend ++ (TouchManager.changes m.touches call.touches).map fun c ↦
        report (normalizeTouch v (reported c)) := by
  have hset : ∀ new, (TouchManager.setTouches (backend v) m new).backend =
      m.backend ++ (TouchManager.changes m.touches new).map fun c ↦
        report (normalizeTouch v (reported c)) := by
    intro new
    rw [TouchManager.setTouches_eq, foldl_apply]
    simp [TouchManager.finish, backend]
  cases call with
  | setTouches new => exact hset new
  | clearTouches =>
    rw [TouchManager.exec, TouchManager.clearTouches]
    split_ifs with hempty
    · rw [TouchManager.Call.touches, TouchSet.isEmpty_iff.1 hempty]
      exact (List.append_nil _).symm
    · exact hset .empty

/-- The contact that a call leaves reported for an id. -/
theorem touching_lastReport?_changes (v : LPVirtualScreen) (old new : TouchSet LPFloat) (id : ℕ) :
    (lastReport? id ((TouchManager.changes old new).map fun c ↦
      report (normalizeTouch v (reported c)))).map Report.touching =
    (lastState old new id).map Touch.touching := by
  cases hlast : lastReport? id ((TouchManager.changes old new).map fun c ↦
      report (normalizeTouch v (reported c))) with
  | some r =>
    obtain ⟨hmem, hid⟩ := List.mem_filter.1 (List.mem_of_getLast? hlast)
    obtain ⟨c, hc, rfl⟩ := List.mem_map.1 hmem
    obtain ⟨hstate, hcid⟩ := reported_eq hc
    obtain rfl : (reported c).id = id := by simpa [report, normalizeTouch] using hid
    rw [← hcid, hstate]
    rfl
  | none =>
    -- without a report there is no change, so the id is in neither set
    have hids : id ∉ (TouchManager.changes old new).map TouchManager.Change.id := by
      intro hmem
      obtain ⟨c, hc, rfl⟩ := List.mem_map.1 hmem
      have hnil := List.getLast?_eq_none_iff.1 hlast
      have hne := List.filter_eq_nil_iff.1 hnil _ (List.mem_map_of_mem hc)
      exact hne (by simpa [report, normalizeTouch] using (reported_eq hc).2.symm)
    rw [TouchManager.mem_ids_changes, TouchSet.mem_ids, TouchSet.mem_ids, not_or] at hids
    simp only [Bool.not_eq_true, Option.isSome_eq_false_iff, Option.isNone_iff_eq_none] at hids
    rw [lastState, hids.1, hids.2]
    rfl

/-- **The contact that is reported last for an id**, after a call. -/
theorem touching_lastReport?_exec (v : LPVirtualScreen) (m : TouchManager LPFloat (List Report))
    (call : TouchManager.Call LPFloat) (id : ℕ) :
    (lastReport? id (TouchManager.exec (backend v) m call).backend).map Report.touching =
      ((lastState m.touches call.touches id).map Touch.touching).or
        ((lastReport? id m.backend).map Report.touching) := by
  rw [exec_reports, lastReport?_append, Option.map_or, touching_lastReport?_changes]

end Reports

/-- No contact is reported that is not stored. -/
def Released (m : TouchManager LPFloat (List Report)) : Prop :=
  ∀ id r, m.touches.find? id = none → lastReport? id m.backend = some r → r.touching = false

/-- No touch disappears in contact. -/
def KeepsContacts (old new : TouchSet LPFloat) : Prop :=
  ∀ id t, old.find? id = some t → t.touching = true → (new.find? id).isSome = true

theorem released_construct : Released construct := by
  intro id r _ hr
  simp [construct, TouchManager.construct, lastReport?] at hr

/-- **One call** releases what disappears exactly if that was released before. -/
theorem released_exec_iff (v : LPVirtualScreen) {m : TouchManager LPFloat (List Report)}
    (hreleased : Released m) (call : TouchManager.Call LPFloat) :
    Released (TouchManager.exec (backend v) m call) ↔ KeepsContacts m.touches call.touches := by
  have hlast := touching_lastReport?_exec v m call
  constructor
  · intro h id t ht htouching
    rw [Option.isSome_iff_ne_none]
    intro hnone
    have hreport := hlast id
    rw [lastState, hnone, ht, Option.none_or, Option.map_some, Option.some_or, htouching,
      Option.map_eq_some_iff] at hreport
    obtain ⟨r, hr, hrtouching⟩ := hreport
    rw [h id r (by rwa [TouchManager.touches_exec]) hr] at hrtouching
    exact Bool.false_ne_true hrtouching
  · intro h id r hnone hr
    rw [TouchManager.touches_exec] at hnone
    have hreport := hlast id
    rw [hr, lastState, hnone, Option.none_or, Option.map_some] at hreport
    cases hold : m.touches.find? id with
    | some t =>
      -- the touch disappears, and is reported as it was
      rw [hold, Option.map_some, Option.some_or, Option.some_inj] at hreport
      rw [hreport]
      by_contra htouching
      have hsome := h id t hold (by simpa using htouching)
      rw [hnone] at hsome
      exact absurd hsome (by simp)
    -- the touch was not there, and its last report is an earlier one
    | none =>
      rw [hold, Option.map_none, Option.none_or] at hreport
      obtain ⟨s, hs, hstouching⟩ := Option.map_eq_some_iff.1 hreport.symm
      rw [← hstouching]
      exact hreleased id s hold hs

/-- **When contacts are released**: in every run, after every call, exactly if no touch disappears
in contact. -/
theorem run_released_iff (calls : List (LPVirtualScreen × TouchManager.Call LPFloat)) :
    (∀ earlier call later, calls = earlier ++ call :: later →
      Released (TouchManager.runIn backend construct (earlier ++ [call]))) ↔
    List.IsChain KeepsContacts (.empty :: calls.map fun call ↦ call.2.touches) :=
  TouchManager.forall_runIn_iff_isChain backend (R := KeepsContacts) (P := Released)
    (fun _ call h ↦ released_exec_iff call.1 h call.2) released_construct calls

/-- A touch in contact. -/
def pressedTouch : Touch LPFloat := ⟨7, 0, 100, 100, true⟩

/-- When all touches are cleared, it stays reported as touching. -/
theorem run_released_pressedTouch :
    ¬∀ calls earlier call later, calls = earlier ++ call :: later →
      Released (TouchManager.runIn backend construct (earlier ++ [call])) := by
  intro h
  let v := LPVirtualScreen.construct
  have hreleased := h
    [(v, .setTouches (TouchSet.empty.insert pressedTouch)), (v, .clearTouches)] [_] _ [] rfl
  have hlast : lastReport? 7 (TouchManager.runIn backend construct
      [(v, .setTouches (TouchSet.empty.insert pressedTouch)), (v, .clearTouches)]).backend =
      some (report (normalizeTouch v pressedTouch)) := rfl
  have htouching : true = false := hreleased 7 _ rfl hlast
  exact Bool.false_ne_true htouching.symm

end Touchless.TouchManagerWin7Driver
