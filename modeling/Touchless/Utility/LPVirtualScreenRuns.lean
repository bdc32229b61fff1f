import Touchless.Utility.LPVirtualScreenClip

/-!
# The position when the screens change

`SetPosition` clips the position to the active screens and stores the index of the screen. `Update`
and `UseDefaultScreen` replace the active screens, and compute the bounds anew, but leave the
position and the index as they are.

So the position is on an active screen after every call exactly if each new list of active screens
happens to have one at the position that is stored, and more screens than the index
(`placed_iff_covered`).
-/

namespace Touchless

namespace LPVirtualScreen

instance (screen : LPScreen) : Decidable (HasPixel screen) := inferInstanceAs (Decidable (_ ∧ _))

/-- The screens that the system reports: at least one, and each with a pixel. -/
structure DetectedScreens where
  screens : List LPScreen
  ne_nil : screens ≠ []
  hasPixel : ∀ s ∈ screens, HasPixel s

/-- The calls that change the position or the screens, with what is detected at the time. -/
inductive Call where
  | setPosition (position : LPPoint)
  | useDefaultScreen (useDefaultScreen : Bool) (detected : DetectedScreens)
  | update (detected : DetectedScreens)

/-- One call. -/
def exec (v : LPVirtualScreen) : Call → LPVirtualScreen
  | .setPosition position => v.setPosition position
  | .useDefaultScreen useDefaultScreen detected =>
    v.setUseDefaultScreen useDefaultScreen detected.screens
  | .update detected => v.update detected.screens

/-- A sequence of calls. -/
def run (v : LPVirtualScreen) (calls : List Call) : LPVirtualScreen := calls.foldl exec v

/-- A new virtual screen. -/
def create (detected : DetectedScreens) : LPVirtualScreen := construct.update detected.screens

/-- Which of the detected screens `Update` makes active. -/
def selectActive (useDefaultScreen : Bool) (screens : List LPScreen) : List LPScreen :=
  if useDefaultScreen ∧ screens.length > 1 then
    match screens.find? LPScreen.isPrimary with
    | some screen => [screen]
    | none => screens.head?.toList
  else screens

@[simp]
theorem activeScreens_update (v : LPVirtualScreen) (screens : List LPScreen) :
    (v.update screens).activeScreens = selectActive v.useDefaultScreen screens := rfl

/-- A position is on one of the screens, and an index names one. -/
def Covered (screens : List LPScreen) (position : LPPoint) (index : ℕ) : Prop :=
  (∃ s ∈ screens, s.bounds.containsPoint position) ∧ index < screens.length

/-- The stored position is on an active screen, and the stored index names one. -/
def Placed (v : LPVirtualScreen) : Prop := Covered v.activeScreens v.position v.screenIndex

/-- If a call makes other screens active, these are screens that have the stored position and index
on them. -/
def StaysCovered (v : LPVirtualScreen) : Call → Prop
  | .setPosition _ => True
  | .useDefaultScreen useDefaultScreen detected => v.useDefaultScreen ≠ useDefaultScreen →
    Covered (selectActive useDefaultScreen detected.screens) v.position v.screenIndex
  | .update detected =>
    Covered (selectActive v.useDefaultScreen detected.screens) v.position v.screenIndex

instance (screens : List LPScreen) (position : LPPoint) (index : ℕ) :
    Decidable (Covered screens position index) := inferInstanceAs (Decidable (_ ∧ _))

instance (v : LPVirtualScreen) : Decidable (Placed v) := inferInstanceAs (Decidable (Covered _ _ _))

/-! ### One call -/

/-- There are active screens, and each has a pixel. -/
def Ready (v : LPVirtualScreen) : Prop :=
  v.activeScreens ≠ [] ∧ ∀ s ∈ v.activeScreens, HasPixel s

theorem ready_update (v : LPVirtualScreen) (detected : DetectedScreens) :
    Ready (v.update detected.screens) :=
  ⟨activeScreens_update_ne_nil v detected.ne_nil,
    fun s hs ↦ detected.hasPixel s (activeScreens_update_subset v detected.screens hs)⟩

theorem ready_exec {v : LPVirtualScreen} (h : Ready v) (call : Call) : Ready (exec v call) := by
  cases call with
  | setPosition position => exact h
  | useDefaultScreen useDefaultScreen detected =>
    rw [exec, setUseDefaultScreen]
    split_ifs
    · exact ready_update _ detected
    · exact h
  | update detected => exact ready_update v detected

theorem ready_run (detected : DetectedScreens) (calls : List Call) :
    Ready (run (create detected) calls) :=
  List.foldlRecOn _ _ (ready_update construct detected) fun _ h call _ ↦ ready_exec h call

/-- `SetPosition` stores a position on an active screen. -/
theorem placed_setPosition {v : LPVirtualScreen} (h : Ready v) (position : LPPoint) :
    Placed (v.setPosition position) := by
  obtain ⟨s, hleast, -⟩ := clipPosition_spec h.1 position
  exact ⟨containsPoint_clipPosition h.1 h.2 position, hleast.lt_length⟩

/-- Another call leaves the position on an active screen exactly if the screens it makes active have
one there. -/
theorem placed_exec_iff {v : LPVirtualScreen} (h : Ready v) (hplaced : Placed v) (call : Call) :
    Placed (exec v call) ↔ StaysCovered v call := by
  cases call with
  | setPosition position => exact iff_of_true (placed_setPosition h position) trivial
  | useDefaultScreen useDefaultScreen detected =>
    rw [exec, setUseDefaultScreen, StaysCovered]
    split_ifs with hchange
    · exact ⟨fun h _ ↦ h, fun h ↦ h hchange⟩
    · exact iff_of_true hplaced fun hne ↦ absurd hne hchange
  | update detected => exact Iff.rfl

/-! ### Runs -/

/-- **The position stays on the active screens**, from the first `SetPosition` on, exactly in the
runs in which, from then on, every list of screens that becomes active has one at the position
stored before, and more screens than the index stored before. -/
theorem placed_iff_covered (detected : DetectedScreens) (calls : List Call) :
    (∀ earlier later, calls = earlier ++ later → (∃ p, .setPosition p ∈ earlier) →
        Placed (run (create detected) earlier)) ↔
      ∀ earlier call later, calls = earlier ++ call :: later → (∃ p, .setPosition p ∈ earlier) →
        StaysCovered (run (create detected) earlier) call := by
  have hconcat : ∀ earlier call, run (create detected) (earlier ++ [call]) =
      exec (run (create detected) earlier) call := by
    simp [run]
  constructor
  · rintro hplaced earlier call later hsplit ⟨p, hp⟩
    have hbefore := hplaced earlier (call :: later) hsplit ⟨p, hp⟩
    have hafter := hplaced (earlier ++ [call]) later (by rw [hsplit]; simp)
      ⟨p, List.mem_append_left _ hp⟩
    rw [hconcat] at hafter
    exact (placed_exec_iff (ready_run detected earlier) hbefore call).1 hafter
  · intro hcovered earlier
    induction earlier using List.reverseRecOn with
    | nil => exact fun _ _ ⟨p, hp⟩ ↦ absurd hp (List.not_mem_nil)
    | append_singleton earlier call ih =>
      rintro later hsplit ⟨p, hp⟩
      have hsplit' : calls = earlier ++ call :: later := by rw [hsplit]; simp
      rw [hconcat]
      rcases List.mem_append.1 hp with hp | hp
      · -- the position was set before, and the call has left it on a screen
        have hbefore := ih (call :: later) hsplit' ⟨p, hp⟩
        exact (placed_exec_iff (ready_run detected earlier) hbefore call).2
          (hcovered earlier call later hsplit' ⟨p, hp⟩)
      · obtain rfl := List.mem_singleton.1 hp
        exact placed_setPosition (ready_run detected earlier) p

/-- The cursor is on the right of two screens when that screen is unplugged. -/
theorem not_placed_after_unplug :
    ¬ ∀ (detected : DetectedScreens) (calls earlier later : List Call),
      calls = earlier ++ later → (∃ p, .setPosition p ∈ earlier) →
        Placed (run (create detected) earlier) := by
  intro hplaced
  let left : LPScreen := ⟨⟨⟨0, 0⟩, ⟨100, 100⟩⟩, true⟩
  let right : LPScreen := ⟨⟨⟨100, 0⟩, ⟨100, 100⟩⟩, false⟩
  let both : DetectedScreens := ⟨[left, right], by decide, by decide +kernel⟩
  let one : DetectedScreens := ⟨[left], by decide, by decide +kernel⟩
  have h := hplaced both _ [.setPosition ⟨150, 50⟩, .update one] [] rfl ⟨_, List.mem_cons_self⟩
  exact absurd h (by decide +kernel)

end LPVirtualScreen

end Touchless
