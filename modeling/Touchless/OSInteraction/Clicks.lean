import Touchless.OSInteraction.OSCall

/-!
# Clicks in the calls to the OS driver

A log of calls leaves a button down or up, and a `clickUp` closes the last `clickDown` of its
button. `ClicksMatch` says that the two carry the same click number, and that it is 1, 2 or 3. Only
the clicks of a log matter for it (`clicksMatch_clicks`).
-/

namespace Touchless

namespace OSCall

variable {F : Type}

/-- Is it a click? -/
def isClick : OSCall F → Bool
  | clickDown _ _ | clickUp _ _ => true
  | _ => false

/-- What a call does to a button, given the click number it is down with. -/
def clickAfter (button : ℤ) (down : Option ℤ) : OSCall F → Option ℤ
  | clickDown b number => if b = button then some number else down
  | clickUp b _ => if b = button then none else down
  | _ => down

/-- The click number of a `clickUp`. -/
def upNumber : OSCall F → Option ℤ
  | clickUp _ number => some number
  | _ => none

theorem clickAfter_of_not_isClick {call : OSCall F} (h : call.isClick = false) (button : ℤ)
    (down : Option ℤ) : call.clickAfter button down = down := by
  cases call <;> first | rfl | cases h

end OSCall

variable {F : Type} {calls : List (OSCall F)}

/-- The click number that a log leaves a button down with; `none` if it leaves the button up. -/
def openClick (button : ℤ) (calls : List (OSCall F)) : Option ℤ :=
  calls.foldl (fun down call ↦ call.clickAfter button down) none

/-- The left button is down. -/
def LeftButtonDown (calls : List (OSCall F)) : Prop := (openClick 0 calls).isSome = true

/-- Every `clickUp` carries the click number of the `clickDown` it closes, and the number is 1, 2 or
3.
-/
def ClicksMatch (calls : List (OSCall F)) : Prop :=
  ∀ before button number after, calls = before ++ .clickUp button number :: after →
    openClick button before = some number ∧ 1 ≤ number ∧ number ≤ 3

/-- The clicks of a log. -/
def clicks (calls : List (OSCall F)) : List (OSCall F) := calls.filter OSCall.isClick

@[simp]
theorem openClick_concat (button : ℤ) (call : OSCall F) :
    openClick button (calls ++ [call]) = call.clickAfter button (openClick button calls) := by
  simp [openClick]

@[simp]
theorem clicks_append (more : List (OSCall F)) :
    clicks (calls ++ more) = clicks calls ++ clicks more :=
  List.filter_append ..

theorem clicks_singleton (call : OSCall F) :
    clicks [call] = if call.isClick then [call] else [] := by
  cases h : call.isClick <;> simp [clicks, h]

theorem clicksMatch_nil : ClicksMatch ([] : List (OSCall F)) := fun _ _ _ _ h ↦ by simp at h

/-- A longer log adds the condition on its last call. -/
theorem clicksMatch_concat (call : OSCall F) :
    ClicksMatch (calls ++ [call]) ↔ ClicksMatch calls ∧ ∀ button number,
      call = .clickUp button number →
        openClick button calls = some number ∧ 1 ≤ number ∧ number ≤ 3 := by
  constructor
  · intro h
    refine ⟨fun before button number after hsplit ↦ ?_, fun button number hcall ↦ ?_⟩
    · exact h before button number (after ++ [call]) (by rw [hsplit]; simp)
    · exact h calls button number [] (by rw [hcall])
  · rintro ⟨hcalls, hlast⟩ before button number after hsplit
    rcases List.eq_nil_or_concat' after with rfl | ⟨after, last, rfl⟩
    · obtain ⟨rfl, hcall⟩ := List.append_inj' hsplit rfl
      exact hlast button number (List.cons.inj hcall).1
    · obtain ⟨rfl, -⟩ : calls = before ++ .clickUp button number :: after ∧ [call] = [last] :=
        List.append_inj' (by simpa using hsplit) rfl
      exact hcalls before button number after rfl

/-- The numbers of the `clickUp`s of a log that matches. -/
theorem ClicksMatch.number_of_mem (h : ClicksMatch calls) {number : ℤ}
    (hmem : number ∈ calls.filterMap OSCall.upNumber) : 1 ≤ number ∧ number ≤ 3 := by
  obtain ⟨call, hcall, hnumber⟩ := List.mem_filterMap.1 hmem
  obtain ⟨before, after, hsplit⟩ := List.append_of_mem hcall
  cases call with
  | clickUp button n =>
    obtain rfl := Option.some.inj hnumber
    exact (h before button n after hsplit).2
  | _ => cases hnumber

/-! ### Only the clicks matter -/

@[simp]
theorem openClick_clicks (button : ℤ) (calls : List (OSCall F)) :
    openClick button (clicks calls) = openClick button calls := by
  induction calls using List.reverseRecOn with
  | nil => rfl
  | append_singleton calls call ih =>
    rw [clicks_append, clicks_singleton, openClick_concat, ← ih]
    cases hclick : call.isClick with
    | true => rw [if_pos rfl, openClick_concat]
    | false => simp [OSCall.clickAfter_of_not_isClick hclick]

theorem clicksMatch_clicks (calls : List (OSCall F)) :
    ClicksMatch (clicks calls) ↔ ClicksMatch calls := by
  induction calls using List.reverseRecOn with
  | nil => rfl
  | append_singleton calls call ih =>
    rw [clicks_append, clicks_singleton, clicksMatch_concat, ← ih]
    cases hclick : call.isClick with
    | true => rw [if_pos rfl, clicksMatch_concat, ih]; simp
    | false =>
      -- a call that is no click is no `clickUp`
      have hup : ∀ button number, call ≠ .clickUp button number := by
        rintro button number rfl
        cases hclick
      simp [hup]

/-- Logs with the same clicks leave the same click open, -/
theorem openClick_of_clicks_eq {calls' : List (OSCall F)} (h : clicks calls' = clicks calls)
    (button : ℤ) : openClick button calls' = openClick button calls := by
  rw [← openClick_clicks, h, openClick_clicks]

/-- and match together. -/
theorem ClicksMatch.of_clicks_eq {calls' : List (OSCall F)} (hmatch : ClicksMatch calls)
    (h : clicks calls' = clicks calls) : ClicksMatch calls' := by
  rw [← clicksMatch_clicks, h, clicksMatch_clicks]
  exact hmatch

/-- A button that goes down opens a click. -/
theorem ClicksMatch.clickDown (h : ClicksMatch calls) (button number : ℤ) :
    ClicksMatch (calls ++ [.clickDown button number]) :=
  (clicksMatch_concat _).2 ⟨h, fun _ _ hcall ↦ by cases hcall⟩

/-- A button that goes up closes it. -/
theorem ClicksMatch.clickUp (h : ClicksMatch calls) {button number : ℤ}
    (hopen : openClick button calls = some number) (hpos : 1 ≤ number) (hle : number ≤ 3) :
    ClicksMatch (calls ++ [.clickUp button number]) :=
  (clicksMatch_concat _).2 ⟨h, fun _ _ hcall ↦ by
    obtain ⟨rfl, rfl⟩ := OSCall.clickUp.inj hcall
    exact ⟨hopen, hpos, hle⟩⟩

end Touchless
