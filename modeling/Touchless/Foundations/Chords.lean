import Mathlib.Data.List.Basic
import Mathlib.Logic.Function.Basic

/-!
# Chords

Strokes of keys, and the keys that are down after them. A chord presses its keys in order and
releases them in the opposite order: with its last press all of them are down, and afterwards none
of them is, whatever was down before.
-/

namespace Touchless

/-- A key goes down or comes up. -/
structure Stroke (κ : Type*) where
  key : κ
  up : Bool
  deriving DecidableEq, Repr

namespace Stroke

variable {κ ε : Type*} [DecidableEq κ]

/-- The keys that are down after a stroke. -/
def press (down : κ → Bool) (stroke : Stroke κ) : κ → Bool :=
  Function.update down stroke.key !stroke.up

/-- The keys that are down after a log of strokes. -/
def held (strokes : List (Stroke κ)) : κ → Bool := strokes.foldl press fun _ ↦ false

/-- The keys go down in order and come up in the opposite order. -/
def chord (keys : List κ) : List (Stroke κ) := keys.map (⟨·, false⟩) ++ keys.reverse.map (⟨·, true⟩)

theorem foldl_press_down (keys : List κ) (down : κ → Bool) (key : κ) :
    (keys.map (⟨·, false⟩)).foldl press down key = (decide (key ∈ keys) || down key) := by
  induction keys generalizing down with
  | nil => simp
  | cons k keys ih =>
    rw [List.map_cons, List.foldl_cons, ih]
    by_cases hk : key = k
    · simp [press, hk]
    · simp [press, hk]

theorem foldl_press_up (keys : List κ) (down : κ → Bool) (key : κ) :
    (keys.map (⟨·, true⟩)).foldl press down key = (!decide (key ∈ keys) && down key) := by
  induction keys generalizing down with
  | nil => simp
  | cons k keys ih =>
    rw [List.map_cons, List.foldl_cons, ih]
    by_cases hk : key = k
    · simp [press, hk]
    · simp [press, hk]

/-- **A chord** leaves its keys up and the others as they were. -/
theorem foldl_press_chord (keys : List κ) (down : κ → Bool) (key : κ) :
    (chord keys).foldl press down key = (!decide (key ∈ keys) && down key) := by
  rw [chord, List.foldl_append, foldl_press_up, foldl_press_down]
  by_cases hkey : key ∈ keys
  · simp [hkey]
  · simp [hkey]

/-- **With its last press** the keys of a chord are down, and no others are. -/
theorem held_take_chord (keys : List κ) (key : κ) :
    held ((chord keys).take keys.length) key = decide (key ∈ keys) := by
  have hpressed : (chord keys).take keys.length = keys.map (⟨·, false⟩) :=
    List.take_left' (List.length_map _)
  rw [held, hpressed, foldl_press_down, Bool.or_false]

/-- **After chords** no key is down. -/
theorem held_flatMap_chord {strokes : ε → List (Stroke κ)} {log : List ε}
    (h : ∀ e ∈ log, ∃ keys, strokes e = chord keys) :
    held (log.flatMap strokes) = fun _ ↦ false := by
  rw [held]
  induction log with
  | nil => rfl
  | cons e log ih =>
    obtain ⟨keys, hkeys⟩ := h e List.mem_cons_self
    have hnone : (chord keys).foldl press (fun _ ↦ false) = fun _ ↦ false := by
      funext key
      rw [foldl_press_chord, Bool.and_false]
    rw [List.flatMap_cons, List.foldl_append, hkeys, hnone]
    exact ih fun e he ↦ h e (List.mem_cons_of_mem _ he)

end Stroke

end Touchless
