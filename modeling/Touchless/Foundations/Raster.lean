import Mathlib.Algebra.Order.Ring.Int
import Mathlib.Data.List.Basic
import Mathlib.Tactic.Linarith
import Mathlib.Tactic.Ring

/-!
# Rasters

The pixels of an image lie row by row in one list. A scan goes through the rows and columns of a box
and writes what a function gives for a pixel, if it gives anything. Pixels are written by their
index, and a write outside the raster fails.

* `scan_spec`: a scan of a box inside the image does not fail, and changes the pixels of the box for
  which the function gives something, and no others.
* `scan_full`: so a box that has all of these pixels is as good as the whole image.
-/

namespace Touchless.Raster

variable {α : Type*}

/-- The whole numbers from `low` up to `high`, as a loop takes them. -/
def span (low high : ℤ) : List ℤ := (List.range (high - low).toNat).map fun (i : ℕ) ↦ low + i

theorem mem_span {low high i : ℤ} : i ∈ span low high ↔ low ≤ i ∧ i < high := by
  simp only [span, List.mem_map, List.mem_range]
  constructor
  · rintro ⟨k, hk, rfl⟩
    omega
  · rintro ⟨hlow, hhigh⟩
    exact ⟨(i - low).toNat, by omega, by omega⟩

/-- A pixel is written by its index. -/
def write (raster : List α) (index : ℤ) (value : α) : Option (List α) :=
  if 0 ≤ index ∧ index.toNat < raster.length then some (raster.set index.toNat value) else none

/-- A pixel is read by its place. -/
def pixel (width : ℤ) (raster : List α) (x y : ℤ) : Option α := raster[(width * y + x).toNat]?

variable (width : ℤ) (f : ℤ → ℤ → Option α)

/-- What is done at a place. -/
def plot (raster : List α) (place : ℤ × ℤ) : Option (List α) :=
  match f place.1 place.2 with
  | some value => write raster (width * place.2 + place.1) value
  | none => some raster

/-- The places of the box between `low` and `high`, row by row. -/
def places (low high : ℤ × ℤ) : List (ℤ × ℤ) :=
  (span low.2 high.2).flatMap fun y ↦ (span low.1 high.1).map fun x ↦ (x, y)

theorem mem_places {low high place : ℤ × ℤ} : place ∈ places low high ↔
    (low.1 ≤ place.1 ∧ place.1 < high.1) ∧ low.2 ≤ place.2 ∧ place.2 < high.2 := by
  obtain ⟨x, y⟩ := place
  simp only [places, List.mem_flatMap, List.mem_map, mem_span, Prod.mk.injEq]
  constructor
  · rintro ⟨y', hy, x', hx, rfl, rfl⟩
    exact ⟨hx, hy⟩
  · rintro ⟨hx, hy⟩
    exact ⟨y, hy, x, hx, rfl, rfl⟩

/-- The loops over the rows and the columns. -/
def scan (low high : ℤ × ℤ) (raster : List α) : Option (List α) :=
  (span low.2 high.2).foldlM
    (fun raster y ↦ (span low.1 high.1).foldlM (fun raster x ↦ plot width f raster (x, y)) raster)
    raster

/-- They are one loop over the places. -/
theorem scan_eq (low high : ℤ × ℤ) (raster : List α) :
    scan width f low high raster = (places low high).foldlM (plot width f) raster := by
  rw [scan, places]
  generalize span low.2 high.2 = rows
  induction rows generalizing raster with
  | nil => rfl
  | cons y rows ih =>
    rw [List.foldlM_cons, List.flatMap_cons, List.foldlM_append, List.foldlM_map]
    exact congrArg _ (funext ih)

variable {width f} {height : ℤ}

/-- An image has a pixel at every place. -/
def Sized (width height : ℤ) (raster : List α) : Prop := (raster.length : ℤ) = width * height

/-- A place inside the image. -/
def Inside (width height : ℤ) (place : ℤ × ℤ) : Prop :=
  (0 ≤ place.1 ∧ place.1 < width) ∧ 0 ≤ place.2 ∧ place.2 < height

/-- Its index is one of the raster. -/
theorem Inside.index {place : ℤ × ℤ} (h : Inside width height place) :
    0 ≤ width * place.2 + place.1 ∧ width * place.2 + place.1 < width * height := by
  obtain ⟨⟨hx, hx'⟩, hy, hy'⟩ := h
  constructor
  · have := mul_nonneg (hx.trans hx'.le) hy
    linarith
  · calc width * place.2 + place.1 < width * place.2 + width := by linarith
      _ = width * (place.2 + 1) := by ring
      _ ≤ width * height := mul_le_mul_of_nonneg_left hy' (hx.trans hx'.le)

/-- Two places have different indices. -/
theorem Inside.index_injective {place place' : ℤ × ℤ} (h : Inside width height place)
    (h' : Inside width height place')
    (heq : width * place.2 + place.1 = width * place'.2 + place'.1) : place = place' := by
  obtain ⟨x, y⟩ := place
  obtain ⟨x', y'⟩ := place'
  obtain ⟨⟨hx, hxw⟩, -⟩ := h
  obtain ⟨⟨hx', hxw'⟩, -⟩ := h'
  dsimp only at hx hxw hx' hxw' heq
  have hmod : x = x' := by
    have hrow : ∀ {z z' : ℤ}, 0 ≤ z → z < width → (width * z' + z) % width = z :=
      fun {z z'} hz hzw ↦ by rw [Int.mul_add_emod_self_left, Int.emod_eq_of_lt hz hzw]
    rw [← hrow hx hxw, heq, hrow hx' hxw']
  subst hmod
  have hy : width * y = width * y' := by linarith
  rw [mul_left_cancel₀ (by omega : width ≠ 0) hy]

/-- **What is done at a place** inside the image. -/
theorem plot_spec {raster : List α} (hsized : Sized width height raster) {place : ℤ × ℤ}
    (hinside : Inside width height place) :
    ∃ result, plot width f raster place = some result ∧ Sized width height result ∧
      ∀ x y, Inside width height (x, y) → pixel width result x y =
        if (x, y) = place then (f x y).or (pixel width raster x y)
        else pixel width raster x y := by
  have hindex := hinside.index
  rw [plot]
  cases hvalue : f place.1 place.2 with
  | none =>
    refine ⟨raster, rfl, hsized, fun x y _ ↦ ?_⟩
    split_ifs with hplace
    · subst hplace
      rw [show f x y = none from hvalue, Option.none_or]
    · rfl
  | some value =>
    have hlt : (width * place.2 + place.1).toNat < raster.length := by
      have : (raster.length : ℤ) = width * height := hsized
      omega
    refine ⟨raster.set (width * place.2 + place.1).toNat value, ?_, ?_, fun x y hxy ↦ ?_⟩
    · dsimp only
      rw [write, if_pos ⟨hindex.1, hlt⟩]
    · rw [Sized, List.length_set]
      exact hsized
    · rw [pixel, List.getElem?_set]
      have hsame : (width * place.2 + place.1).toNat = (width * y + x).toNat ↔ (x, y) = place := by
        constructor
        · intro heq
          have hxy' := hxy.index
          refine hxy.index_injective hinside ?_
          dsimp only at hxy' ⊢
          omega
        · rintro rfl
          rfl
      split_ifs with hif hplace hplace
      · subst hplace
        rw [show f x y = some value from hvalue, Option.some_or]
      · exact absurd (hsame.1 hif) hplace
      · exact absurd (hsame.2 hplace) hif
      · rfl

/-- The loop over places inside the image. -/
theorem foldlM_plot_spec (todo : List (ℤ × ℤ)) :
    ∀ {raster : List α}, Sized width height raster → (∀ place ∈ todo, Inside width height place) →
      ∃ result, todo.foldlM (plot width f) raster = some result ∧ Sized width height result ∧
        ∀ x y, Inside width height (x, y) → pixel width result x y =
          if (x, y) ∈ todo then (f x y).or (pixel width raster x y)
          else pixel width raster x y := by
  induction todo with
  | nil => exact fun {raster} hsized _ ↦ ⟨raster, rfl, hsized, fun x y _ ↦ by simp⟩
  | cons place todo ih =>
    intro raster hsized hinside
    obtain ⟨middle, hmiddle, hsized', hplot⟩ :=
      plot_spec (f := f) hsized (hinside place List.mem_cons_self)
    obtain ⟨result, hresult, hsized'', hrest⟩ :=
      ih hsized' fun place' h ↦ hinside place' (List.mem_cons_of_mem _ h)
    refine ⟨result, ?_, hsized'', fun x y hxy ↦ ?_⟩
    · rw [List.foldlM_cons, hmiddle]
      exact hresult
    · rw [hrest x y hxy, hplot x y hxy]
      simp only [List.mem_cons]
      -- a place that comes twice gets the same value twice
      by_cases hfirst : (x, y) = place
      · simp only [hfirst, true_or, if_true]
        split_ifs
        · cases f x y <;> rfl
        · rfl
      · rw [if_neg hfirst]
        simp only [hfirst, false_or]

/-- **A scan of a box** inside the image. -/
theorem scan_spec {raster : List α} (hsized : Sized width height raster) (low high : ℤ × ℤ)
    (hlow : 0 ≤ low.1 ∧ 0 ≤ low.2) (hhigh : high.1 ≤ width ∧ high.2 ≤ height) :
    ∃ result, scan width f low high raster = some result ∧ Sized width height result ∧
      ∀ x y, Inside width height (x, y) → pixel width result x y =
        if (low.1 ≤ x ∧ x < high.1) ∧ low.2 ≤ y ∧ y < high.2 then
          (f x y).or (pixel width raster x y)
        else pixel width raster x y := by
  obtain ⟨result, hresult, hsized', hpixels⟩ :=
    foldlM_plot_spec (f := f) (places low high) hsized fun place hplace ↦ by
      obtain ⟨⟨hx, hx'⟩, hy, hy'⟩ := mem_places.1 hplace
      exact ⟨⟨hlow.1.trans hx, hx'.trans_le hhigh.1⟩, hlow.2.trans hy, hy'.trans_le hhigh.2⟩
  refine ⟨result, (scan_eq width f low high raster).trans hresult, hsized', fun x y hxy ↦ ?_⟩
  rw [hpixels x y hxy]
  simp only [mem_places]

/-- **A box with all the pixels** for which there is something is as good as the whole image. -/
theorem scan_full {raster : List α} (hsized : Sized width height raster) (low high : ℤ × ℤ)
    (hlow : 0 ≤ low.1 ∧ 0 ≤ low.2) (hhigh : high.1 ≤ width ∧ high.2 ≤ height)
    (hbox : ∀ x y, Inside width height (x, y) → (f x y).isSome = true →
      (low.1 ≤ x ∧ x < high.1) ∧ low.2 ≤ y ∧ y < high.2) :
    ∃ result, scan width f low high raster = some result ∧ Sized width height result ∧
      ∀ x y, Inside width height (x, y) →
        pixel width result x y = (f x y).or (pixel width raster x y) := by
  obtain ⟨result, hresult, hsized', hpixels⟩ := scan_spec (f := f) hsized low high hlow hhigh
  refine ⟨result, hresult, hsized', fun x y hxy ↦ ?_⟩
  rw [hpixels x y hxy]
  split_ifs with hin
  · rfl
  · have hnone : f x y = none := by
      cases hvalue : f x y with
      | none => rfl
      | some value => exact absurd (hbox x y hxy (by rw [hvalue]; rfl)) hin
    rw [hnone, Option.none_or]

end Touchless.Raster
