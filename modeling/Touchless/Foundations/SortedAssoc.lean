import Mathlib.Data.List.Basic
import Mathlib.Data.List.Pairwise
import Mathlib.Order.Lattice

/-!
# Association lists in key order

An ordered map, as the list of its entries in the order of their keys. `insert` keeps the order and
replaces the value of a key that is there; `find?` reads a key. Two ordered lists that agree on
every key are equal (`ext`), so equations between maps are proved key by key, and a map is rebuilt
from its own entries by inserting them one after the other (`foldl_insert_self`).
-/

namespace Touchless.SortedAssoc

variable {κ ν μ : Type*} [LinearOrder κ]

/-- The value of a key. -/
def find? (key : κ) : List (κ × ν) → Option ν
  | [] => none
  | (k, v) :: entries => if key = k then some v else find? key entries

/-- Set the value of a key. -/
def insert (key : κ) (value : ν) : List (κ × ν) → List (κ × ν)
  | [] => [(key, value)]
  | (k, v) :: entries =>
    if key < k then (key, value) :: (k, v) :: entries
    else if key = k then (key, value) :: entries
    else (k, v) :: insert key value entries

/-- The keys are strictly increasing. -/
def Sorted (entries : List (κ × ν)) : Prop := entries.Pairwise fun p q ↦ p.1 < q.1

instance (entries : List (κ × ν)) : Decidable (Sorted entries) :=
  inferInstanceAs (Decidable (entries.Pairwise _))

@[simp] theorem sorted_nil : Sorted ([] : List (κ × ν)) := List.Pairwise.nil

theorem sorted_cons {p : κ × ν} {entries : List (κ × ν)} :
    Sorted (p :: entries) ↔ (∀ q ∈ entries, p.1 < q.1) ∧ Sorted entries :=
  List.pairwise_cons

/-- The order depends on the keys only. -/
theorem sorted_map {f : κ × ν → κ × μ} (hf : ∀ p, (f p).1 = p.1) {entries : List (κ × ν)} :
    Sorted (entries.map f) ↔ Sorted entries := by
  simp [Sorted, List.pairwise_map, hf]

/-! ### Insertion -/

theorem mem_insert {key : κ} {value : ν} {entries : List (κ × ν)} {q : κ × ν}
    (h : q ∈ insert key value entries) : q = (key, value) ∨ q ∈ entries := by
  induction entries with
  | nil => exact Or.inl (List.mem_singleton.1 h)
  | cons p entries ih =>
    obtain ⟨k, v⟩ := p
    rw [insert] at h
    split_ifs at h
    · exact List.mem_cons.1 h
    · exact (List.mem_cons.1 h).imp_right (List.mem_cons_of_mem _)
    · rcases List.mem_cons.1 h with rfl | h
      · exact Or.inr List.mem_cons_self
      · exact (ih h).imp_right (List.mem_cons_of_mem _)

/-- Insertion keeps the order. -/
theorem Sorted.insert {entries : List (κ × ν)} (h : Sorted entries) (key : κ) (value : ν) :
    Sorted (insert key value entries) := by
  induction entries with
  | nil => exact List.pairwise_singleton _ _
  | cons p entries ih =>
    obtain ⟨k, v⟩ := p
    obtain ⟨hhead, htail⟩ := sorted_cons.1 h
    rw [SortedAssoc.insert]
    split_ifs with hlt heq
    · refine sorted_cons.2 ⟨fun q hq ↦ ?_, h⟩
      rcases List.mem_cons.1 hq with rfl | hq
      · exact hlt
      · exact hlt.trans (hhead q hq)
    · exact sorted_cons.2 ⟨fun q hq ↦ heq ▸ hhead q hq, htail⟩
    · refine sorted_cons.2 ⟨fun q hq ↦ ?_, ih htail⟩
      rcases mem_insert hq with rfl | hq
      · exact lt_of_le_of_ne (not_lt.1 hlt) (Ne.symm heq)
      · exact hhead q hq

/-- A key above all others goes to the end. -/
theorem insert_of_forall_lt {key : κ} {value : ν} {entries : List (κ × ν)}
    (h : ∀ q ∈ entries, q.1 < key) : insert key value entries = entries ++ [(key, value)] := by
  induction entries with
  | nil => rfl
  | cons p entries ih =>
    have hp : p.1 < key := h p List.mem_cons_self
    rw [insert, if_neg hp.not_gt, if_neg hp.ne', ih fun q hq ↦ h q (List.mem_cons_of_mem p hq)]
    rfl

/-- Inserting the entries of an ordered list in their order rebuilds it, behind smaller entries. -/
theorem foldl_insert_append {entries : List (κ × ν)} :
    ∀ {done : List (κ × ν)}, Sorted (done ++ entries) →
      entries.foldl (fun map p ↦ insert p.1 p.2 map) done = done ++ entries := by
  induction entries with
  | nil => intro done _; simp
  | cons p entries ih =>
    intro done h
    have hlt : ∀ q ∈ done, q.1 < p.1 := fun q hq ↦
      (List.pairwise_append.1 h).2.2 q hq p List.mem_cons_self
    rw [List.foldl_cons, insert_of_forall_lt hlt, ih (by simpa using h)]
    simp

/-- **Rebuilding** an ordered list from its own entries. -/
theorem foldl_insert_self {entries : List (κ × ν)} (h : Sorted entries) :
    entries.foldl (fun map p ↦ insert p.1 p.2 map) [] = entries :=
  foldl_insert_append (by simpa using h)

/-! ### Lookup -/

@[simp] theorem find?_nil (key : κ) : find? key ([] : List (κ × ν)) = none := rfl

theorem find?_cons (key k : κ) (v : ν) (entries : List (κ × ν)) :
    find? key ((k, v) :: entries) = if key = k then some v else find? key entries := rfl

theorem find?_eq_none_of_forall_lt {key : κ} {entries : List (κ × ν)}
    (h : ∀ q ∈ entries, key < q.1) : find? key entries = none := by
  induction entries with
  | nil => rfl
  | cons p entries ih =>
    rw [find?, if_neg (h p List.mem_cons_self).ne]
    exact ih fun q hq ↦ h q (List.mem_cons_of_mem p hq)

theorem mem_of_find? {key : κ} {value : ν} {entries : List (κ × ν)}
    (h : find? key entries = some value) : (key, value) ∈ entries := by
  induction entries with
  | nil => simp at h
  | cons p entries ih =>
    obtain ⟨k, v⟩ := p
    rw [find?_cons] at h
    split_ifs at h with heq
    · obtain rfl := Option.some.inj h
      exact heq ▸ List.mem_cons_self
    · exact List.mem_cons_of_mem _ (ih h)

/-- In an ordered list every entry is found under its key. -/
theorem find?_of_mem {key : κ} {value : ν} {entries : List (κ × ν)} (hsorted : Sorted entries)
    (h : (key, value) ∈ entries) : find? key entries = some value := by
  induction entries with
  | nil => simp at h
  | cons p entries ih =>
    obtain ⟨k, v⟩ := p
    obtain ⟨hhead, htail⟩ := sorted_cons.1 hsorted
    rw [find?_cons]
    rcases List.mem_cons.1 h with heq | h
    · obtain ⟨rfl, rfl⟩ := Prod.mk.inj heq
      rw [if_pos rfl]
    · have hlt : k < key := hhead _ h
      rw [if_neg hlt.ne', ih htail h]

theorem find?_insert_self (key : κ) (value : ν) (entries : List (κ × ν)) :
    find? key (insert key value entries) = some value := by
  induction entries with
  | nil => simp [insert, find?]
  | cons p entries ih =>
    obtain ⟨k, v⟩ := p
    rw [insert]
    split_ifs with hlt heq
    · simp [find?]
    · simp [find?]
    · rw [find?_cons, if_neg heq, ih]

theorem find?_insert_of_ne {key key' : κ} (h : key' ≠ key) (value : ν) (entries : List (κ × ν)) :
    find? key' (insert key value entries) = find? key' entries := by
  induction entries with
  | nil => simp [insert, find?, h]
  | cons p entries ih =>
    obtain ⟨k, v⟩ := p
    rw [insert]
    split_ifs with hlt heq
    · rw [find?_cons, if_neg h]
    · rw [find?_cons, if_neg h, find?_cons, if_neg (heq ▸ h)]
    · rw [find?_cons, find?_cons, ih]

theorem find?_insert (key key' : κ) (value : ν) (entries : List (κ × ν)) :
    find? key' (insert key value entries) =
      if key' = key then some value else find? key' entries := by
  split_ifs with h
  · rw [h, find?_insert_self]
  · exact find?_insert_of_ne h value entries

/-- The entries of an ordered list are what lookup finds. -/
theorem mem_iff_find? {entries : List (κ × ν)} (hsorted : Sorted entries) {p : κ × ν} :
    p ∈ entries ↔ find? p.1 entries = some p.2 :=
  ⟨fun h ↦ find?_of_mem hsorted h, fun h ↦ mem_of_find? h⟩

/-- An insertion replaces the entry of the key. -/
theorem mem_insert_iff {key : κ} {value : ν} {entries : List (κ × ν)} (hsorted : Sorted entries)
    {p : κ × ν} : p ∈ insert key value entries ↔ p = (key, value) ∨ p ∈ entries ∧ p.1 ≠ key := by
  rw [mem_iff_find? (hsorted.insert key value), mem_iff_find? hsorted, find?_insert, Prod.ext_iff]
  split_ifs with hkey
  · simp [hkey, eq_comm]
  · simp [hkey]

/-- Remove a key. -/
def erase (key : κ) (entries : List (κ × ν)) : List (κ × ν) := entries.filter fun p ↦ p.1 ≠ key

theorem Sorted.erase {entries : List (κ × ν)} (h : Sorted entries) (key : κ) :
    Sorted (erase key entries) :=
  List.Pairwise.filter _ h

theorem find?_erase (key key' : κ) (entries : List (κ × ν)) :
    find? key' (erase key entries) = if key' = key then none else find? key' entries := by
  induction entries with
  | nil => simp [erase]
  | cons p entries ih =>
    obtain ⟨k, v⟩ := p
    rw [erase] at ih ⊢
    by_cases hk : k = key
    · rw [List.filter_cons_of_neg (by simpa using hk), ih, find?_cons, hk]
      split_ifs <;> rfl
    · rw [List.filter_cons_of_pos (by simpa using hk), find?_cons, find?_cons, ih]
      split_ifs with hk' hkey
      · exact absurd (hk'.symm.trans hkey) hk
      · rfl
      · rfl
      · rfl

theorem insert_map_snd (f : ν → μ) (key : κ) (value : ν) (entries : List (κ × ν)) :
    (insert key value entries).map (fun p ↦ (p.1, f p.2)) =
      insert key (f value) (entries.map fun p ↦ (p.1, f p.2)) := by
  induction entries with
  | nil => rfl
  | cons entry entries ih =>
    obtain ⟨k, v⟩ := entry
    rw [List.map_cons, insert, insert]
    split_ifs
    · rfl
    · rfl
    · rw [List.map_cons, ih]

/-- Lookup after mapping the values. -/
theorem find?_map_snd (f : ν → μ) (key : κ) (entries : List (κ × ν)) :
    find? key (entries.map fun p ↦ (p.1, f p.2)) = (find? key entries).map f := by
  induction entries with
  | nil => rfl
  | cons p entries ih =>
    obtain ⟨k, v⟩ := p
    simp only [List.map_cons, find?_cons, ih]
    split_ifs <;> rfl

/-- **Extensionality**: ordered lists are determined by lookup. -/
theorem ext {first second : List (κ × ν)} (hfirst : Sorted first) (hsecond : Sorted second)
    (h : ∀ key, find? key first = find? key second) : first = second := by
  induction first generalizing second with
  | nil =>
    cases second with
    | nil => rfl
    | cons q second =>
      have hq := h q.1
      simp [find?] at hq
  | cons p first ih =>
    obtain ⟨k, v⟩ := p
    obtain ⟨hpfirst, hfirst'⟩ := sorted_cons.1 hfirst
    cases second with
    | nil =>
      have hk := h k
      simp [find?] at hk
    | cons q second =>
      obtain ⟨k', v'⟩ := q
      obtain ⟨hpsecond, hsecond'⟩ := sorted_cons.1 hsecond
      -- the smaller of two heads would be missing from the other list
      have hkey : k = k' := by
        rcases lt_trichotomy k k' with hlt | heq | hlt
        · have hk := h k
          rw [find?_cons, if_pos rfl, find?_cons, if_neg hlt.ne,
            find?_eq_none_of_forall_lt fun q hq ↦ hlt.trans (hpsecond q hq)] at hk
          simp at hk
        · exact heq
        · have hk := h k'
          rw [find?_cons, if_neg hlt.ne, find?_eq_none_of_forall_lt fun q hq ↦
            hlt.trans (hpfirst q hq), find?_cons, if_pos rfl] at hk
          simp at hk
      subst hkey
      have hvalue : v = v' := by simpa [find?_cons] using h k
      subst hvalue
      have htail : first = second := by
        refine ih hfirst' hsecond' fun key ↦ ?_
        by_cases hkey : key = k
        · subst hkey
          rw [find?_eq_none_of_forall_lt hpfirst, find?_eq_none_of_forall_lt hpsecond]
        · simpa [find?_cons, hkey] using h key
      rw [htail]

end Touchless.SortedAssoc

namespace Touchless

/-! ### The map as a type -/

/-- An ordered map: an association list that carries the proof of its order. -/
structure OrderedMap (κ ν : Type*) [LinearOrder κ] where
  /-- the entries in key order -/
  entries : List (κ × ν)
  /-- the keys are strictly increasing -/
  sorted : SortedAssoc.Sorted entries

namespace OrderedMap

variable {κ ν : Type*} [LinearOrder κ]

/-- The map without entries. -/
def empty : OrderedMap κ ν := ⟨[], SortedAssoc.sorted_nil⟩

/-- The value of a key. -/
def find? (map : OrderedMap κ ν) (key : κ) : Option ν := SortedAssoc.find? key map.entries

/-- Set the value of a key. -/
def insert (map : OrderedMap κ ν) (key : κ) (value : ν) : OrderedMap κ ν :=
  ⟨SortedAssoc.insert key value map.entries, map.sorted.insert key value⟩

/-- Remove a key. -/
def erase (map : OrderedMap κ ν) (key : κ) : OrderedMap κ ν :=
  ⟨SortedAssoc.erase key map.entries, map.sorted.erase key⟩

theorem find?_erase (map : OrderedMap κ ν) (key key' : κ) :
    (map.erase key).find? key' = if key' = key then none else map.find? key' :=
  SortedAssoc.find?_erase key key' map.entries

/-- Maps are determined by lookup. -/
theorem ext {first second : OrderedMap κ ν} (h : ∀ key, first.find? key = second.find? key) :
    first = second := by
  obtain ⟨entries, hsorted⟩ := first
  obtain ⟨entries', hsorted'⟩ := second
  obtain rfl := SortedAssoc.ext hsorted hsorted' h
  rfl

/-- The keys, in their order. -/
def keys (map : OrderedMap κ ν) : List κ := map.entries.map Prod.fst

theorem nodup_keys (map : OrderedMap κ ν) : map.keys.Nodup := by
  rw [keys, List.Nodup, List.pairwise_map]
  exact map.sorted.imp ne_of_lt

@[simp] theorem find?_empty (key : κ) : (empty : OrderedMap κ ν).find? key = none := rfl

theorem find?_insert (map : OrderedMap κ ν) (key key' : κ) (value : ν) :
    (map.insert key value).find? key' = if key' = key then some value else map.find? key' :=
  SortedAssoc.find?_insert key key' value map.entries

theorem find?_insert_self (map : OrderedMap κ ν) (key : κ) (value : ν) :
    (map.insert key value).find? key = some value :=
  SortedAssoc.find?_insert_self key value map.entries

theorem find?_insert_of_ne (map : OrderedMap κ ν) {key key' : κ} (h : key' ≠ key) (value : ν) :
    (map.insert key value).find? key' = map.find? key' :=
  SortedAssoc.find?_insert_of_ne h value map.entries

/-- The entries are what lookup finds. -/
theorem mem_entries {map : OrderedMap κ ν} {p : κ × ν} :
    p ∈ map.entries ↔ map.find? p.1 = some p.2 :=
  SortedAssoc.mem_iff_find? map.sorted

theorem mem_keys {map : OrderedMap κ ν} {key : κ} :
    key ∈ map.keys ↔ (map.find? key).isSome = true := by
  simp only [keys, List.mem_map, Option.isSome_iff_exists]
  constructor
  · rintro ⟨p, hp, rfl⟩
    exact ⟨p.2, mem_entries.1 hp⟩
  · rintro ⟨value, hvalue⟩
    exact ⟨(key, value), mem_entries.2 hvalue, rfl⟩

end OrderedMap

end Touchless
