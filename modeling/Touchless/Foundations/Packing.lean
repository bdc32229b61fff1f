import Mathlib.Algebra.GroupWithZero.Nat
import Mathlib.Algebra.Order.BigOperators.Group.List
import Mathlib.Algebra.Order.Group.Nat
import Mathlib.Data.List.Basic
import Mathlib.Data.List.SplitLengths

/-!
# Blocks packed into one buffer

A writer copies blocks one behind the other into a buffer (`copyAll_eq`). A reader walks the entries
that describe the blocks and takes the next address for each entry that it keeps, so it is right
about an entry exactly if every entry that it has skipped before is empty (`mem_reads`,
`sum_skipped_iff`). As a whole, it deals the buffer out to the entries that it keeps
(`reads_slices`), and gives each its own block if it has skipped nothing but empty ones
(`splitLengths_kept`).
-/

namespace Touchless.Packing

variable {α β : Type*}

/-- A block is copied over what is at an offset. -/
def copy (buffer : List α) (offset : ℕ) (block : List α) : List α :=
  buffer.take offset ++ block ++ buffer.drop (offset + block.length)

/-- Blocks are copied one behind the other, from an offset on. -/
def copyAll (buffer : List α) (offset : ℕ) : List (List α) → List α × ℕ
  | [] => (buffer, offset)
  | block :: blocks => copyAll (copy buffer offset block) (offset + block.length) blocks

/-- **What the writer leaves**, when there is room for the blocks. -/
theorem copyAll_eq (blocks : List (List α)) : ∀ (buffer : List α) (offset : ℕ),
    offset + blocks.flatten.length ≤ buffer.length →
    copyAll buffer offset blocks =
      (copy buffer offset blocks.flatten, offset + blocks.flatten.length) := by
  induction blocks with
  | nil =>
    intro buffer offset _
    simp [copyAll, copy]
  | cons block blocks ih =>
    intro buffer offset hroom
    rw [List.flatten_cons, List.length_append] at hroom
    have hlength : (copy buffer offset block).length = buffer.length := by
      simp only [copy, List.length_append, List.length_take, List.length_drop]
      omega
    rw [copyAll, ih _ _ (by rw [hlength]; omega), List.flatten_cons, List.length_append]
    have htake : (buffer.take offset).length = offset := by
      rw [List.length_take]
      omega
    have hfirst : (buffer.take offset ++ block).length = offset + block.length := by
      rw [List.length_append, htake]
    refine Prod.ext ?_ (by dsimp only; omega)
    -- what is before the new blocks stays, and what is behind them is what was there
    show copy (copy buffer offset block) (offset + block.length) blocks.flatten = _
    rw [copy, copy, List.take_left' hfirst]
    have hdrop : (buffer.take offset ++ block ++ buffer.drop (offset + block.length)).drop
        (offset + block.length + blocks.flatten.length) =
        buffer.drop (offset + block.length + blocks.flatten.length) := by
      rw [List.drop_append, hfirst, List.drop_eq_nil_of_le (by omega), List.nil_append,
        List.drop_drop]
      congr 1
      omega
    rw [hdrop, copy]
    simp [Nat.add_assoc]

/-- Blocks that fill a buffer. -/
theorem copyAll_zero {blocks : List (List α)} {buffer : List α}
    (hlength : buffer.length = blocks.flatten.length) :
    copyAll buffer 0 blocks = (blocks.flatten, blocks.flatten.length) := by
  rw [copyAll_eq blocks buffer 0 (by omega), copy, List.take_zero, List.nil_append, Nat.zero_add,
    ← hlength, List.drop_length, List.append_nil]

/-- What lies in a buffer of blocks behind the blocks before one. -/
theorem flatten_take_drop {blocks before after : List (List α)} {block : List α}
    (h : blocks = before ++ block :: after) :
    (blocks.flatten.drop (before.map List.length).sum).take block.length = block := by
  rw [h, List.flatten_append, List.flatten_cons, ← List.length_flatten, List.drop_left,
    List.take_left]

/-! ### The reader -/

variable (keep : β → Bool) (size : β → ℕ)

/-- The index, the address and the entry, for every entry that is kept. -/
def reads : ℕ → ℕ → List β → List (ℕ × ℕ × β)
  | _, _, [] => []
  | index, address, b :: entries =>
    if keep b then (index, address, b) :: reads (index + 1) (address + size b) entries
    else reads (index + 1) address entries

/-- **What the reader takes**: the address of an entry counts the entries before it that are
kept. -/
theorem mem_reads {r : ℕ × ℕ × β} : ∀ {entries : List β} {index address : ℕ},
    r ∈ reads keep size index address entries ↔
      ∃ before b after, entries = before ++ b :: after ∧ keep b = true ∧
        r = (index + before.length, address + ((before.filter keep).map size).sum, b) := by
  intro entries
  induction entries with
  | nil => simp [reads]
  | cons b entries ih =>
    intro index address
    constructor
    · intro hr
      by_cases hb : keep b = true
      · rw [reads, if_pos hb, List.mem_cons, ih] at hr
        rcases hr with rfl | ⟨before, c, after, rfl, hc, rfl⟩
        · exact ⟨[], b, entries, rfl, hb, rfl⟩
        · refine ⟨b :: before, c, after, rfl, hc, ?_⟩
          simp [hb, Nat.add_assoc, Nat.add_comm 1]
      · rw [reads, if_neg hb, ih] at hr
        obtain ⟨before, c, after, rfl, hc, rfl⟩ := hr
        refine ⟨b :: before, c, after, rfl, hc, ?_⟩
        simp [hb, Nat.add_assoc, Nat.add_comm 1]
    · rintro ⟨before, c, after, hsplit, hc, rfl⟩
      cases before with
      | nil =>
        obtain ⟨rfl, rfl⟩ := List.cons.inj hsplit
        rw [reads, if_pos hc]
        exact List.mem_cons_self
      | cons d before =>
        obtain ⟨rfl, rfl⟩ := List.cons.inj hsplit
        by_cases hb : keep b = true
        · rw [reads, if_pos hb, List.mem_cons, ih]
          refine .inr ⟨before, c, after, rfl, hc, ?_⟩
          simp [hb, Nat.add_assoc, Nat.add_comm 1]
        · rw [reads, if_neg hb, ih]
          refine ⟨before, c, after, rfl, hc, ?_⟩
          simp [hb, Nat.add_assoc, Nat.add_comm 1]

/-- **What the reader finds** at its addresses is the buffer, dealt out to the entries that are
kept. -/
theorem reads_slices (buffer : List α) (entries : List β) : ∀ index address : ℕ,
    (reads keep size index address entries).map
        (fun r ↦ (r.2.2, (buffer.drop r.2.1).take (size r.2.2))) =
      (entries.filter keep).zip
        (((entries.filter keep).map size).splitLengths (buffer.drop address)) := by
  induction entries with
  | nil => exact fun _ _ ↦ rfl
  | cons b entries ih =>
    intro index address
    by_cases hb : keep b = true
    · rw [reads, if_pos hb, List.filter_cons_of_pos hb, List.map_cons, List.map_cons,
        List.splitLengths_cons, List.zip_cons_cons, List.drop_drop, ih]
    · rw [reads, if_neg hb, List.filter_cons_of_neg hb, ih]

/-- A buffer of blocks gives each kept entry its own block, if only empty blocks have been skipped
before it. -/
theorem splitLengths_kept (block : β → List α) (entries : List β)
    (h : ∀ before b after, entries = before ++ b :: after → keep b = true →
      ∀ c ∈ before, keep c = true ∨ block c = []) :
    ((entries.filter keep).map fun b ↦ (block b).length).splitLengths (entries.map block).flatten =
      (entries.filter keep).map block := by
  induction entries with
  | nil => rfl
  | cons c entries ih =>
    have hentries := ih fun before b after hsplit hb c' hc' ↦
      h (c :: before) b after (by rw [hsplit, List.cons_append]) hb c' (.tail _ hc')
    by_cases hc : keep c = true
    · rw [List.filter_cons_of_pos hc, List.map_cons, List.map_cons, List.map_cons,
        List.splitLengths_cons, List.flatten_cons, List.take_left, List.drop_left, hentries]
    · rw [List.filter_cons_of_neg hc]
      by_cases hblock : block c = []
      · rw [List.map_cons, List.flatten_cons, hblock, List.nil_append, hentries]
      · -- an entry that is skipped and not empty is behind all that are kept
        have hnone : entries.filter keep = [] := List.filter_eq_nil_iff.2 fun b hb hkeep ↦ by
          obtain ⟨before, after, rfl⟩ := List.append_of_mem hb
          rcases h (c :: before) b after rfl hkeep c (.head _) with hc' | hc'
          · exact hc hc'
          · exact hblock hc'
        rw [hnone]
        rfl

/-- The kept entries are no longer than all of them. -/
theorem sum_kept_le (entries : List β) :
    ((entries.filter keep).map size).sum ≤ (entries.map size).sum :=
  (List.filter_sublist.map size).sum_le_sum (by simp)

/-- They are as long exactly if the others are empty. -/
theorem sum_skipped_iff (entries : List β) :
    ((entries.filter keep).map size).sum = (entries.map size).sum ↔
      ∀ b ∈ entries, keep b = true ∨ size b = 0 := by
  induction entries with
  | nil => simp
  | cons b entries ih =>
    have hle := sum_kept_le keep size entries
    rw [List.forall_mem_cons, ← ih, List.map_cons, List.sum_cons]
    by_cases hb : keep b = true
    · rw [List.filter_cons_of_pos hb, List.map_cons, List.sum_cons]
      simp [hb]
    · rw [List.filter_cons_of_neg hb]
      rw [or_iff_right hb]
      omega

end Touchless.Packing
