import Mathlib.Data.List.Basic

/-!
# A value that is mirrored by messages

A value is kept at a source, which may change it by itself, and shown at a mirror, which the user
may change. The source announces its value by messages that are delivered in their order, some time
later; the mirror changes to what is delivered, if it can show it, and every change of the mirror is
written back to the source at once. Neither side waits for the other, so both may have moved on when
a message arrives.

`Mirrored` is what holds at all times, and it is a matter of the last message alone: that one has
what the source has, or the source has what the mirror shows. When no message is left, the mirror
shows what the source has, unless it cannot (`Mirrored.eq_encode`).
-/

namespace Touchless

variable {α β : Type*}

/-- How the values of a source are shown. -/
structure Mirror (α β : Type*) where
  /-- how the mirror shows a value, if it can -/
  decode : α → Option β
  /-- the value that the mirror writes back -/
  encode : β → α
  encode_decode : ∀ {a b}, decode a = some b → encode b = a

namespace Mirror

variable [DecidableEq β] (m : Mirror α β)

/-- The source and the mirror after the mirror has been changed. -/
def change (source : α) (shown b : β) : α × β :=
  if shown = b then (source, shown) else (m.encode b, b)

/-- The source and the mirror after the delivery of a message. -/
def deliver (source : α) (shown : β) (message : α) : α × β :=
  match m.decode message with
  | some b => m.change source shown b
  | none => (source, shown)

omit [DecidableEq β] in
/-- What holds at all times, by the last message that has not been delivered. -/
def Mirrored (source : α) (shown : β) : Option α → Prop
  | some message => source = message ∨ source = m.encode shown
  | none => source = m.encode shown ∨ m.decode source = none

variable {m} {source message : α} {shown b : β} {last last' : Option α}

omit [DecidableEq β] in
/-- The source announces its value. -/
theorem Mirrored.announce : m.Mirrored source shown (some source) := .inl rfl

theorem deliver_some (h : m.decode message = some b) :
    m.deliver source shown message = m.change source shown b := by
  rw [deliver, h]

theorem deliver_none (h : m.decode message = none) :
    m.deliver source shown message = (source, shown) := by
  rw [deliver, h]

/-- **A change of the mirror** is written back. -/
theorem Mirrored.change (h : m.Mirrored source shown last) :
    m.Mirrored (m.change source shown b).1 (m.change source shown b).2 last := by
  rw [Mirror.change]
  split_ifs
  · exact h
  · cases last with
    | some message => exact .inr rfl
    | none => exact .inl rfl

/-- **A delivery**: the last message leaves the mirror with what the source has. -/
theorem Mirrored.deliver (h : m.Mirrored source shown last)
    (hlast : last' = last ∨ last = some message ∧ last' = none) :
    m.Mirrored (m.deliver source shown message).1 (m.deliver source shown message).2 last' := by
  rcases hlast with rfl | ⟨rfl, rfl⟩
  · cases hdecode : m.decode message with
    | some b =>
      rw [deliver_some hdecode]
      exact h.change
    | none =>
      rw [deliver_none hdecode]
      exact h
  · cases hdecode : m.decode message with
    | some b =>
      rw [deliver_some hdecode, Mirror.change]
      split_ifs with hsame
      · -- the mirror shows the message already
        rcases h with h | h
        · exact .inl (by rw [h, hsame, m.encode_decode hdecode])
        · exact .inl h
      · exact .inl rfl
    | none =>
      rw [deliver_none hdecode]
      rcases h with h | h
      · exact .inr (by rw [h, hdecode])
      · exact .inl h

/-- A message that has what the source has leaves the source alone, and is shown. -/
theorem deliver_source : (m.deliver source shown source).1 = source ∧
    ∀ b, m.decode source = some b → (m.deliver source shown source).2 = b := by
  cases hdecode : m.decode source with
  | none =>
    rw [deliver_none hdecode]
    exact ⟨rfl, nofun⟩
  | some b =>
    rw [deliver_some hdecode, Mirror.change]
    split_ifs with hsame
    · exact ⟨rfl, fun b' hb ↦ hsame.trans (Option.some.inj hb)⟩
    · exact ⟨m.encode_decode hdecode, fun b' hb ↦ Option.some.inj hb⟩

omit [DecidableEq β] in
/-- **When nothing is on its way**, the mirror shows what the source has, if it can. -/
theorem Mirrored.eq_encode (h : m.Mirrored source shown none) (hdecode : m.decode source = some b) :
    source = m.encode shown := by
  rcases h with h | h
  · exact h
  · rw [h] at hdecode
    cases hdecode

end Mirror

end Touchless
