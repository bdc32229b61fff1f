import Touchless.Foundations.Loop
import Touchless.Utility.Value

/-!
# The reader ends on every text

Every reading function consumes what it reads, so the recursion of `parseValue` ends: with two units
of fuel for each byte it never runs out (`parseValue_ends`). What remains is a value or an
exception, as in the source.

The functions are composed by one rule. `Ends P r` says that the read `r` throws or returns a result
that satisfies `P`, and `Ends.bind` chains two reads.
-/

namespace Touchless.Value

open Loop (Turn)

variable {α β : Type} {P : α → Prop} {Q : β → Prop}

/-- A read that throws or returns a result that satisfies `P`. -/
def Ends (P : α → Prop) : Except Fault α → Prop
  | .ok a => P a
  | .error e => e = .thrown

theorem Ends.bind {r : Except Fault α} {f : α → Except Fault β} (hr : Ends P r)
    (hf : ∀ a, P a → Ends Q (f a)) : Ends Q (r >>= f) := by
  cases r with
  | ok a => exact hf a hr
  | error e => exact hr

theorem Ends.mono {P' : α → Prop} {r : Except Fault α} (hr : Ends P r) (h : ∀ a, P a → P' a) :
    Ends P' r := by
  cases r with
  | ok a => exact h a hr
  | error e => exact hr

theorem Ends.ite {c : Prop} [Decidable c] {r r' : Except Fault α} (hr : c → Ends P r)
    (hr' : ¬c → Ends P r') : Ends P (if c then r else r') := by
  split_ifs with h
  · exact hr h
  · exact hr' h

theorem ends_throw : Ends P (throw Fault.thrown : Except Fault α) := rfl

theorem ends_pure {a : α} (h : P a) : Ends P (pure a : Except Fault α) := h

/-! ### Characters -/

/-- `getChar` takes one byte. -/
theorem getChar_ends (stream : Bytes) :
    Ends (fun r ↦ r.2.length + 1 = stream.length) (getChar stream) := by
  cases stream <;> simp [getChar, Ends]

theorem peekChar_ends (stream : Bytes) : Ends (fun _ ↦ 0 < stream.length) (peekChar stream) := by
  cases stream <;> simp [peekChar, Ends]

theorem requireChar_ends (stream : Bytes) (required : UInt8) :
    Ends (fun rest ↦ rest.length + 1 = stream.length) (requireChar stream required) := by
  refine (peekChar_ends stream).bind fun c hc ↦ Ends.ite (fun _ ↦ ends_pure ?_) fun _ ↦ ends_throw
  rw [List.length_tail]
  omega

theorem getDigit_ends (stream : Bytes) :
    Ends (fun r ↦ r.2.length + 1 = stream.length) (getDigit stream) :=
  (peekChar_ends stream).bind fun _ _ ↦ Ends.ite (fun _ ↦ getChar_ends stream) fun _ ↦ ends_throw

theorem length_whileDigit_le (stream : Bytes) :
    (whileDigit stream).2.length ≤ stream.length := by
  induction stream with
  | nil => exact le_refl _
  | cons c stream ih =>
    rw [whileDigit]
    split_ifs
    · exact ih.trans (Nat.le_succ _)
    · exact le_refl _

theorem getHexDigitAsNibble_ends (stream : Bytes) :
    Ends (fun r ↦ r.2.length + 1 = stream.length) (getHexDigitAsNibble stream) := by
  cases stream with
  | nil => exact rfl
  | cons c stream =>
    simp only [getHexDigitAsNibble]
    split_ifs <;> simp [Ends]

theorem getUnicode_ends (stream : Bytes) :
    Ends (fun r ↦ r.2.length ≤ stream.length) (getUnicode stream) :=
  (getHexDigitAsNibble_ends stream).bind fun r₀ h₀ ↦
    (getHexDigitAsNibble_ends r₀.2).bind fun r₁ h₁ ↦
      (getHexDigitAsNibble_ends r₁.2).bind fun r₂ h₂ ↦
        (getHexDigitAsNibble_ends r₂.2).bind fun r₃ h₃ ↦
          ends_pure (by simp only at h₀ h₁ h₂ h₃ ⊢; omega)

theorem skipWhitespace_ends (stream : Bytes) :
    Ends (fun rest ↦ rest.length ≤ stream.length) (skipWhitespace stream) := by
  induction stream with
  | nil => exact rfl
  | cons c stream ih =>
    rw [skipWhitespace]
    exact Ends.ite (fun _ ↦ ih.mono fun rest h ↦ h.trans (Nat.le_succ _)) fun _ ↦ le_refl _

theorem requireChars_ends (word : Bytes) :
    ∀ stream, Ends (fun rest ↦ rest.length ≤ stream.length) (requireChars stream word) := by
  induction word with
  | nil => exact fun stream ↦ le_refl _
  | cons c word ih =>
    intro stream
    exact (requireChar_ends stream c).bind fun rest h ↦ (ih rest).mono fun _ h' ↦ by omega

/-! ### Strings and numbers -/

theorem parseSurrogate_ends (unicode : ℕ) (stream : Bytes) :
    Ends (fun r ↦ r.2.length ≤ stream.length) (parseSurrogate unicode stream) := by
  refine Ends.ite (fun _ ↦ ?_) fun _ ↦ le_refl _
  refine (requireChar_ends stream 0x5C).bind fun s₁ h₁ ↦ ?_
  refine (requireChar_ends s₁ 0x75).bind fun s₂ h₂ ↦ ?_
  refine (getUnicode_ends s₂).bind fun r₃ h₃ ↦ ?_
  refine Ends.ite (fun _ ↦ ends_throw) fun _ ↦ ends_pure ?_
  simp only
  omega

theorem parseUnicodeEscape_ends (stream : Bytes) :
    Ends (fun r ↦ r.2.length ≤ stream.length) (parseUnicodeEscape stream) := by
  refine (getUnicode_ends stream).bind fun r h ↦ (parseSurrogate_ends r.1 r.2).bind ?_
  rintro ⟨unicode, rest⟩ h'
  cases hbytes : utf8 unicode with
  | none =>
    simp only [hbytes]
    exact ends_throw
  | some bytes =>
    simp only [hbytes]
    exact ends_pure (h'.trans h)

theorem parseEscape_ends (stream : Bytes) :
    Ends (fun r ↦ r.2.length < stream.length) (parseEscape stream) := by
  refine (getChar_ends stream).bind fun r h ↦ ?_
  have hlt : r.2.length < stream.length := by omega
  refine Ends.ite (fun _ ↦ ends_pure hlt) fun _ ↦ ?_
  refine Ends.ite (fun _ ↦ ends_pure hlt) fun _ ↦ ?_
  refine Ends.ite (fun _ ↦ ends_pure hlt) fun _ ↦ ?_
  refine Ends.ite (fun _ ↦ ends_pure hlt) fun _ ↦ ?_
  refine Ends.ite (fun _ ↦ ends_pure hlt) fun _ ↦ ?_
  refine Ends.ite (fun _ ↦ ends_pure hlt) fun _ ↦ ?_
  refine Ends.ite (fun _ ↦ (parseUnicodeEscape_ends r.2).mono fun _ h' ↦ ?_) fun _ ↦ ends_throw
  exact h'.trans_lt hlt

theorem parseStringLoop_ends {fuel : ℕ} :
    ∀ {value stream : Bytes}, stream.length < fuel →
      Ends (fun r ↦ r.2.length < stream.length) (parseStringLoop fuel value stream) := by
  induction fuel with
  | zero => exact fun h ↦ absurd h (Nat.not_lt_zero _)
  | succ fuel ih =>
    intro value stream hfuel
    rw [parseStringLoop]
    refine (getChar_ends stream).bind fun r h ↦ ?_
    refine Ends.ite (fun _ ↦ ends_pure (by simp only; omega)) fun _ ↦
      Ends.ite (fun _ ↦ ?_) fun _ ↦ ?_
    · refine (parseEscape_ends r.2).bind fun r' h' ↦ ?_
      exact (ih (by omega)).mono fun _ h'' ↦ by omega
    · exact (ih (by omega)).mono fun _ h' ↦ by omega

theorem parseString_ends (stream : Bytes) :
    Ends (fun r ↦ r.2.length < stream.length) (parseString stream) :=
  (requireChar_ends stream 0x22).bind fun _ h ↦
    (parseStringLoop_ends (Nat.lt_succ_self _)).mono fun _ h' ↦ by omega

theorem parseFraction_ends (stream : Bytes) :
    Ends (fun r ↦ r.2.length ≤ stream.length) (parseFraction stream) := by
  refine Ends.ite (fun _ ↦ ?_) fun _ ↦ le_refl _
  refine (getChar_ends stream).bind fun r h ↦ (getDigit_ends r.2).bind fun r' h' ↦ ends_pure ?_
  have hdigits := length_whileDigit_le r'.2
  simp only at h h' ⊢
  omega

theorem parseExponent_ends (stream : Bytes) :
    Ends (fun r ↦ r.2.length ≤ stream.length) (parseExponent stream) := by
  refine Ends.ite (fun _ ↦ ?_) fun _ ↦ le_refl _
  refine (getChar_ends stream).bind fun r h ↦ (peekChar_ends r.2).bind fun c _ ↦ ?_
  have hsign : (if c = 0x2B ∨ c = 0x2D then r.2.tail else r.2).length ≤ r.2.length := by
    split_ifs <;> simp
  refine (getDigit_ends _).bind fun r' h' ↦ ends_pure ?_
  have hdigits := length_whileDigit_le r'.2
  simp only at h h' ⊢
  omega

theorem parseNumber_ends (floats : FloatText) (stream : Bytes) :
    Ends (fun r ↦ r.2.length < stream.length) (parseNumber floats stream) := by
  refine (peekChar_ends stream).bind fun c _ ↦ ?_
  have hsign : (if c = 0x2D then stream.tail else stream).length ≤ stream.length := by
    split_ifs <;> simp
  refine (getDigit_ends _).bind fun r h ↦ ?_
  have hdigits : (if r.1 ≠ 0x30 then (whileDigit r.2).2 else r.2).length ≤ r.2.length := by
    split_ifs
    · exact length_whileDigit_le r.2
    · exact le_refl _
  refine (parseFraction_ends _).bind fun r' h' ↦ (parseExponent_ends r'.2).bind fun r'' h'' ↦ ?_
  have hlt : r''.2.length < stream.length := by omega
  exact Ends.ite (fun _ ↦ ends_pure hlt) fun _ ↦ ends_pure hlt

/-! ### Values -/

theorem parseWord_ends (stream word : Bytes) (value : Value) (hword : word ≠ []) :
    Ends (fun r : Value × Bytes ↦ r.2.length < stream.length) (do
      return (value, ← requireChars stream word)) := by
  cases word with
  | nil => exact absurd rfl hword
  | cons c word =>
    refine Ends.bind (P := fun rest : Bytes ↦ rest.length < stream.length) ?_ fun _ h ↦ ends_pure h
    exact (requireChar_ends stream c).bind fun rest h ↦
      (requireChars_ends word rest).mono fun _ h' ↦ by omega

/-! ### Turns

The bodies of `parseValue` and of the loops in `parseObject` and `parseArray`, for any functions in
the place of those they call. -/

section Turns

variable (floats : FloatText) (onObject onArray onValue : Bytes → Except Fault (Value × Bytes))

/-- The body of `parseValue`; `onObject` and `onArray` read on behind the first character. -/
def dispatch (stream : Bytes) : Except Fault (Value × Bytes) := do
  let stream ← skipWhitespace stream
  let c ← peekChar stream
  if c = 0x7B then do
    let stream ← requireChar stream 0x7B
    onObject stream
  else if c = 0x5B then do
    let stream ← requireChar stream 0x5B
    onArray stream
  else if c = 0x74 then parseTrue stream
  else if c = 0x66 then parseFalse stream
  else if c = 0x6E then parseNull stream
  else if c = 0x22 then do
    let (s, stream) ← parseString stream
    return (string s, stream)
  else parseNumber floats stream

/-- The body of the loop in `parseObject`. -/
def objectTurn : List (Bytes × Value) × Bytes →
    Except Fault (Turn (List (Bytes × Value) × Bytes) (Value × Bytes))
  | (entries, stream) => do
    let stream ← skipWhitespace stream
    let c ← peekChar stream
    if c = 0x2C then
      if entries.isEmpty then throw .thrown
      else do
        let (_, stream) ← getChar stream
        return .next (entries, stream)
    else if c = 0x7D then do
      let (_, stream) ← getChar stream
      return .done (hash entries, stream)
    else do
      let (key, stream) ← parseString stream
      let stream ← skipWhitespace stream
      let stream ← requireChar stream 0x3A
      let (element, stream) ← onValue stream
      return .next (SortedAssoc.insert key element entries, stream)

/-- The body of the loop in `parseArray`. -/
def arrayTurn : List Value × Bytes → Except Fault (Turn (List Value × Bytes) (Value × Bytes))
  | (elements, stream) => do
    let stream ← skipWhitespace stream
    let c ← peekChar stream
    if c = 0x2C then
      if elements.isEmpty then throw .thrown
      else do
        let (_, stream) ← getChar stream
        return .next (elements, stream)
    else if c = 0x5D then do
      let (_, stream) ← getChar stream
      return .done (array elements, stream)
    else do
      let (element, stream) ← onValue stream
      return .next (elements ++ [element], stream)

/-- Fewer than `n` bytes are left behind the turn. -/
def Shorter (n : ℕ) : Turn (α × Bytes) (β × Bytes) → Prop
  | .next s => s.2.length < n
  | .done r => r.2.length < n

variable {floats onObject onArray onValue} {n fuel : ℕ}

theorem Ends.follow {loop : α × Bytes → Except Fault (β × Bytes)}
    {turn : Except Fault (Turn (α × Bytes) (β × Bytes))} (hturn : Ends (Shorter n) turn)
    (hloop : ∀ s, s.2.length < n → Ends (fun r ↦ r.2.length < s.2.length) (loop s)) :
    Ends (fun r ↦ r.2.length < n) (turn >>= Turn.follow loop) := by
  refine hturn.bind fun t ht ↦ ?_
  cases t with
  | next s => exact (hloop s ht).mono fun _ h ↦ h.trans ht
  | done r => exact ht

/-- **The body of `parseValue`** reads a character before it calls another function. -/
theorem dispatch_ends {stream : Bytes}
    (hobject : ∀ s, s.length < stream.length → Ends (fun r ↦ r.2.length < s.length) (onObject s))
    (harray : ∀ s, s.length < stream.length → Ends (fun r ↦ r.2.length < s.length) (onArray s)) :
    Ends (fun r ↦ r.2.length < stream.length) (dispatch floats onObject onArray stream) := by
  refine (skipWhitespace_ends stream).bind fun rest h ↦ (peekChar_ends rest).bind fun c hc ↦ ?_
  refine Ends.mono (P := fun r : Value × Bytes ↦ r.2.length < rest.length) ?_
    fun _ h' ↦ h'.trans_le h
  refine Ends.ite (fun _ ↦ ?_) fun _ ↦ Ends.ite (fun _ ↦ ?_) fun _ ↦ ?_
  · exact (requireChar_ends rest 0x7B).bind fun s h' ↦
      (hobject s (by omega)).mono fun _ h'' ↦ by omega
  · exact (requireChar_ends rest 0x5B).bind fun s h' ↦
      (harray s (by omega)).mono fun _ h'' ↦ by omega
  refine Ends.ite (fun _ ↦ parseWord_ends _ _ _ (by decide)) fun _ ↦ ?_
  refine Ends.ite (fun _ ↦ parseWord_ends _ _ _ (by decide)) fun _ ↦ ?_
  refine Ends.ite (fun _ ↦ parseWord_ends _ _ _ (by decide)) fun _ ↦ ?_
  refine Ends.ite (fun _ ↦ ?_) fun _ ↦ parseNumber_ends floats rest
  exact (parseString_ends rest).bind fun _ h' ↦ ends_pure h'

/-- **A turn of the loop in `parseObject`** reads a comma, the brace, or a member. -/
theorem objectTurn_ends {entries : List (Bytes × Value)} {stream : Bytes}
    (hvalue : ∀ s, s.length < stream.length → Ends (fun r ↦ r.2.length < s.length) (onValue s)) :
    Ends (Shorter stream.length) (objectTurn onValue (entries, stream)) := by
  refine (skipWhitespace_ends stream).bind fun rest h ↦ (peekChar_ends rest).bind fun c hc ↦ ?_
  refine Ends.ite (fun _ ↦ Ends.ite (fun _ ↦ ends_throw) fun _ ↦ ?_) fun _ ↦
    Ends.ite (fun _ ↦ ?_) fun _ ↦ ?_
  · exact (getChar_ends rest).bind fun r h' ↦ ends_pure (by simp only [Shorter]; omega)
  · exact (getChar_ends rest).bind fun r h' ↦ ends_pure (by simp only [Shorter]; omega)
  · refine (parseString_ends rest).bind fun r h₁ ↦ ?_
    refine (skipWhitespace_ends r.2).bind fun s₂ h₂ ↦ ?_
    refine (requireChar_ends s₂ 0x3A).bind fun s₃ h₃ ↦ ?_
    exact (hvalue s₃ (by omega)).bind fun r₄ h₄ ↦ ends_pure (by simp only [Shorter]; omega)

/-- **A turn of the loop in `parseArray`** reads a comma, the bracket, or an element. -/
theorem arrayTurn_ends {elements : List Value} {stream : Bytes}
    (hvalue : ∀ s, s.length ≤ stream.length → 0 < s.length →
      Ends (fun r ↦ r.2.length < s.length) (onValue s)) :
    Ends (Shorter stream.length) (arrayTurn onValue (elements, stream)) := by
  refine (skipWhitespace_ends stream).bind fun rest h ↦ (peekChar_ends rest).bind fun c hc ↦ ?_
  refine Ends.ite (fun _ ↦ Ends.ite (fun _ ↦ ends_throw) fun _ ↦ ?_) fun _ ↦
    Ends.ite (fun _ ↦ ?_) fun _ ↦ ?_
  · exact (getChar_ends rest).bind fun r h' ↦ ends_pure (by simp only [Shorter]; omega)
  · exact (getChar_ends rest).bind fun r h' ↦ ends_pure (by simp only [Shorter]; omega)
  · exact (hvalue rest h hc).bind fun r h' ↦ ends_pure (by simp only [Shorter]; omega)

theorem parseValue_succ (floats : FloatText) (fuel : ℕ) (stream : Bytes) :
    parseValue floats (fuel + 1) stream =
      dispatch floats (parseObjectLoop floats fuel []) (parseArrayLoop floats fuel []) stream := by
  rw [parseValue]
  rfl

theorem parseObjectLoop_succ (floats : FloatText) (fuel : ℕ) (entries : List (Bytes × Value))
    (stream : Bytes) :
    parseObjectLoop floats (fuel + 1) entries stream =
      objectTurn (parseValue floats fuel) (entries, stream) >>=
        Turn.follow fun s ↦ parseObjectLoop floats fuel s.1 s.2 := by
  rw [parseObjectLoop, objectTurn]
  simp only [bind_assoc]
  refine bind_congr fun rest ↦ bind_congr fun c ↦ ?_
  split_ifs
  · rfl
  all_goals
    simp only [bind_assoc]
    rfl

theorem parseArrayLoop_succ (floats : FloatText) (fuel : ℕ) (elements : List Value)
    (stream : Bytes) :
    parseArrayLoop floats (fuel + 1) elements stream =
      arrayTurn (parseValue floats fuel) (elements, stream) >>=
        Turn.follow fun s ↦ parseArrayLoop floats fuel s.1 s.2 := by
  rw [parseArrayLoop, arrayTurn]
  simp only [bind_assoc]
  refine bind_congr fun rest ↦ bind_congr fun c ↦ ?_
  split_ifs
  · rfl
  all_goals
    simp only [bind_assoc]
    rfl

end Turns

/-- **The reader ends.** With two units of fuel a byte, `parseValue` and its loops throw or return
and consume what they read. -/
theorem parseValue_ends (floats : FloatText) : ∀ fuel : ℕ,
    (∀ stream, 2 * stream.length ≤ fuel → 0 < fuel →
      Ends (fun r ↦ r.2.length < stream.length) (parseValue floats fuel stream)) ∧
    (∀ entries stream, 2 * stream.length + 1 ≤ fuel →
      Ends (fun r ↦ r.2.length < stream.length) (parseObjectLoop floats fuel entries stream)) ∧
    (∀ elements stream, 2 * stream.length + 1 ≤ fuel →
      Ends (fun r ↦ r.2.length < stream.length) (parseArrayLoop floats fuel elements stream)) := by
  intro fuel
  induction fuel with
  | zero =>
    refine ⟨fun _ _ h ↦ absurd h (Nat.lt_irrefl 0), fun _ _ h ↦ ?_, fun _ _ h ↦ ?_⟩ <;> omega
  | succ fuel ih =>
    obtain ⟨ihValue, ihObject, ihArray⟩ := ih
    refine ⟨fun stream hfuel _ ↦ ?_, fun entries stream hfuel ↦ ?_, fun elements stream hfuel ↦ ?_⟩
    · rw [parseValue_succ]
      exact dispatch_ends (fun s hs ↦ ihObject [] s (by omega)) fun s hs ↦ ihArray [] s (by omega)
    · rw [parseObjectLoop_succ]
      exact (objectTurn_ends fun s hs ↦ ihValue s (by omega) (by omega)).follow
        fun s hs ↦ ihObject s.1 s.2 (by omega)
    · rw [parseArrayLoop_succ]
      exact (arrayTurn_ends fun s hs hpos ↦ ihValue s (by omega) (by omega)).follow
        fun s hs ↦ ihArray s.1 s.2 (by omega)

/-- No text makes `readFrom` run out of fuel. -/
theorem parseValue_ne_outOfFuel (floats : FloatText) (stream : Bytes) :
    parseValue floats (2 * stream.length + 1) stream ≠ .error .outOfFuel := by
  intro h
  have hends := (parseValue_ends floats (2 * stream.length + 1)).1 stream (by omega) (by omega)
  rw [h] at hends
  exact Fault.noConfusion hends

end Touchless.Value
