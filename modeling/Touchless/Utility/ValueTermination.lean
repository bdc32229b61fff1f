import Touchless.Utility.ValueReader

/-!
# The reader without its fuel

The functions of the reader call one another as in the source, with no bound: with the fuel that
`readFrom` gives them they satisfy the equations of the source (`readValue_eq`,
`isLoop_readObjectLoop`, `isLoop_readArrayLoop`), and more fuel does not change what they return
(`parseValue_eq_readValue`). What makes them end is the text: each turn of a loop that goes on has
consumed a byte of it, and a function is called on fewer bytes than the one that calls it had
(`dispatch_congr`, `objectTurn_congr`, `arrayTurn_congr`).

The turn in which a loop is left reads the closing character, except in `skipWhitespace` and behind
the digits of a number, where it only looks at the next character. There the end of the text counts
for a NUL, which is no digit.
-/

namespace Touchless.Value

open Loop (Turn IsLoop)

variable {α β : Type} {P : α → Prop}

theorem Ends.bind_congr {r : Except Fault α} {f g : α → Except Fault β} (hr : Ends P r)
    (h : ∀ a, P a → f a = g a) : (r >>= f) = r >>= g := by
  cases r with
  | ok a => exact h a hr
  | error e => rfl

theorem Ends.follow_congr {n : ℕ} {loop loop' : α × Bytes → Except Fault (β × Bytes)}
    {turn : Except Fault (Turn (α × Bytes) (β × Bytes))} (hturn : Ends (Shorter n) turn)
    (h : ∀ s, s.2.length < n → loop s = loop' s) :
    (turn >>= Turn.follow loop) = turn >>= Turn.follow loop' := by
  refine hturn.bind_congr fun t ht ↦ ?_
  cases t with
  | next s => exact h s ht
  | done r => rfl

/-! ### Loops without calls -/

/-- The body of the loop in `skipWhitespace`. -/
def skipTurn (stream : Bytes) : Except Fault (Turn Bytes Bytes) := do
  let c ← peekChar stream
  if c = 0x20 ∨ c = 0x0A ∨ c = 0x0D ∨ c = 0x09 ∨ c = 0x0C then
    let (_, stream) ← getChar stream
    return .next stream
  else return .done stream

theorem isLoop_skipWhitespace : IsLoop skipTurn List.length skipWhitespace where
  eq := by
    intro stream
    cases stream with
    | nil => rfl
    | cons c stream =>
      simp only [skipTurn, peekChar, getChar, skipWhitespace, bind, Except.bind]
      split_ifs <;> rfl
  decreases := by
    intro stream stream' h
    cases stream with
    | nil => cases h
    | cons c stream =>
      simp only [skipTurn, peekChar, getChar, bind, Except.bind] at h
      split_ifs at h
      · cases h
        exact Nat.lt_succ_self _
      · cases h

/-- The condition of the loops in `parseNumber`, and their body. -/
def digitTurn : Bytes × Bytes → Except Fault (Turn (Bytes × Bytes) (Bytes × Bytes))
  | (digits, stream) =>
    if isDigit (peekCharOptional stream) then do
      let (c, stream) ← getChar stream
      return .next (digits ++ [c], stream)
    else return .done (digits, stream)

/-- The loops in `parseNumber`, with the digits read so far. -/
def readDigits : Bytes × Bytes → Except Fault (Bytes × Bytes)
  | (digits, stream) => .ok (digits ++ (whileDigit stream).1, (whileDigit stream).2)

theorem digitTurn_cons (digits : Bytes) (c : UInt8) (stream : Bytes) :
    digitTurn (digits, c :: stream) =
      if isDigit c then .ok (.next (digits ++ [c], stream))
      else .ok (.done (digits, c :: stream)) :=
  rfl

theorem isLoop_readDigits : IsLoop digitTurn (fun s ↦ s.2.length) readDigits where
  eq := by
    rintro ⟨digits, stream⟩
    cases stream with
    | nil =>
      rw [readDigits, whileDigit, List.append_nil]
      rfl
    | cons c stream =>
      rw [digitTurn_cons, readDigits, whileDigit]
      split_ifs
      · rw [List.append_cons]
        rfl
      · rw [List.append_nil]
        rfl
  decreases := by
    rintro ⟨digits, stream⟩ s' h
    cases stream with
    | nil => cases h
    | cons c stream =>
      rw [digitTurn_cons] at h
      split_ifs at h
      · cases h
        exact Nat.lt_succ_self _
      · cases h

/-- The body of the loop in `parseString`. -/
def stringTurn : Bytes × Bytes → Except Fault (Turn (Bytes × Bytes) (Bytes × Bytes))
  | (value, stream) => do
    let (c, stream) ← getChar stream
    if c = 0x22 then return .done (value, stream)
    else if c = 0x5C then
      let (escaped, stream) ← parseEscape stream
      return .next (value ++ escaped, stream)
    else return .next (value ++ [c], stream)

theorem stringTurn_ends (value stream : Bytes) :
    Ends (Shorter stream.length) (stringTurn (value, stream)) := by
  refine (getChar_ends stream).bind fun r h ↦ ?_
  refine Ends.ite (fun _ ↦ ends_pure ?_) fun _ ↦ Ends.ite (fun _ ↦ ?_) fun _ ↦ ends_pure ?_
  · simp only [Shorter]
    omega
  · exact (parseEscape_ends r.2).bind fun r' h' ↦ ends_pure (by simp only [Shorter]; omega)
  · simp only [Shorter]
    omega

theorem parseStringLoop_succ (fuel : ℕ) (value stream : Bytes) :
    parseStringLoop (fuel + 1) value stream =
      stringTurn (value, stream) >>= Turn.follow fun s ↦ parseStringLoop fuel s.1 s.2 := by
  rw [parseStringLoop, stringTurn, bind_assoc]
  refine bind_congr fun r ↦ ?_
  dsimp only
  split_ifs
  · rfl
  · rw [bind_assoc]
    rfl
  · rfl

/-! ### Calls

Each function depends on those it calls only as far as they read what is left then. -/

section Calls

variable {floats : FloatText} {stream : Bytes}
  {onObject onObject' onArray onArray' onValue onValue' : Bytes → Except Fault (Value × Bytes)}

/-- `parseValue` calls on fewer bytes, -/
theorem dispatch_congr (hobject : ∀ s, s.length < stream.length → onObject s = onObject' s)
    (harray : ∀ s, s.length < stream.length → onArray s = onArray' s) :
    dispatch floats onObject onArray stream = dispatch floats onObject' onArray' stream := by
  refine (skipWhitespace_ends stream).bind_congr fun rest h ↦
    (peekChar_ends rest).bind_congr fun c _ ↦ ?_
  dsimp only
  split_ifs
  · exact (requireChar_ends rest 0x7B).bind_congr fun s h' ↦ hobject s (by omega)
  · exact (requireChar_ends rest 0x5B).bind_congr fun s h' ↦ harray s (by omega)
  all_goals rfl

/-- and so does `parseObject`; -/
theorem objectTurn_congr (hvalue : ∀ s, s.length < stream.length → onValue s = onValue' s)
    (entries : List (Bytes × Value)) :
    objectTurn onValue (entries, stream) = objectTurn onValue' (entries, stream) := by
  refine (skipWhitespace_ends stream).bind_congr fun rest h ↦
    (peekChar_ends rest).bind_congr fun c _ ↦ ?_
  dsimp only
  split_ifs
  · rfl
  · rfl
  · rfl
  · refine (parseString_ends rest).bind_congr fun r₁ h₁ ↦
      (skipWhitespace_ends r₁.2).bind_congr fun s₂ h₂ ↦
        (requireChar_ends s₂ 0x3A).bind_congr fun s₃ h₃ ↦ ?_
    rw [hvalue s₃ (by omega)]

/-- `parseArray` calls on what it has been left, as it has read a bracket itself. -/
theorem arrayTurn_congr
    (hvalue : ∀ s, s.length ≤ stream.length → 0 < s.length → onValue s = onValue' s)
    (elements : List Value) :
    arrayTurn onValue (elements, stream) = arrayTurn onValue' (elements, stream) := by
  refine (skipWhitespace_ends stream).bind_congr fun rest h ↦
    (peekChar_ends rest).bind_congr fun c hc ↦ ?_
  dsimp only
  rw [hvalue rest h hc]

end Calls

/-! ### More fuel -/

/-- What one more unit of fuel does not change from some fuel on, no more fuel changes. -/
theorem eq_of_stable {f : ℕ → β} {bound : ℕ} (h : ∀ fuel, bound ≤ fuel → f (fuel + 1) = f fuel)
    {fuel fuel' : ℕ} (hfuel : bound ≤ fuel) (hfuel' : bound ≤ fuel') : f fuel = f fuel' := by
  have hbound : ∀ {fuel}, bound ≤ fuel → f fuel = f bound := by
    intro fuel hfuel
    induction fuel, hfuel using Nat.le_induction with
    | base => rfl
    | succ fuel hfuel ih => exact (h fuel hfuel).trans ih
  rw [hbound hfuel, hbound hfuel']

/-- The strings stay the same, -/
theorem parseStringLoop_stable {fuel : ℕ} : ∀ {value stream : Bytes}, stream.length < fuel →
    parseStringLoop (fuel + 1) value stream = parseStringLoop fuel value stream := by
  induction fuel with
  | zero => exact fun h ↦ absurd h (Nat.not_lt_zero _)
  | succ fuel ih =>
    intro value stream hfuel
    rw [parseStringLoop_succ, parseStringLoop_succ]
    exact (stringTurn_ends value stream).follow_congr fun s hs ↦ ih (by omega)

/-- **and so do the values.** -/
theorem parseValue_stable (floats : FloatText) : ∀ fuel : ℕ,
    (∀ stream, 2 * stream.length ≤ fuel → 0 < fuel →
      parseValue floats (fuel + 1) stream = parseValue floats fuel stream) ∧
    (∀ entries stream, 2 * stream.length + 1 ≤ fuel →
      parseObjectLoop floats (fuel + 1) entries stream =
        parseObjectLoop floats fuel entries stream) ∧
    (∀ elements stream, 2 * stream.length + 1 ≤ fuel →
      parseArrayLoop floats (fuel + 1) elements stream =
        parseArrayLoop floats fuel elements stream) := by
  intro fuel
  induction fuel with
  | zero =>
    refine ⟨fun _ _ h ↦ absurd h (Nat.lt_irrefl 0), fun _ _ h ↦ ?_, fun _ _ h ↦ ?_⟩ <;> omega
  | succ fuel ih =>
    obtain ⟨ihValue, ihObject, ihArray⟩ := ih
    obtain ⟨hends, -, -⟩ := parseValue_ends floats fuel
    refine ⟨fun stream hfuel _ ↦ ?_, fun entries stream hfuel ↦ ?_, fun elements stream hfuel ↦ ?_⟩
    · rw [parseValue_succ, parseValue_succ]
      exact dispatch_congr (fun s hs ↦ ihObject [] s (by omega)) fun s hs ↦ ihArray [] s (by omega)
    · rw [parseObjectLoop_succ, parseObjectLoop_succ,
        objectTurn_congr fun s hs ↦ ihValue s (by omega) (by omega)]
      exact (objectTurn_ends fun s hs ↦ hends s (by omega) (by omega)).follow_congr
        fun s hs ↦ ihObject s.1 s.2 (by omega)
    · rw [parseArrayLoop_succ, parseArrayLoop_succ,
        arrayTurn_congr fun s hs hpos ↦ ihValue s (by omega) (by omega)]
      exact (arrayTurn_ends fun s hs hpos ↦ hends s (by omega) (by omega)).follow_congr
        fun s hs ↦ ihArray s.1 s.2 (by omega)

/-! ### The reader without its fuel -/

/-- The loop of `parseString`. -/
def readStringLoop (s : Bytes × Bytes) : Except Fault (Bytes × Bytes) :=
  parseStringLoop (s.2.length + 1) s.1 s.2

section Readers

variable (floats : FloatText)

/-- `parseValue`. -/
def readValue (stream : Bytes) : Except Fault (Value × Bytes) :=
  parseValue floats (2 * stream.length + 1) stream

/-- The loop of `parseObject`. -/
def readObjectLoop (s : List (Bytes × Value) × Bytes) : Except Fault (Value × Bytes) :=
  parseObjectLoop floats (2 * s.2.length + 1) s.1 s.2

/-- The loop of `parseArray`. -/
def readArrayLoop (s : List Value × Bytes) : Except Fault (Value × Bytes) :=
  parseArrayLoop floats (2 * s.2.length + 1) s.1 s.2

variable {floats} {fuel : ℕ} {stream : Bytes}

theorem parseValue_eq_readValue (hfuel : 2 * stream.length ≤ fuel) (hpos : 0 < fuel) :
    parseValue floats fuel stream = readValue floats stream :=
  @eq_of_stable _ (fun fuel ↦ parseValue floats fuel stream) (max (2 * stream.length) 1)
    (fun fuel h ↦ (parseValue_stable floats fuel).1 stream (by omega) (by omega)) _ _ (by omega)
    (by omega)

theorem parseObjectLoop_eq_readObjectLoop (hfuel : 2 * stream.length + 1 ≤ fuel)
    (entries : List (Bytes × Value)) :
    parseObjectLoop floats fuel entries stream = readObjectLoop floats (entries, stream) :=
  @eq_of_stable _ (fun fuel ↦ parseObjectLoop floats fuel entries stream) (2 * stream.length + 1)
    (fun fuel h ↦ (parseValue_stable floats fuel).2.1 entries stream h) _ _ hfuel (le_refl _)

theorem parseArrayLoop_eq_readArrayLoop (hfuel : 2 * stream.length + 1 ≤ fuel)
    (elements : List Value) :
    parseArrayLoop floats fuel elements stream = readArrayLoop floats (elements, stream) :=
  @eq_of_stable _ (fun fuel ↦ parseArrayLoop floats fuel elements stream) (2 * stream.length + 1)
    (fun fuel h ↦ (parseValue_stable floats fuel).2.2 elements stream h) _ _ hfuel (le_refl _)

theorem readValue_ends (floats : FloatText) (stream : Bytes) :
    Ends (fun r ↦ r.2.length < stream.length) (readValue floats stream) :=
  (parseValue_ends floats _).1 stream (by omega) (by omega)

/-- **`parseValue`** is its body with the loops. -/
theorem readValue_eq (floats : FloatText) (stream : Bytes) :
    readValue floats stream =
      dispatch floats (fun s ↦ readObjectLoop floats ([], s)) (fun s ↦ readArrayLoop floats ([], s))
        stream := by
  rw [readValue, parseValue_succ]
  exact dispatch_congr (fun s hs ↦ parseObjectLoop_eq_readObjectLoop (by omega) [])
    fun s hs ↦ parseArrayLoop_eq_readArrayLoop (by omega) []

/-- **The loop of `parseString`** -/
theorem isLoop_readStringLoop : IsLoop stringTurn (fun s ↦ s.2.length) readStringLoop where
  eq := by
    rintro ⟨value, stream⟩
    rw [readStringLoop, parseStringLoop_succ]
    refine (stringTurn_ends value stream).follow_congr fun s hs ↦ ?_
    exact @eq_of_stable _ (fun fuel ↦ parseStringLoop fuel s.1 s.2) (s.2.length + 1)
      (fun fuel h ↦ parseStringLoop_stable h) _ _ hs (le_refl _)
  decreases := by
    rintro ⟨value, stream⟩ s' h
    have hends := stringTurn_ends value stream
    rwa [h] at hends

/-- **and that of `parseObject`** -/
theorem isLoop_readObjectLoop (floats : FloatText) :
    IsLoop (objectTurn (readValue floats)) (fun s ↦ s.2.length) (readObjectLoop floats) where
  eq := by
    rintro ⟨entries, stream⟩
    rw [readObjectLoop, parseObjectLoop_succ,
      objectTurn_congr fun s hs ↦ parseValue_eq_readValue (by omega) (by omega)]
    exact (objectTurn_ends fun s hs ↦ readValue_ends floats s).follow_congr
      fun s hs ↦ parseObjectLoop_eq_readObjectLoop (by omega) s.1
  decreases := by
    rintro ⟨entries, stream⟩ s' h
    have hends := @objectTurn_ends _ entries stream fun s hs ↦ readValue_ends floats s
    rwa [h] at hends

/-- **and that of `parseArray`** consume a byte with every turn. -/
theorem isLoop_readArrayLoop (floats : FloatText) :
    IsLoop (arrayTurn (readValue floats)) (fun s ↦ s.2.length) (readArrayLoop floats) where
  eq := by
    rintro ⟨elements, stream⟩
    rw [readArrayLoop, parseArrayLoop_succ,
      arrayTurn_congr fun s hs hpos ↦ parseValue_eq_readValue (by omega) (by omega)]
    exact (arrayTurn_ends fun s hs hpos ↦ readValue_ends floats s).follow_congr
      fun s hs ↦ parseArrayLoop_eq_readArrayLoop (by omega) s.1
  decreases := by
    rintro ⟨elements, stream⟩ s' h
    have hends := @arrayTurn_ends _ elements stream fun s hs hpos ↦ readValue_ends floats s
    rwa [h] at hends

end Readers

/-! ### The end of the text -/

/-- Where a character is required, the end of the text raises an exception. -/
structure RaisesAtEnd (floats : FloatText) : Prop where
  getChar : getChar [] = .error .thrown
  peekChar : peekChar [] = .error .thrown
  requireChar : ∀ c, requireChar [] c = .error .thrown
  requireChars : ∀ c word, requireChars [] (c :: word) = .error .thrown
  getDigit : getDigit [] = .error .thrown
  getUnicode : getUnicode [] = .error .thrown
  skipWhitespace : skipWhitespace [] = .error .thrown
  parseEscape : parseEscape [] = .error .thrown
  parseString : parseString [] = .error .thrown
  parseNumber : parseNumber floats [] = .error .thrown
  readValue : readValue floats [] = .error .thrown
  readStringLoop : ∀ value, readStringLoop (value, []) = .error .thrown
  readObjectLoop : ∀ entries, readObjectLoop floats (entries, []) = .error .thrown
  readArrayLoop : ∀ elements, readArrayLoop floats (elements, []) = .error .thrown

theorem raisesAtEnd (floats : FloatText) : RaisesAtEnd floats where
  getChar := rfl
  peekChar := rfl
  requireChar := fun _ ↦ rfl
  requireChars := fun _ _ ↦ rfl
  getDigit := rfl
  getUnicode := rfl
  skipWhitespace := rfl
  parseEscape := rfl
  parseString := rfl
  parseNumber := rfl
  readValue := (readValue_eq floats []).trans rfl
  readStringLoop := fun value ↦ (isLoop_readStringLoop.eq (value, [])).trans rfl
  readObjectLoop := fun entries ↦ ((isLoop_readObjectLoop floats).eq (entries, [])).trans rfl
  readArrayLoop := fun elements ↦ ((isLoop_readArrayLoop floats).eq (elements, [])).trans rfl

/-- Where a character is optional, the end of the text is a NUL, which is none that is looked for.
-/
theorem parseNumber_atEnd (digits : Bytes) :
    peekCharOptional [] = 0 ∧ digitTurn (digits, []) = .ok (.done (digits, [])) ∧
      parseFraction [] = .ok ([], []) ∧ parseExponent [] = .ok ([], []) :=
  ⟨rfl, rfl, rfl, rfl⟩

/-! ### The reader ends -/

/-- A function is called on fewer bytes than the one that calls it had: what it returns for more
bytes does not matter. The loop of `parseArray` has read a bracket before it begins. -/
structure CallsOnLess (floats : FloatText) : Prop where
  parseValue : ∀ {stream : Bytes}
    {onObject onObject' onArray onArray' : Bytes → Except Fault (Value × Bytes)},
    (∀ s, s.length < stream.length → onObject s = onObject' s) →
    (∀ s, s.length < stream.length → onArray s = onArray' s) →
    dispatch floats onObject onArray stream = dispatch floats onObject' onArray' stream
  parseObject : ∀ {stream : Bytes} {onValue onValue' : Bytes → Except Fault (Value × Bytes)},
    (∀ s, s.length < stream.length → onValue s = onValue' s) →
    ∀ entries, objectTurn onValue (entries, stream) = objectTurn onValue' (entries, stream)
  parseArray : ∀ {stream : Bytes} {onValue onValue' : Bytes → Except Fault (Value × Bytes)},
    (∀ s, s.length ≤ stream.length → 0 < s.length → onValue s = onValue' s) →
    ∀ elements, arrayTurn onValue (elements, stream) = arrayTurn onValue' (elements, stream)

/-- A call throws, or returns with fewer bytes left than it had. -/
structure Consumes (floats : FloatText) : Prop where
  parseValue : ∀ stream, Ends (fun r ↦ r.2.length < stream.length) (readValue floats stream)
  parseString : ∀ stream, Ends (fun r ↦ r.2.length < stream.length) (parseString stream)
  parseNumber : ∀ stream, Ends (fun r ↦ r.2.length < stream.length) (parseNumber floats stream)
  stringTurn : ∀ value stream, Ends (Shorter stream.length) (stringTurn (value, stream))
  objectTurn : ∀ entries stream,
    Ends (Shorter stream.length) (objectTurn (readValue floats) (entries, stream))
  arrayTurn : ∀ elements stream,
    Ends (Shorter stream.length) (arrayTurn (readValue floats) (elements, stream))

theorem consumes (floats : FloatText) : Consumes floats where
  parseValue := readValue_ends floats
  parseString := parseString_ends
  parseNumber := parseNumber_ends floats
  stringTurn := stringTurn_ends
  objectTurn := fun _ _ ↦ objectTurn_ends fun s _ ↦ readValue_ends floats s
  arrayTurn := fun _ _ ↦ arrayTurn_ends fun s _ _ ↦ readValue_ends floats s

/-- **`FromJSON` ends on every text**: its functions are those of the source, without a bound; each
loop ends, as each turn that goes on has consumed a byte; each call consumes a byte or throws; the
end of the text throws where a character is required. What throws leaves the null value. -/
theorem fromJSON_terminates (floats : FloatText) :
    (∀ stream, readValue floats stream =
      dispatch floats (fun s ↦ readObjectLoop floats ([], s)) (fun s ↦ readArrayLoop floats ([], s))
        stream) ∧
    Loop.Terminates (objectTurn (readValue floats)) (fun s ↦ s.2.length) (readObjectLoop floats) ∧
    Loop.Terminates (arrayTurn (readValue floats)) (fun s ↦ s.2.length) (readArrayLoop floats) ∧
    Loop.Terminates stringTurn (fun s ↦ s.2.length) readStringLoop ∧
    Loop.Terminates digitTurn (fun s ↦ s.2.length) readDigits ∧
    Loop.Terminates skipTurn List.length skipWhitespace ∧
    CallsOnLess floats ∧ Consumes floats ∧ RaisesAtEnd floats ∧
    (∀ digits, peekCharOptional [] = 0 ∧ digitTurn (digits, []) = .ok (.done (digits, [])) ∧
      parseFraction [] = .ok ([], []) ∧ parseExponent [] = .ok ([], [])) ∧
    ∀ text,
      (∀ fuel, 2 * text.length + 1 ≤ fuel →
        parseValue floats fuel text = readValue floats text) ∧
      ((∃ value rest, readValue floats text = .ok (value, rest) ∧ fromJSON floats text = value) ∨
        readValue floats text = .error .thrown ∧ fromJSON floats text = null) := by
  refine ⟨readValue_eq floats, (isLoop_readObjectLoop floats).terminates,
    (isLoop_readArrayLoop floats).terminates, isLoop_readStringLoop.terminates,
    isLoop_readDigits.terminates, isLoop_skipWhitespace.terminates,
    ⟨dispatch_congr, objectTurn_congr, arrayTurn_congr⟩, consumes floats, raisesAtEnd floats,
    parseNumber_atEnd, fun text ↦
      ⟨fun fuel hfuel ↦ parseValue_eq_readValue (by omega) (by omega), ?_⟩⟩
  have hends := readValue_ends floats text
  cases hread : readValue floats text with
  | ok result =>
    refine .inl ⟨result.1, result.2, rfl, ?_⟩
    rw [readValue] at hread
    rw [fromJSON, readFrom, hread]
  | error e =>
    rw [hread] at hends
    obtain rfl : e = .thrown := hends
    refine .inr ⟨rfl, ?_⟩
    rw [readValue] at hread
    rw [fromJSON, readFrom, hread]

/-- A text that breaks off in the second of two arrays. -/
theorem fromJSON_terminates_unclosed :
    let floats : FloatText := ⟨fun _ ↦ [], fun _ ↦ [], fun _ ↦ 0⟩
    parseValue floats 13 (ascii "[1 [ ") = .error .thrown ∧
      fromJSON floats (ascii "[1 [ ") = null := by
  intro floats
  obtain ⟨hfuel, hread⟩ := (fromJSON_terminates floats).2.2.2.2.2.2.2.2.2.2 (ascii "[1 [ ")
  rw [hfuel 13 (by decide)]
  rcases hread with ⟨value, rest, hread, -⟩ | hread
  · have hthrown : readValue floats (ascii "[1 [ ") = .error .thrown := rfl
    rw [hthrown] at hread
    cases hread
  · exact hread

end Touchless.Value
