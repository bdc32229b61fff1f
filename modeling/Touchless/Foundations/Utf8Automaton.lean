import Touchless.Foundations.Utf8

/-!
# Well-formed UTF-8

A byte string is well formed if it consists of the encodings of scalar values. The table of RFC 3629
recognises these byte by byte: the first byte of a sequence says how many bytes follow, and after
some first bytes the second one has a smaller range, which excludes overlong forms, surrogates and
numbers above the last scalar value. The file has the table as an automaton and shows that it
accepts exactly the well-formed byte strings (`run_start_iff`).
-/

namespace Touchless.Utf8

/-- The byte string encodes scalar values. -/
def WellFormed (bytes : Bytes) : Prop :=
  ∃ text : List Char, bytes = text.flatMap String.utf8EncodeChar

/-- Where the automaton stands: between two characters, before the last bytes of one (`tail n` is
before `n + 1` of them), or behind a first byte that narrows the range of the second one. -/
inductive State where
  | start
  | tail (n : ℕ)
  | afterE0
  | afterED
  | afterF0
  | afterF4
  deriving DecidableEq

/-- One byte; `none` if it may not stand here. -/
def step : State → UInt8 → Option State
  | .start, b =>
    if b.toNat ≤ 0x7F then some .start
    else if b.toNat < 0xC2 then none
    else if b.toNat ≤ 0xDF then some (.tail 0)
    else if b.toNat = 0xE0 then some .afterE0
    else if b.toNat = 0xED then some .afterED
    else if b.toNat ≤ 0xEF then some (.tail 1)
    else if b.toNat = 0xF0 then some .afterF0
    else if b.toNat ≤ 0xF3 then some (.tail 2)
    else if b.toNat = 0xF4 then some .afterF4
    else none
  | .tail 0, b => if 0x80 ≤ b.toNat ∧ b.toNat ≤ 0xBF then some .start else none
  | .tail (n + 1), b => if 0x80 ≤ b.toNat ∧ b.toNat ≤ 0xBF then some (.tail n) else none
  | .afterE0, b => if 0xA0 ≤ b.toNat ∧ b.toNat ≤ 0xBF then some (.tail 0) else none
  | .afterED, b => if 0x80 ≤ b.toNat ∧ b.toNat ≤ 0x9F then some (.tail 0) else none
  | .afterF0, b => if 0x90 ≤ b.toNat ∧ b.toNat ≤ 0xBF then some (.tail 1) else none
  | .afterF4, b => if 0x80 ≤ b.toNat ∧ b.toNat ≤ 0x8F then some (.tail 1) else none

/-- The bytes one after the other. -/
def run (state : State) (bytes : Bytes) : Option State := bytes.foldlM step state

@[simp]
theorem run_nil (state : State) : run state [] = some state := rfl

theorem run_cons (state : State) (b : UInt8) (bytes : Bytes) :
    run state (b :: bytes) = (step state b).bind fun state ↦ run state bytes := rfl

theorem run_append (state : State) (bytes bytes' : Bytes) :
    run state (bytes ++ bytes') = (run state bytes).bind fun state ↦ run state bytes' :=
  List.foldlM_append

/-! ### ASCII characters -/

variable {b : UInt8} {state : State} {bytes : Bytes}

theorem step_start_ascii (h : b.toNat ≤ 0x7F) : step .start b = some .start := if_pos h

/-- Inside a character there is no ASCII character. -/
theorem step_ascii (hstate : state ≠ .start) (h : b.toNat ≤ 0x7F) : step state b = none := by
  cases state with
  | start => exact absurd rfl hstate
  | tail n => cases n <;> exact if_neg (by omega)
  | afterE0 | afterED | afterF0 | afterF4 => exact if_neg (by omega)

theorem run_start_ascii (h : ∀ b ∈ bytes, b.toNat ≤ 0x7F) : run .start bytes = some .start := by
  induction bytes with
  | nil => rfl
  | cons b bytes ih =>
    rw [run_cons, step_start_ascii (h b List.mem_cons_self)]
    exact ih fun b hb ↦ h b (List.mem_cons_of_mem _ hb)

/-- Around an ASCII character there are whole characters. -/
theorem run_append_ascii {state' : State} {bytes' : Bytes} (hb : b.toNat ≤ 0x7F)
    (h : run state (bytes ++ b :: bytes') = some state') :
    run state bytes = some .start ∧ run .start bytes' = some state' := by
  rw [run_append, Option.bind_eq_some_iff] at h
  obtain ⟨middle, hbytes, hrest⟩ := h
  by_cases hmiddle : middle = .start
  · subst hmiddle
    rw [run_cons, step_start_ascii hb, Option.bind_some] at hrest
    exact ⟨hbytes, hrest⟩
  · rw [run_cons, step_ascii hmiddle hb] at hrest
    cases hrest

/-! ### Characters -/

/-- A continuation byte. -/
abbrev IsTail (b : UInt8) : Prop := 0x80 ≤ b.toNat ∧ b.toNat ≤ 0xBF

theorem run_tail (n : ℕ) (h : IsTail b) :
    run (.tail (n + 1)) (b :: bytes) = run (.tail n) bytes := by
  have hstep : step (.tail (n + 1)) b = some (.tail n) := if_pos h
  rw [run_cons, hstep, Option.bind_some]

theorem run_tail_zero (h : IsTail b) : run (.tail 0) (b :: bytes) = run .start bytes := by
  have hstep : step (.tail 0) b = some .start := if_pos h
  rw [run_cons, hstep, Option.bind_some]

theorem run_two {b₁ b₂ : UInt8} (h₁ : 0xC2 ≤ b₁.toNat ∧ b₁.toNat ≤ 0xDF) (h₂ : IsTail b₂) :
    run .start (b₁ :: b₂ :: bytes) = run .start bytes := by
  have hstep : step .start b₁ = some (.tail 0) := by
    rw [step, if_neg (by omega), if_neg (by omega), if_pos h₁.2]
  rw [run_cons, hstep, Option.bind_some, run_tail_zero h₂]

/-- The second byte keeps out overlong forms and surrogates. -/
theorem run_three {b₁ b₂ b₃ : UInt8} (h₁ : 0xE0 ≤ b₁.toNat ∧ b₁.toNat ≤ 0xEF) (h₂ : IsTail b₂)
    (hoverlong : b₁.toNat = 0xE0 → 0xA0 ≤ b₂.toNat)
    (hsurrogate : b₁.toNat = 0xED → b₂.toNat ≤ 0x9F) (h₃ : IsTail b₃) :
    run .start (b₁ :: b₂ :: b₃ :: bytes) = run .start bytes := by
  have hstep : ((step .start b₁).bind fun state ↦ step state b₂) = some (.tail 0) := by
    rw [step, if_neg (by omega), if_neg (by omega), if_neg (by omega)]
    split_ifs with hE0 hED hEF
    · exact if_pos ⟨hoverlong hE0, h₂.2⟩
    · exact if_pos ⟨h₂.1, hsurrogate hED⟩
    · exact if_pos h₂
    all_goals omega
  rw [run_cons, ← run_tail_zero h₃]
  cases h : step .start b₁ with
  | none => rw [h] at hstep; cases hstep
  | some state =>
    rw [h, Option.bind_some] at hstep
    rw [Option.bind_some, run_cons, hstep, Option.bind_some]

/-- The second byte keeps out overlong forms and numbers above the last scalar value. -/
theorem run_four {b₁ b₂ b₃ b₄ : UInt8} (h₁ : 0xF0 ≤ b₁.toNat ∧ b₁.toNat ≤ 0xF4) (h₂ : IsTail b₂)
    (hoverlong : b₁.toNat = 0xF0 → 0x90 ≤ b₂.toNat) (hlast : b₁.toNat = 0xF4 → b₂.toNat ≤ 0x8F)
    (h₃ : IsTail b₃) (h₄ : IsTail b₄) :
    run .start (b₁ :: b₂ :: b₃ :: b₄ :: bytes) = run .start bytes := by
  have hstep : ((step .start b₁).bind fun state ↦ step state b₂) = some (.tail 1) := by
    rw [step, if_neg (by omega), if_neg (by omega), if_neg (by omega), if_neg (by omega),
      if_neg (by omega), if_neg (by omega)]
    split_ifs with hF0 hF3 hF4
    · exact if_pos ⟨hoverlong hF0, h₂.2⟩
    · exact if_pos h₂
    · exact if_pos ⟨h₂.1, hlast hF4⟩
    · omega
  rw [run_cons, ← run_tail_zero h₄, ← run_tail 0 h₃]
  cases h : step .start b₁ with
  | none => rw [h] at hstep; cases hstep
  | some state =>
    rw [h, Option.bind_some] at hstep
    rw [Option.bind_some, run_cons, hstep, Option.bind_some]

/-- The byte of a number below 256. -/
theorem toNat_ofNat {k : ℕ} (h : k < 256) : (UInt8.ofNat k).toNat = k :=
  UInt8.toNat_ofNat_of_lt' h

theorem isTail_continuation (v : ℕ) : IsTail (UInt8.ofNat (0x80 ||| v &&& 0x3F)) := by
  rw [IsTail, continuation, toNat_ofNat (by omega)]
  omega

/-- **The encoding of a scalar value is accepted.** -/
theorem run_encode (c : Char) (bytes : Bytes) :
    run .start (String.utf8EncodeChar c ++ bytes) = run .start bytes := by
  have hscalar := toNat_scalar c
  by_cases h1 : c.toNat ≤ 0x7F
  · rw [encode1 h1, List.singleton_append, run_cons,
      step_start_ascii (by rwa [toNat_ofNat (by omega)]), Option.bind_some]
  by_cases h2 : c.toNat ≤ 0x7FF
  · rw [encode2 (by omega) h2, bytes2, first2 h2]
    refine run_two ?_ (isTail_continuation _)
    rw [toNat_ofNat (by omega)]
    omega
  by_cases h3 : c.toNat ≤ 0xFFFF
  · rw [encode3 (by omega) h3, bytes3, first3 h3]
    have hfirst : (UInt8.ofNat (0xE0 + c.toNat / 4096)).toNat = 0xE0 + c.toNat / 4096 :=
      toNat_ofNat (by omega)
    have hsecond : (UInt8.ofNat (0x80 ||| c.toNat >>> 6 &&& 0x3F)).toNat =
        c.toNat / 64 % 64 + 0x80 := by
      rw [continuation, Nat.shiftRight_eq_div_pow, toNat_ofNat (by omega)]
    refine run_three ?_ (isTail_continuation _) ?_ ?_ (isTail_continuation _) <;> omega
  · rw [encode4 (by omega), bytes4, first4 (by omega)]
    have hfirst : (UInt8.ofNat (0xF0 + c.toNat / 262144)).toNat = 0xF0 + c.toNat / 262144 :=
      toNat_ofNat (by omega)
    have hsecond : (UInt8.ofNat (0x80 ||| c.toNat >>> 12 &&& 0x3F)).toNat =
        c.toNat / 4096 % 64 + 0x80 := by
      rw [continuation, Nat.shiftRight_eq_div_pow, toNat_ofNat (by omega)]
    refine run_four ?_ (isTail_continuation _) ?_ ?_ (isTail_continuation _)
      (isTail_continuation _) <;> omega

/-- The three bytes of a surrogate are not accepted. -/
theorem run_surrogate {v : ℕ} (h : 0xD800 ≤ v ∧ v ≤ 0xDFFF) (bytes : Bytes) :
    run .start (bytes3 v ++ bytes) = none := by
  have hfirst : (UInt8.ofNat (0xE0 ||| v >>> 12)).toNat = 0xED := by
    rw [first3 (by omega), toNat_ofNat (by omega)]
    omega
  have hsecond : 0xA0 ≤ (UInt8.ofNat (0x80 ||| v >>> 6 &&& 0x3F)).toNat := by
    rw [continuation, Nat.shiftRight_eq_div_pow, toNat_ofNat (by omega)]
    omega
  have hstep : step .start (UInt8.ofNat (0xE0 ||| v >>> 12)) = some .afterED := by
    rw [step, hfirst]
    rfl
  have hnone : step .afterED (UInt8.ofNat (0x80 ||| v >>> 6 &&& 0x3F)) = none :=
    if_neg (by omega)
  rw [bytes3, List.cons_append, List.cons_append, run_cons, hstep, Option.bind_some, run_cons,
    hnone, Option.bind_none]

/-! ### Characters from their bytes -/

/-- A continuation byte holds the low bits of a number. -/
theorem ofNat_continuation {v : ℕ} (h : IsTail b) (hv : v % 64 = b.toNat - 0x80) :
    UInt8.ofNat (0x80 ||| v &&& 0x3F) = b := by
  rw [continuation, ← UInt8.toNat_inj, toNat_ofNat (by omega)]
  omega

/-- Two bytes are a character unless one byte would do. -/
theorem exists_encode_two {b₁ b₂ : UInt8} {v : ℕ} (h₁ : 0xC0 ≤ b₁.toNat ∧ b₁.toNat ≤ 0xDF)
    (h₂ : IsTail b₂) (hv : v = (b₁.toNat - 0xC0) * 64 + (b₂.toNat - 0x80)) (hoverlong : 0x7F < v) :
    ∃ c : Char, c.toNat = v ∧ String.utf8EncodeChar c = [b₁, b₂] := by
  obtain ⟨c, hc⟩ := exists_char (show v < 0xD800 ∨ 0xDFFF < v ∧ v < 0x110000 by omega)
  have hfirst : UInt8.ofNat (0xC0 ||| v >>> 6) = b₁ := by
    rw [first2 (by omega), ← UInt8.toNat_inj, toNat_ofNat (by omega)]
    omega
  refine ⟨c, hc, ?_⟩
  rw [encode2 (by omega) (by omega), hc, bytes2, hfirst, ofNat_continuation h₂ (by omega)]

/-- Three bytes are a character unless two would do or it is a surrogate. -/
theorem exists_encode_three {b₁ b₂ b₃ : UInt8} {v : ℕ} (h₁ : 0xE0 ≤ b₁.toNat ∧ b₁.toNat ≤ 0xEF)
    (h₂ : IsTail b₂) (h₃ : IsTail b₃)
    (hv : v = ((b₁.toNat - 0xE0) * 64 + (b₂.toNat - 0x80)) * 64 + (b₃.toNat - 0x80))
    (hoverlong : 0x7FF < v) (hsurrogate : v < 0xD800 ∨ 0xDFFF < v) :
    ∃ c : Char, c.toNat = v ∧ String.utf8EncodeChar c = [b₁, b₂, b₃] := by
  obtain ⟨c, hc⟩ := exists_char (show v < 0xD800 ∨ 0xDFFF < v ∧ v < 0x110000 by omega)
  have hfirst : UInt8.ofNat (0xE0 ||| v >>> 12) = b₁ := by
    rw [first3 (by omega), ← UInt8.toNat_inj, toNat_ofNat (by omega)]
    omega
  refine ⟨c, hc, ?_⟩
  rw [encode3 (by omega) (by omega), hc, bytes3, hfirst,
    ofNat_continuation h₂ (by rw [Nat.shiftRight_eq_div_pow]; omega),
    ofNat_continuation h₃ (by omega)]

/-- Four bytes are a character unless three would do or the number is too large. -/
theorem exists_encode_four {b₁ b₂ b₃ b₄ : UInt8} {v : ℕ}
    (h₁ : 0xF0 ≤ b₁.toNat ∧ b₁.toNat ≤ 0xF7) (h₂ : IsTail b₂) (h₃ : IsTail b₃) (h₄ : IsTail b₄)
    (hv : v = (((b₁.toNat - 0xF0) * 64 + (b₂.toNat - 0x80)) * 64 + (b₃.toNat - 0x80)) * 64 +
      (b₄.toNat - 0x80))
    (hoverlong : 0xFFFF < v) (hlast : v ≤ 0x10FFFF) :
    ∃ c : Char, c.toNat = v ∧ String.utf8EncodeChar c = [b₁, b₂, b₃, b₄] := by
  obtain ⟨c, hc⟩ := exists_char (show v < 0xD800 ∨ 0xDFFF < v ∧ v < 0x110000 by omega)
  have hfirst : UInt8.ofNat (0xF0 ||| v >>> 18) = b₁ := by
    rw [first4 (by omega), ← UInt8.toNat_inj, toNat_ofNat (by omega)]
    omega
  refine ⟨c, hc, ?_⟩
  rw [encode4 (by omega), hc, bytes4, hfirst,
    ofNat_continuation h₂ (by rw [Nat.shiftRight_eq_div_pow]; omega),
    ofNat_continuation h₃ (by rw [Nat.shiftRight_eq_div_pow]; omega),
    ofNat_continuation h₄ (by omega)]

/-! ### What is accepted -/

/-- What is accepted in the middle of a character begins with a byte that may stand there. -/
theorem exists_of_run (hstate : state ≠ .start) (h : run state bytes = some .start) :
    ∃ b rest state', bytes = b :: rest ∧ step state b = some state' ∧
      run state' rest = some .start := by
  cases bytes with
  | nil => exact absurd (Option.some.inj h) hstate
  | cons b rest =>
    rw [run_cons, Option.bind_eq_some_iff] at h
    obtain ⟨state', hstep, hrest⟩ := h
    exact ⟨b, rest, state', rfl, hstep, hrest⟩

/-- The last byte of a character. -/
theorem exists_of_run_tail_zero (h : run (.tail 0) bytes = some .start) :
    ∃ b rest, bytes = b :: rest ∧ IsTail b ∧ run .start rest = some .start := by
  obtain ⟨b, rest, state', rfl, hstep, hrest⟩ := exists_of_run (by decide) h
  rw [step] at hstep
  split_ifs at hstep with hb
  cases hstep
  exact ⟨b, rest, rfl, hb, hrest⟩

theorem exists_of_run_tail_one (h : run (.tail 1) bytes = some .start) :
    ∃ b b' rest, bytes = b :: b' :: rest ∧ IsTail b ∧ IsTail b' ∧
      run .start rest = some .start := by
  obtain ⟨b, rest, state', rfl, hstep, hrest⟩ := exists_of_run (by decide) h
  rw [step] at hstep
  split_ifs at hstep with hb
  cases hstep
  obtain ⟨b', rest, rfl, hb', hrest⟩ := exists_of_run_tail_zero hrest
  exact ⟨b, b', rest, rfl, hb, hb', hrest⟩

/-- Behind the first byte of three. -/
theorem exists_of_run_three (hstate : state = .afterE0 ∨ state = .afterED ∨ state = .tail 1)
    (h : run state bytes = some .start) :
    ∃ b₂ b₃ rest, bytes = b₂ :: b₃ :: rest ∧ IsTail b₂ ∧ (state = .afterE0 → 0xA0 ≤ b₂.toNat) ∧
      (state = .afterED → b₂.toNat ≤ 0x9F) ∧ IsTail b₃ ∧ run .start rest = some .start := by
  have hne : state ≠ .start := by rcases hstate with rfl | rfl | rfl <;> decide
  obtain ⟨b₂, bytes, state', rfl, hstep, hrun⟩ := exists_of_run hne h
  have hsecond : state' = .tail 0 ∧ IsTail b₂ ∧ (state = .afterE0 → 0xA0 ≤ b₂.toNat) ∧
      (state = .afterED → b₂.toNat ≤ 0x9F) := by
    rcases hstate with rfl | rfl | rfl <;>
      · rw [step] at hstep
        split_ifs at hstep with hrange
        exact ⟨(Option.some.inj hstep).symm, by omega, fun h ↦ by cases h <;> exact hrange.1,
          fun h ↦ by cases h <;> exact hrange.2⟩
  obtain ⟨rfl, htail, hoverlong, hsurrogate⟩ := hsecond
  obtain ⟨b₃, rest, rfl, h₃, hrest⟩ := exists_of_run_tail_zero hrun
  exact ⟨b₂, b₃, rest, rfl, htail, hoverlong, hsurrogate, h₃, hrest⟩

/-- Behind the first byte of four. -/
theorem exists_of_run_four (hstate : state = .afterF0 ∨ state = .afterF4 ∨ state = .tail 2)
    (h : run state bytes = some .start) :
    ∃ b₂ b₃ b₄ rest, bytes = b₂ :: b₃ :: b₄ :: rest ∧ IsTail b₂ ∧
      (state = .afterF0 → 0x90 ≤ b₂.toNat) ∧ (state = .afterF4 → b₂.toNat ≤ 0x8F) ∧ IsTail b₃ ∧
      IsTail b₄ ∧ run .start rest = some .start := by
  have hne : state ≠ .start := by rcases hstate with rfl | rfl | rfl <;> decide
  obtain ⟨b₂, bytes, state', rfl, hstep, hrun⟩ := exists_of_run hne h
  have hsecond : state' = .tail 1 ∧ IsTail b₂ ∧ (state = .afterF0 → 0x90 ≤ b₂.toNat) ∧
      (state = .afterF4 → b₂.toNat ≤ 0x8F) := by
    rcases hstate with rfl | rfl | rfl <;>
      · rw [step] at hstep
        split_ifs at hstep with hrange
        exact ⟨(Option.some.inj hstep).symm, by omega, fun h ↦ by cases h <;> exact hrange.1,
          fun h ↦ by cases h <;> exact hrange.2⟩
  obtain ⟨rfl, htail, hoverlong, hlast⟩ := hsecond
  obtain ⟨b₃, b₄, rest, rfl, h₃, h₄, hrest⟩ := exists_of_run_tail_one hrun
  exact ⟨b₂, b₃, b₄, rest, rfl, htail, hoverlong, hlast, h₃, h₄, hrest⟩

/-- Three bytes that are accepted are a character: the state behind the first one keeps out the
others. -/
theorem exists_encode_of_run_three (hb : 0xE0 ≤ b.toNat ∧ b.toNat ≤ 0xEF)
    (hstate : state = .afterE0 ∨ state = .afterED ∨ state = .tail 1)
    (hE0 : b.toNat = 0xE0 → state = .afterE0) (hED : b.toNat = 0xED → state = .afterED)
    (h : run state bytes = some .start) :
    ∃ c rest, b :: bytes = String.utf8EncodeChar c ++ rest ∧ run .start rest = some .start := by
  obtain ⟨b₂, b₃, rest, rfl, h₂, hoverlong, hsurrogate, h₃, hrest⟩ := exists_of_run_three hstate h
  have hlow : b.toNat = 0xE0 → 0xA0 ≤ b₂.toNat := fun hb ↦ hoverlong (hE0 hb)
  have hhigh : b.toNat = 0xED → b₂.toNat ≤ 0x9F := fun hb ↦ hsurrogate (hED hb)
  obtain ⟨c, -, hc⟩ := exists_encode_three hb h₂ h₃ rfl (by omega) (by omega)
  exact ⟨c, rest, by rw [hc]; rfl, hrest⟩

/-- Four bytes that are accepted are a character. -/
theorem exists_encode_of_run_four (hb : 0xF0 ≤ b.toNat ∧ b.toNat ≤ 0xF4)
    (hstate : state = .afterF0 ∨ state = .afterF4 ∨ state = .tail 2)
    (hF0 : b.toNat = 0xF0 → state = .afterF0) (hF4 : b.toNat = 0xF4 → state = .afterF4)
    (h : run state bytes = some .start) :
    ∃ c rest, b :: bytes = String.utf8EncodeChar c ++ rest ∧ run .start rest = some .start := by
  obtain ⟨b₂, b₃, b₄, rest, rfl, h₂, hoverlong, hlast, h₃, h₄, hrest⟩ := exists_of_run_four hstate h
  have hlow : b.toNat = 0xF0 → 0x90 ≤ b₂.toNat := fun hb ↦ hoverlong (hF0 hb)
  have hhigh : b.toNat = 0xF4 → b₂.toNat ≤ 0x8F := fun hb ↦ hlast (hF4 hb)
  obtain ⟨c, -, hc⟩ :=
    exists_encode_four ⟨hb.1, by omega⟩ h₂ h₃ h₄ rfl (by omega) (by omega)
  exact ⟨c, rest, by rw [hc]; rfl, hrest⟩

/-- What is accepted begins with a character. -/
theorem exists_encode_of_run (h : run .start bytes = some .start) (hbytes : bytes ≠ []) :
    ∃ c rest, bytes = String.utf8EncodeChar c ++ rest ∧ run .start rest = some .start := by
  obtain ⟨b, bytes, rfl⟩ := List.exists_cons_of_ne_nil hbytes
  rw [run_cons, Option.bind_eq_some_iff] at h
  obtain ⟨state, hstep, hrun⟩ := h
  rw [step] at hstep
  split_ifs at hstep with h7F hC2 hDF hE0 hED hEF hF0 hF3 hF4 <;>
    obtain rfl := Option.some.inj hstep
  · -- one byte
    obtain ⟨c, hc⟩ := @exists_char b.toNat (by omega)
    refine ⟨c, bytes, ?_, hrun⟩
    rw [encode1 (by omega), hc, UInt8.ofNat_toNat, List.singleton_append]
  · -- two bytes
    obtain ⟨b₂, rest, rfl, h₂, hrest⟩ := exists_of_run_tail_zero hrun
    obtain ⟨c, -, hc⟩ := exists_encode_two ⟨by omega, hDF⟩ h₂ rfl (by omega)
    exact ⟨c, rest, by rw [hc]; rfl, hrest⟩
  -- three bytes, behind each of the first bytes that the table tells apart
  · exact exists_encode_of_run_three (by omega) (by decide) (fun _ ↦ rfl) (by omega) hrun
  · exact exists_encode_of_run_three (by omega) (by decide) (by omega) (fun _ ↦ rfl) hrun
  · exact exists_encode_of_run_three (by omega) (by decide) (by omega) (by omega) hrun
  -- four bytes
  · exact exists_encode_of_run_four (by omega) (by decide) (fun _ ↦ rfl) (by omega) hrun
  · exact exists_encode_of_run_four (by omega) (by decide) (by omega) (by omega) hrun
  · exact exists_encode_of_run_four (by omega) (by decide) (by omega) (fun _ ↦ rfl) hrun

/-- **The automaton accepts exactly the well-formed byte strings.** -/
theorem run_start_iff : run .start bytes = some .start ↔ WellFormed bytes := by
  constructor
  · intro h
    induction hlength : bytes.length using Nat.strongRecOn generalizing bytes with
    | ind n ih =>
      by_cases hbytes : bytes = []
      · exact ⟨[], hbytes⟩
      · obtain ⟨c, rest, rfl, hrest⟩ := exists_encode_of_run h hbytes
        have hpos : 0 < (String.utf8EncodeChar c).length := by
          rw [String.length_utf8EncodeChar]
          exact c.utf8Size_pos
        obtain ⟨text, rfl⟩ := ih _ (by rw [← hlength, List.length_append]; omega) hrest rfl
        exact ⟨c :: text, rfl⟩
  · rintro ⟨text, rfl⟩
    induction text with
    | nil => rfl
    | cons c text ih => rw [List.flatMap_cons, run_encode, ih]

instance : Decidable (WellFormed bytes) := decidable_of_iff _ run_start_iff

end Touchless.Utf8
