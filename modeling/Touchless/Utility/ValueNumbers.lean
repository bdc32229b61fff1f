import Touchless.Foundations.JsonGrammar
import Touchless.Utility.Value

/-!
# Numbers, as the reader takes them

`parseNumber` reads the parts of a number one after the other. What it has read has the parts of a
number of JSON (`parseNumber_parts`), and the parts of such a number are read, if what follows
cannot belong to it (`Follows`, `parseNumber_append`). The value is that of the digits, or of the
whole text where there is a fraction or an exponent (`valueOfParts`).
-/

namespace Touchless.Value

variable {α β : Type} {floats : FloatText} {stream rest : Bytes}

/-! ### Results -/

theorem ok_bind (a : α) (f : α → Except Fault β) :
    ((Except.ok a : Except Fault α) >>= f) = f a := rfl

theorem exists_of_bind_eq_ok {r : Except Fault α} {f : α → Except Fault β} {b : β}
    (h : (r >>= f) = .ok b) : ∃ a, r = .ok a ∧ f a = .ok b := by
  cases r with
  | ok a => exact ⟨a, rfl, h⟩
  | error e => cases h

theorem getChar_eq_ok {c : UInt8} (h : getChar stream = .ok (c, rest)) : stream = c :: rest := by
  cases stream with
  | nil => cases h
  | cons d stream =>
    cases h
    rfl

theorem peekChar_eq_ok {c : UInt8} (h : peekChar stream = .ok c) : ∃ tail, stream = c :: tail := by
  cases stream with
  | nil => cases h
  | cons d stream =>
    cases h
    exact ⟨stream, rfl⟩

/-! ### What has been read -/

theorem getDigit_eq_ok {c : UInt8} (h : getDigit stream = .ok (c, rest)) :
    stream = c :: rest ∧ isDigit c = true := by
  obtain ⟨d, hd, hdigit⟩ := exists_of_bind_eq_ok h
  obtain ⟨tail, rfl⟩ := peekChar_eq_ok hd
  split_ifs at hdigit with hdigit'
  cases hdigit
  exact ⟨rfl, hdigit'⟩

theorem whileDigit_spec (stream : Bytes) :
    stream = (whileDigit stream).1 ++ (whileDigit stream).2 ∧
      ∀ c ∈ (whileDigit stream).1, isDigit c = true := by
  induction stream with
  | nil => exact ⟨rfl, by simp [whileDigit]⟩
  | cons c stream ih =>
    rw [whileDigit]
    split_ifs with hc
    · exact ⟨by rw [List.cons_append, ← ih.1], List.forall_mem_cons.2 ⟨hc, ih.2⟩⟩
    · exact ⟨rfl, by simp⟩

/-- A digit and the digits behind it. -/
theorem digits_whileDigit {c : UInt8} (hc : isDigit c = true) (stream : Bytes) :
    Json.Digits (c :: (whileDigit stream).1) ∧
      c :: stream = c :: (whileDigit stream).1 ++ (whileDigit stream).2 :=
  ⟨⟨List.cons_ne_nil _ _, List.forall_mem_cons.2 ⟨hc, (whileDigit_spec stream).2⟩⟩, by
    rw [List.cons_append, ← (whileDigit_spec stream).1]⟩

theorem parseFraction_eq_ok {text : Bytes} (h : parseFraction stream = .ok (text, rest)) :
    stream = text ++ rest ∧ Json.IsFraction text := by
  rw [parseFraction] at h
  split_ifs at h with hpoint
  · obtain ⟨⟨c, stream₁⟩, hc, h₁⟩ := exists_of_bind_eq_ok h
    obtain ⟨⟨digit, stream₂⟩, hdigit, hreturn⟩ := exists_of_bind_eq_ok h₁
    obtain ⟨hstream₁, hisDigit⟩ := getDigit_eq_ok hdigit
    obtain ⟨hdigits, htext⟩ := digits_whileDigit hisDigit stream₂
    rw [getChar_eq_ok hc] at hpoint ⊢
    cases hreturn
    obtain rfl : c = 0x2E := hpoint
    exact ⟨by rw [hstream₁, htext]; rfl, .digits hdigits⟩
  · cases h
    exact ⟨rfl, .none⟩

theorem parseExponent_eq_ok {text : Bytes} (h : parseExponent stream = .ok (text, rest)) :
    stream = text ++ rest ∧ Json.IsExponent text := by
  rw [parseExponent] at h
  split_ifs at h with hletter
  · obtain ⟨⟨e, stream₁⟩, he, h₁⟩ := exists_of_bind_eq_ok h
    obtain ⟨c, hc, h₂⟩ := exists_of_bind_eq_ok h₁
    obtain ⟨⟨digit, stream₂⟩, hdigit, hreturn⟩ := exists_of_bind_eq_ok h₂
    obtain ⟨hstream₁, hisDigit⟩ := getDigit_eq_ok hdigit
    obtain ⟨hdigits, htext⟩ := digits_whileDigit hisDigit stream₂
    obtain ⟨tail, htail⟩ := peekChar_eq_ok hc
    rw [getChar_eq_ok he] at hletter ⊢
    cases hreturn
    have hsign : stream₁ = (if c = 0x2B ∨ c = 0x2D then [c] else []) ++ digit :: stream₂ := by
      rw [← hstream₁, htail]
      split_ifs <;> rfl
    refine ⟨?_, .digits (hletter.symm) ?_ hdigits⟩
    · rw [hsign, htext]
      simp only [List.cons_append, List.append_assoc]
    · split_ifs with hc'
      · rcases hc' with rfl | rfl
        · exact .inr (.inl rfl)
        · exact .inr (.inr rfl)
      · exact .inl rfl
  · cases h
    exact ⟨rfl, .none⟩

/-- What `parseNumber` makes of the parts of a number. -/
def valueOfParts (floats : FloatText) (sign int fraction exponent : Bytes) : Value :=
  if fraction ≠ [] ∨ exponent ≠ [] then
    double (floats.readDouble (sign ++ int ++ fraction ++ exponent))
  else readInteger (sign = []) (ofDecimal int)

/-- **What is read as a number has the parts of a number of JSON.** -/
theorem parseNumber_parts {value : Value} (h : parseNumber floats stream = .ok (value, rest)) :
    ∃ sign int fraction exponent : Bytes, stream = sign ++ int ++ fraction ++ exponent ++ rest ∧
      ((sign = [] ∨ sign = [0x2D]) ∧ Json.IsInt int ∧ Json.IsFraction fraction ∧
        Json.IsExponent exponent) ∧ value = valueOfParts floats sign int fraction exponent := by
  obtain ⟨c, hc, h₁⟩ := exists_of_bind_eq_ok h
  obtain ⟨⟨d, stream₁⟩, hd, h₂⟩ := exists_of_bind_eq_ok h₁
  obtain ⟨⟨fraction, stream₂⟩, hfraction, h₃⟩ := exists_of_bind_eq_ok h₂
  obtain ⟨⟨exponent, stream₃⟩, hexponent, hreturn⟩ := exists_of_bind_eq_ok h₃
  obtain ⟨tail, rfl⟩ := peekChar_eq_ok hc
  obtain ⟨hdigit, hisDigit⟩ := getDigit_eq_ok hd
  obtain ⟨hstream₂, hisFraction⟩ := parseFraction_eq_ok hfraction
  obtain ⟨hstream₃, hisExponent⟩ := parseExponent_eq_ok hexponent
  -- a leading zero stands alone
  obtain ⟨int, hint, hisInt, hdigits⟩ : ∃ int, d :: stream₁ = int ++ (fraction ++ stream₂) ∧
      Json.IsInt int ∧ (if d ≠ 0x30 then d :: (whileDigit stream₁).1 else [d]) = int := by
    by_cases hzero : d = 0x30
    · rw [if_neg (not_not.2 hzero)] at hstream₂
      exact ⟨[d], by rw [hstream₂]; rfl,
        ⟨⟨by simp, by simpa using hisDigit⟩, fun _ ↦ by rw [hzero]⟩, if_neg (not_not.2 hzero)⟩
    · obtain ⟨hdigits, htext⟩ := digits_whileDigit hisDigit stream₁
      rw [if_pos hzero] at hstream₂
      exact ⟨_, by rw [htext, ← hstream₂],
        ⟨hdigits, fun h ↦ absurd (Option.some.inj h) hzero⟩, if_pos hzero⟩
  obtain ⟨sign, hsign, hisSign, hminus, hpositive⟩ : ∃ sign, c :: tail = sign ++ d :: stream₁ ∧
      (sign = [] ∨ sign = [0x2D]) ∧ (if c = 0x2D then [c] else []) = sign ∧
      (decide (c ≠ 0x2D) = decide (sign = [])) := by
    by_cases hminus : c = 0x2D
    · rw [if_pos hminus] at hdigit
      exact ⟨[0x2D], by rw [hminus, ← hdigit]; rfl, .inr rfl, by rw [if_pos hminus, hminus],
        by simp [hminus]⟩
    · rw [if_neg hminus] at hdigit
      exact ⟨[], hdigit, .inl rfl, if_neg hminus, by simp [hminus]⟩
  dsimp only at hreturn
  rw [hminus, hdigits, hpositive] at hreturn
  obtain ⟨rfl, rfl⟩ : valueOfParts floats sign int fraction exponent = value ∧ stream₃ = rest := by
    rw [valueOfParts]
    split_ifs at hreturn ⊢ <;> · cases hreturn; exact ⟨rfl, rfl⟩
  refine ⟨sign, int, fraction, exponent, ?_, ⟨hisSign, hisInt, hisFraction, hisExponent⟩, rfl⟩
  rw [hsign, hint, hstream₃]
  simp only [List.append_assoc]

/-- **What is read as a number is a number of JSON.** -/
theorem parseNumber_eq_ok {value : Value} (h : parseNumber floats stream = .ok (value, rest)) :
    ∃ text, stream = text ++ rest ∧ Json.IsNumber text := by
  obtain ⟨sign, int, fraction, exponent, hstream, ⟨hsign, hint, hfraction, hexponent⟩, -⟩ :=
    parseNumber_parts h
  exact ⟨sign ++ int ++ fraction ++ exponent, hstream, .number hsign hint hfraction hexponent⟩

/-! ### What may follow -/

/-- A text that may follow a number. -/
def Follows (rest : Bytes) : Prop :=
  ∀ c ∈ rest.head?, isDigit c = false ∧ c ≠ 0x2E ∧ c ≠ 0x45 ∧ c ≠ 0x65

theorem follows_nil : Follows [] := by simp [Follows]

theorem follows_cons {c : UInt8} {rest : Bytes}
    (h : isDigit c = false ∧ c ≠ 0x2E ∧ c ≠ 0x45 ∧ c ≠ 0x65) : Follows (c :: rest) := by
  simpa [Follows] using h

/-! ### What is read -/

theorem whileDigit_append {digits rest : Bytes} (hdigits : ∀ c ∈ digits, isDigit c = true)
    (hrest : ∀ c ∈ rest.head?, isDigit c = false) :
    whileDigit (digits ++ rest) = (digits, rest) := by
  induction digits with
  | nil =>
    cases rest with
    | nil => rfl
    | cons c rest =>
      have hc : isDigit c = false := hrest c (by simp)
      simp [whileDigit, hc]
  | cons c digits ih =>
    have hc := hdigits c List.mem_cons_self
    have htail := ih fun d hd ↦ hdigits d (List.mem_cons_of_mem c hd)
    rw [List.cons_append, whileDigit, if_pos hc, htail]

theorem getDigit_cons {c : UInt8} (h : isDigit c = true) (stream : Bytes) :
    getDigit (c :: stream) = .ok (c, stream) := by
  rw [getDigit, peekChar, ok_bind, if_pos h, getChar]

theorem parseFraction_append {fraction : Bytes} (h : Json.IsFraction fraction)
    (hrest : ∀ c ∈ rest.head?, isDigit c = false ∧ c ≠ 0x2E) :
    parseFraction (fraction ++ rest) = .ok (fraction, rest) := by
  cases h with
  | none =>
    have hhead : peekCharOptional rest ≠ 0x2E := by
      cases rest with
      | nil => exact (by decide : (0 : UInt8) ≠ 0x2E)
      | cons c rest => exact (hrest c rfl).2
    rw [List.nil_append, parseFraction, if_neg hhead]
  | @digits digits h =>
    obtain ⟨d, digits, rfl⟩ := List.exists_cons_of_ne_nil h.1
    obtain ⟨hd, hdigits⟩ := List.forall_mem_cons.1 h.2
    have hwhile := whileDigit_append hdigits fun c hc ↦ (hrest c hc).1
    have hhead : peekCharOptional (0x2E :: (d :: (digits ++ rest))) = 0x2E := rfl
    rw [List.cons_append, List.cons_append, parseFraction, if_pos hhead, getChar, ok_bind]
    dsimp only
    rw [getDigit_cons hd, ok_bind, hwhile]
    rfl

theorem parseExponent_follows {rest : Bytes} (h : Follows rest) :
    parseExponent rest = .ok ([], rest) := by
  have hhead : ¬(peekCharOptional rest = 0x45 ∨ peekCharOptional rest = 0x65) := by
    cases rest with
    | nil => exact (by decide : ¬((0 : UInt8) = 0x45 ∨ (0 : UInt8) = 0x65))
    | cons c rest => exact not_or.2 (h c (by simp)).2.2
  rw [parseExponent, if_neg hhead]

theorem parseExponent_append {exponent : Bytes} (h : Json.IsExponent exponent)
    (hrest : Follows rest) : parseExponent (exponent ++ rest) = .ok (exponent, rest) := by
  cases h with
  | none => exact parseExponent_follows hrest
  | @digits e sign digits he hsign h =>
    obtain ⟨d, digits, rfl⟩ := List.exists_cons_of_ne_nil h.1
    obtain ⟨hd, hdigits⟩ := List.forall_mem_cons.1 h.2
    have hwhile := whileDigit_append hdigits fun c hc ↦ (hrest c hc).1
    have hnoSign : ¬(d = 0x2B ∨ d = 0x2D) := by
      rintro (rfl | rfl) <;> exact absurd hd (by decide)
    have hhead : ∀ stream, peekCharOptional (e :: stream) = 0x45 ∨
        peekCharOptional (e :: stream) = 0x65 := fun _ ↦ he.symm
    rw [List.cons_append, parseExponent, if_pos (hhead _), getChar, ok_bind]
    dsimp only
    rcases hsign with rfl | rfl | rfl
    · rw [List.nil_append, List.cons_append, peekChar, ok_bind, if_neg hnoSign, if_neg hnoSign,
        getDigit_cons hd, ok_bind, hwhile]
      rfl
    all_goals
      rw [List.singleton_append, List.cons_append, List.cons_append, peekChar, ok_bind,
        if_pos (by decide), if_pos (by decide), List.tail_cons, getDigit_cons hd, ok_bind, hwhile]
      rfl

theorem isDigit_ne_minus {c : UInt8} (h : isDigit c = true) : c ≠ 0x2D := by
  rintro rfl
  exact absurd h (by decide)

/-- **The parts of a number are read** if what follows does not prolong them. -/
theorem parseNumber_append {sign int fraction exponent : Bytes} (hsign : sign = [] ∨ sign = [0x2D])
    (hint : Json.IsInt int) (hfraction : Json.IsFraction fraction)
    (hexponent : Json.IsExponent exponent) (hrest : Follows rest) :
    parseNumber floats (sign ++ int ++ fraction ++ exponent ++ rest) =
      .ok (valueOfParts floats sign int fraction exponent, rest) := by
  obtain ⟨d, digits, rfl⟩ := List.exists_cons_of_ne_nil hint.1.1
  obtain ⟨hd, hdigits⟩ := List.forall_mem_cons.1 hint.1.2
  have hexponentHead : ∀ c ∈ (exponent ++ rest).head?, isDigit c = false ∧ c ≠ 0x2E := by
    cases hexponent with
    | none => exact fun c hc ↦ ⟨(hrest c hc).1, (hrest c hc).2.1⟩
    | digits he _ _ => rcases he with rfl | rfl <;> simp [isDigit]
  have hfractionHead : ∀ c ∈ (fraction ++ (exponent ++ rest)).head?, isDigit c = false := by
    cases hfraction with
    | none => exact fun c hc ↦ (hexponentHead c hc).1
    | digits _ => simp [isDigit]
  -- a leading zero is not asked for more digits
  have hread : (if d ≠ 0x30 then d :: (whileDigit (digits ++ (fraction ++ (exponent ++ rest)))).1
        else [d]) = d :: digits ∧
      (if d ≠ 0x30 then (whileDigit (digits ++ (fraction ++ (exponent ++ rest)))).2
        else digits ++ (fraction ++ (exponent ++ rest))) = fraction ++ (exponent ++ rest) := by
    rw [whileDigit_append hdigits hfractionHead]
    by_cases hzero : d = 0x30
    · obtain rfl : digits = [] := (List.cons.inj (hint.2 (by rw [hzero]; rfl))).2
      simp [hzero]
    · simp [hzero]
  obtain ⟨c, tail, hstream, hminus, hunsigned, hpositive⟩ : ∃ c tail,
      sign ++ d :: digits ++ fraction ++ exponent ++ rest = c :: tail ∧
      (if c = 0x2D then [c] else []) = sign ∧
      (if c = 0x2D then tail else c :: tail) =
        d :: (digits ++ (fraction ++ (exponent ++ rest))) ∧
      decide (c ≠ 0x2D) = decide (sign = []) := by
    rcases hsign with rfl | rfl
    · have hd' := isDigit_ne_minus hd
      exact ⟨d, _, by simp; rfl, if_neg hd', by simp [hd'], by simp [hd']⟩
    · exact ⟨0x2D, _, by simp; rfl, rfl, by simp, by simp⟩
  rw [hstream, parseNumber, peekChar, ok_bind]
  dsimp only
  rw [List.tail_cons, hminus, hunsigned, getDigit_cons hd, ok_bind]
  dsimp only
  rw [hread.1, hread.2, parseFraction_append hfraction hexponentHead, ok_bind]
  dsimp only
  rw [parseExponent_append hexponent hrest, ok_bind]
  dsimp only
  rw [hpositive, valueOfParts]
  split_ifs <;> rfl

theorem isNumber_head {text : Bytes} (h : Json.IsNumber text) :
    ∃ c tail, text = c :: tail ∧ (c = 0x2D ∨ isDigit c = true) := by
  cases h with
  | @number sign int fraction exponent hsign hint hfraction hexponent =>
    rcases hsign with rfl | rfl
    · obtain ⟨c, tail, rfl⟩ := List.exists_cons_of_ne_nil hint.1.1
      exact ⟨c, tail ++ fraction ++ exponent, rfl, .inr (hint.1.2 c List.mem_cons_self)⟩
    · exact ⟨0x2D, int ++ fraction ++ exponent, rfl, .inl rfl⟩

end Touchless.Value
