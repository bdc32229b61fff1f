import Mathlib.Tactic.IntervalCases
import Touchless.Foundations.Json
import Touchless.Foundations.Utf8Automaton

/-!
# The texts of JSON

The grammar of RFC 8259 as a property of byte strings (`IsText`), with numbers of any size and form.
A necessary condition for a byte string to be a text is read off by an automaton, `scan`: strings
are well-formed UTF-8 without control characters, and outside strings there are only the characters
that the tokens are made of, with `n` only before `u` (`scan_isText`). It is enough to see that an
infinite number or a control character spoils a text, however deep it stands in it.
-/

namespace Touchless.Json

/-! ### Numbers -/

/-- At least one digit. -/
def Digits (text : Bytes) : Prop := text ≠ [] ∧ ∀ c ∈ text, isDigit c = true

/-- The digits before the point: there is no leading zero. -/
def IsInt (text : Bytes) : Prop := Digits text ∧ (text.head? = some 0x30 → text = [0x30])

/-- A fraction, or none. -/
inductive IsFraction : Bytes → Prop where
  | none : IsFraction []
  | digits {text : Bytes} (h : Digits text) : IsFraction (0x2E :: text)

/-- An exponent, or none. -/
inductive IsExponent : Bytes → Prop where
  | none : IsExponent []
  | digits {e : UInt8} {sign text : Bytes} (he : e = 0x65 ∨ e = 0x45)
      (hsign : sign = [] ∨ sign = [0x2B] ∨ sign = [0x2D]) (h : Digits text) :
      IsExponent (e :: (sign ++ text))

/-- A number. -/
inductive IsNumber : Bytes → Prop where
  | number {sign int fraction exponent : Bytes} (hsign : sign = [] ∨ sign = [0x2D])
      (hint : IsInt int) (hfraction : IsFraction fraction) (hexponent : IsExponent exponent) :
      IsNumber (sign ++ int ++ fraction ++ exponent)

/-! ### Strings -/

/-- A character of a string: itself, a short escape, or the escape of a code unit, which need not
belong to a character. -/
inductive IsChar : Bytes → Prop where
  | raw {c : Char} (hcontrol : 0x20 ≤ c.toNat) (hquote : c ≠ '"') (hbackslash : c ≠ '\\') :
      IsChar (String.utf8EncodeChar c)
  | short {c : Char} {e : UInt8} (h : (c, e) ∈ shortEscapes) : IsChar [0x5C, e]
  | unit {u : ℕ} {text : Bytes} (h : UnicodeEscape u text) : IsChar text

/-- The characters of a string. -/
inductive IsChars : Bytes → Prop where
  | nil : IsChars []
  | cons {text texts : Bytes} (h : IsChar text) (hs : IsChars texts) : IsChars (text ++ texts)

/-- A string with its quotes. -/
inductive IsString : Bytes → Prop where
  | quoted {text : Bytes} (h : IsChars text) : IsString (0x22 :: (text ++ [0x22]))

/-! ### Values -/

mutual

/-- A value, without the white space around it. -/
inductive IsValue : Bytes → Prop where
  | null : IsValue (ascii "null")
  | true : IsValue (ascii "true")
  | false : IsValue (ascii "false")
  | number {text : Bytes} (h : IsNumber text) : IsValue text
  | string {text : Bytes} (h : IsString text) : IsValue text
  | array {text : Bytes} (h : IsElements true text) : IsValue (0x5B :: (text ++ [0x5D]))
  | object {text : Bytes} (h : IsMembers true text) : IsValue (0x7B :: (text ++ [0x7D]))

/-- The elements that are left, up to the bracket. -/
inductive IsElements : Bool → Bytes → Prop where
  | nil {first : Bool} {text : Bytes} (h : Whitespace text) : IsElements first text
  | cons {first : Bool} {separator text texts : Bytes} (hseparator : Separates first separator)
      (h : IsValue text) (hs : IsElements false texts) :
      IsElements first (separator ++ (text ++ texts))

/-- The members that are left, up to the brace. -/
inductive IsMembers : Bool → Bytes → Prop where
  | nil {first : Bool} {text : Bytes} (h : Whitespace text) : IsMembers first text
  | cons {first : Bool} {separator name before after text texts : Bytes}
      (hseparator : Separates first separator) (hkey : IsString name)
      (hbefore : Whitespace before) (hafter : Whitespace after) (h : IsValue text)
      (hs : IsMembers false texts) :
      IsMembers first (separator ++ (name ++ (before ++ 0x3A :: (after ++ (text ++ texts)))))

end

/-- A text: a value with white space around it. -/
inductive IsText : Bytes → Prop where
  | text {before text after : Bytes} (hbefore : Whitespace before) (h : IsValue text)
      (hafter : Whitespace after) : IsText (before ++ (text ++ after))

/-! ### Decimal notation -/

theorem isInt_decimal (n : ℕ) : IsInt (decimal n) := by
  refine ⟨⟨decimal_ne_nil n, fun _ h ↦ isDigit_of_mem_decimal h⟩, fun hhead ↦ ?_⟩
  have hzero : n = 0 := by
    by_contra hn
    have hne := head_decimal_ne_zero (Nat.pos_of_ne_zero hn)
    rw [List.head?_eq_some_head (decimal_ne_nil n)] at hhead
    exact hne (Option.some.inj hhead)
  rw [hzero, decimal_zero]

/-- An integer in decimal notation is a number. -/
theorem isNumber_decimalInt (n : ℤ) : IsNumber (decimalInt n) := by
  have hnumber : ∀ {sign : Bytes}, sign = [] ∨ sign = [0x2D] →
      IsNumber (sign ++ decimal n.natAbs) := by
    intro sign hsign
    simpa using IsNumber.number hsign (isInt_decimal n.natAbs) .none .none
  rw [decimalInt]
  split_ifs
  · exact hnumber (.inr rfl)
  · exact hnumber (.inl rfl)

/-! ### The automaton -/

/-- Where the automaton stands: outside strings, outside strings behind an `n`, in a string, or in a
string behind a backslash. -/
inductive Mode where
  | plain
  | afterN
  | string (state : Utf8.State)
  | escape
  deriving DecidableEq

/-- The characters of the tokens other than strings, and white space; without `n`. -/
def plainBytes : Bytes := ascii " \t\n\r[]\x7b\x7d,:+-.0123456789Eaeflrstu"

/-- One byte. -/
def scanStep : Mode → UInt8 → Option Mode
  | .plain, b =>
    if b = 0x22 then some (.string .start)
    else if b = 0x6E then some .afterN
    else if b ∈ plainBytes then some .plain
    else none
  | .afterN, b => if b = 0x75 then some .plain else none
  | .string state, b =>
    if b = 0x22 then if state = .start then some .plain else none
    else if b = 0x5C then if state = .start then some .escape else none
    else if b.toNat < 0x20 then none
    else (Utf8.step state b).map .string
  | .escape, b => if 0x20 ≤ b.toNat ∧ b.toNat ≤ 0x7F then some (.string .start) else none

/-- The bytes one after the other. -/
def scan (mode : Mode) (text : Bytes) : Option Mode := text.foldlM scanStep mode

variable {text text' : Bytes} {mode mode' : Mode}

theorem scan_cons (mode : Mode) (b : UInt8) (text : Bytes) :
    scan mode (b :: text) = (scanStep mode b).bind fun mode ↦ scan mode text := rfl

theorem scan_append (mode : Mode) (text text' : Bytes) :
    scan mode (text ++ text') = (scan mode text).bind fun mode ↦ scan mode text' :=
  List.foldlM_append

theorem scan_append_of (h : scan mode text = some mode') :
    scan mode (text ++ text') = scan mode' text' := by
  rw [scan_append, h, Option.bind_some]

/-- A byte of a token that is no string. -/
abbrev IsPlain (b : UInt8) : Prop := b ≠ 0x22 ∧ b ≠ 0x6E ∧ b ∈ plainBytes

theorem scan_plain (h : ∀ b ∈ text, IsPlain b) : scan .plain text = some .plain := by
  induction text with
  | nil => rfl
  | cons b text ih =>
    obtain ⟨hquote, hn, hplain⟩ := h b List.mem_cons_self
    have hstep : scanStep .plain b = some .plain := by
      rw [scanStep, if_neg hquote, if_neg hn, if_pos hplain]
    rw [scan_cons, hstep]
    exact ih fun b hb ↦ h b (List.mem_cons_of_mem _ hb)

theorem isPlain_whitespace (h : Whitespace text) : ∀ b ∈ text, IsPlain b := by
  intro b hb
  rcases h b hb with rfl | rfl | rfl | rfl <;> decide

theorem isPlain_isDigit {c : UInt8} (h : isDigit c = true) : IsPlain c := by
  simp only [isDigit, Bool.and_eq_true, decide_eq_true_eq, UInt8.le_iff_toNat_le] at h
  obtain ⟨k, hk⟩ : ∃ k, c.toNat = k := ⟨_, rfl⟩
  obtain rfl : c = UInt8.ofNat k := by rw [← hk, UInt8.ofNat_toNat]
  have hlow : 48 ≤ k := hk ▸ h.1
  have hhigh : k ≤ 57 := hk ▸ h.2
  interval_cases k <;> decide

theorem isPlain_number (h : IsNumber text) : ∀ b ∈ text, IsPlain b := by
  have hsign : ∀ {sign : Bytes}, sign = [] ∨ sign = [0x2B] ∨ sign = [0x2D] →
      ∀ b ∈ sign, IsPlain b := by
    rintro sign (rfl | rfl | rfl) <;> decide +kernel
  cases h with
  | @number sign int fraction exponent hminus hint hfraction hexponent =>
    intro b hb
    rcases List.mem_append.1 hb with hb | hb
    · rcases List.mem_append.1 hb with hb | hb
      · rcases List.mem_append.1 hb with hb | hb
        · exact hsign (hminus.imp_right .inr) b hb
        · exact isPlain_isDigit (hint.1.2 b hb)
      · cases hfraction with
        | none => cases hb
        | digits h =>
          rcases List.mem_cons.1 hb with rfl | hb
          · decide
          · exact isPlain_isDigit (h.2 b hb)
    · cases hexponent with
      | none => cases hb
      | digits he hsign' h =>
        rcases List.mem_cons.1 hb with rfl | hb
        · rcases he with rfl | rfl <;> decide
        · rcases List.mem_append.1 hb with hb | hb
          · exact hsign hsign' b hb
          · exact isPlain_isDigit (h.2 b hb)

/-! ### Strings -/

/-- A hexadecimal digit is a printable character, and neither a quote nor a backslash. -/
theorem HexDigit.byte {d : UInt8} {k : ℕ} (h : HexDigit d k) :
    (d ≠ 0x22 ∧ d ≠ 0x5C ∧ 0x20 ≤ d.toNat) ∧ d.toNat ≤ 0x7F := by
  have hupper : ∀ b ∈ ascii "0123456789ABCDEF",
      (b ≠ 0x22 ∧ b ≠ 0x5C ∧ 0x20 ≤ b.toNat) ∧ b.toNat ≤ 0x7F := by decide +kernel
  have hlower : ∀ b ∈ ascii "0123456789abcdef",
      (b ≠ 0x22 ∧ b ≠ 0x5C ∧ 0x20 ≤ b.toNat) ∧ b.toNat ≤ 0x7F := by decide +kernel
  rcases h with h | h
  · exact hupper d (List.mem_of_getElem? h)
  · exact hlower d (List.mem_of_getElem? h)

/-- The digits of an escape. -/
theorem UnicodeEscape.bytes {u : ℕ} {text : Bytes} (h : UnicodeEscape u text) :
    ∃ digits, text = 0x5C :: 0x75 :: digits ∧
      ∀ b ∈ digits, (b ≠ 0x22 ∧ b ≠ 0x5C ∧ 0x20 ≤ b.toNat) ∧ b.toNat ≤ 0x7F := by
  cases h with
  | @digits d₀ d₁ d₂ d₃ _ _ _ _ h₀ h₁ h₂ h₃ =>
    refine ⟨[d₀, d₁, d₂, d₃], rfl, fun b hb ↦ ?_⟩
    simp only [List.mem_cons, List.not_mem_nil, or_false] at hb
    rcases hb with rfl | rfl | rfl | rfl
    exacts [h₀.byte, h₁.byte, h₂.byte, h₃.byte]

/-- A byte in a string that is neither a quote nor a backslash nor a control character. -/
theorem scan_string_cons {b : UInt8} (hquote : b ≠ 0x22) (hbackslash : b ≠ 0x5C)
    (hcontrol : 0x20 ≤ b.toNat) (state : Utf8.State) (text : Bytes) :
    scan (.string state) (b :: text) =
      (Utf8.step state b).bind fun state ↦ scan (.string state) text := by
  rw [scan_cons, scanStep, if_neg hquote, if_neg hbackslash, if_neg (Nat.not_lt.2 hcontrol)]
  cases Utf8.step state b <;> rfl

/-- Without such bytes, a string is scanned as UTF-8. -/
theorem scan_string_append (h : ∀ b ∈ text, b ≠ 0x22 ∧ b ≠ 0x5C ∧ 0x20 ≤ b.toNat)
    (state : Utf8.State) (text' : Bytes) :
    scan (.string state) (text ++ text') =
      (Utf8.run state text).bind fun state ↦ scan (.string state) text' := by
  induction text generalizing state with
  | nil => rfl
  | cons b text ih =>
    obtain ⟨hquote, hbackslash, hcontrol⟩ := h b List.mem_cons_self
    rw [List.cons_append, scan_string_cons hquote hbackslash hcontrol, Utf8.run_cons]
    cases Utf8.step state b with
    | none => rfl
    | some state => exact ih (fun b hb ↦ h b (List.mem_cons_of_mem _ hb)) state

/-- An escape of one letter. -/
theorem scan_escape {e : UInt8} (he : 0x20 ≤ e.toNat ∧ e.toNat ≤ 0x7F) (text : Bytes) :
    scan (.string .start) (0x5C :: e :: text) = scan (.string .start) text := by
  have hstep : scanStep .escape e = some (.string .start) := if_pos he
  rw [scan_cons, show scanStep (.string .start) 0x5C = some .escape from rfl, Option.bind_some,
    scan_cons, hstep, Option.bind_some]

theorem shortEscapes_byte {c : Char} {e : UInt8} (h : (c, e) ∈ shortEscapes) :
    0x20 ≤ e.toNat ∧ e.toNat ≤ 0x7F := by
  have hall : ∀ p ∈ shortEscapes, 0x20 ≤ p.2.toNat ∧ p.2.toNat ≤ 0x7F := by decide
  exact hall (c, e) h

/-- A character that is written as it is brings no control character either. -/
theorem byte_of_mem_raw {c : Char} (hcontrol : 0x20 ≤ c.toNat) (hquote : c ≠ '"')
    (hbackslash : c ≠ '\\') {b : UInt8} (hb : b ∈ String.utf8EncodeChar c) :
    b ≠ 0x22 ∧ b ≠ 0x5C ∧ 0x20 ≤ b.toNat := by
  obtain ⟨hq, hb'⟩ := ne_of_mem_raw hquote hbackslash hb
  refine ⟨hq, hb', ?_⟩
  by_cases hascii : c.toNat ≤ 0x7F
  · rw [Utf8.encode1 hascii, List.mem_singleton] at hb
    rwa [hb, Utf8.toNat_ofNat (by omega)]
  · have hle := Utf8.le_of_mem_encode (Nat.not_le.1 hascii) hb
    omega

theorem scan_isChar (h : IsChar text) (text' : Bytes) :
    scan (.string .start) (text ++ text') = scan (.string .start) text' := by
  cases h with
  | @raw c hcontrol hquote hbackslash =>
    rw [scan_string_append fun b hb ↦ byte_of_mem_raw hcontrol hquote hbackslash hb,
      ← List.append_nil (String.utf8EncodeChar c), Utf8.run_encode]
    rfl
  | short h => exact scan_escape (shortEscapes_byte h) text'
  | unit h =>
    obtain ⟨digits, rfl, hdigits⟩ := h.bytes
    show scan (.string .start) (0x5C :: 0x75 :: (digits ++ text')) = _
    rw [scan_escape (by decide), scan_string_append fun b hb ↦ (hdigits b hb).1,
      Utf8.run_start_ascii fun b hb ↦ (hdigits b hb).2, Option.bind_some]

/-- The bytes of a character in a string are no control characters, and they are in UTF-8. -/
theorem IsChar.bytes (h : IsChar text) : (∀ b ∈ text, 0x20 ≤ b.toNat) ∧
    ∀ text', Utf8.run .start (text ++ text') = Utf8.run .start text' := by
  have hascii : (∀ b ∈ text, 0x20 ≤ b.toNat ∧ b.toNat ≤ 0x7F) → (∀ b ∈ text, 0x20 ≤ b.toNat) ∧
      ∀ text', Utf8.run .start (text ++ text') = Utf8.run .start text' := by
    refine fun hbytes ↦ ⟨fun b hb ↦ (hbytes b hb).1, fun text' ↦ ?_⟩
    rw [Utf8.run_append, Utf8.run_start_ascii fun b hb ↦ (hbytes b hb).2, Option.bind_some]
  cases h with
  | @raw c hcontrol hquote hbackslash =>
    exact ⟨fun b hb ↦ (byte_of_mem_raw hcontrol hquote hbackslash hb).2.2, Utf8.run_encode c⟩
  | short h =>
    exact hascii (List.forall_mem_cons.2 ⟨by decide, by simpa using shortEscapes_byte h⟩)
  | unit h =>
    obtain ⟨digits, rfl, hdigits⟩ := h.bytes
    exact hascii (List.forall_mem_cons.2 ⟨by decide, List.forall_mem_cons.2 ⟨by decide,
      fun b hb ↦ ⟨(hdigits b hb).1.2.2, (hdigits b hb).2⟩⟩⟩)

/-- **The text of a string** is in UTF-8 without control characters. -/
theorem IsChars.bytes (h : IsChars text) :
    (∀ b ∈ text, 0x20 ≤ b.toNat) ∧ Utf8.WellFormed text := by
  rw [← Utf8.run_start_iff]
  induction h with
  | nil => exact ⟨by simp, rfl⟩
  | cons h _ ih =>
    obtain ⟨hcontrol, hrun⟩ := h.bytes
    exact ⟨List.forall_mem_append.2 ⟨hcontrol, ih.1⟩, by rw [hrun, ih.2]⟩

theorem scan_isString (h : IsString text) : scan .plain text = some .plain := by
  have hchars : ∀ {text : Bytes}, IsChars text → ∀ text',
      scan (.string .start) (text ++ text') = scan (.string .start) text' := by
    intro text h
    induction h with
    | nil => exact fun _ ↦ rfl
    | cons h _ ih =>
      intro text'
      rw [List.append_assoc, scan_isChar h, ih]
  cases h with
  | @quoted text h =>
    show scan (.string .start) (text ++ [0x22]) = _
    rw [hchars h]
    rfl

/-! ### Values -/

theorem isPlain_separates {first : Bool} (h : Separates first text) : ∀ b ∈ text, IsPlain b := by
  cases h with
  | first h => exact isPlain_whitespace h
  | comma hbefore hafter =>
    intro b hb
    rcases List.mem_append.1 hb with hb | hb
    · exact isPlain_whitespace hbefore b hb
    · rcases List.mem_cons.1 hb with rfl | hb
      · decide
      · exact isPlain_whitespace hafter b hb

mutual

/-- **The automaton runs through every value.** -/
theorem scan_isValue : ∀ {text : Bytes}, IsValue text → scan .plain text = some .plain
  | _, .null => rfl
  | _, .true => rfl
  | _, .false => rfl
  | _, .number h => scan_plain (isPlain_number h)
  | _, .string h => scan_isString h
  | _, @IsValue.array text h => by
    show scan .plain (text ++ [0x5D]) = _
    rw [scan_append_of (scan_isElements h)]
    rfl
  | _, @IsValue.object text h => by
    show scan .plain (text ++ [0x7D]) = _
    rw [scan_append_of (scan_isMembers h)]
    rfl

theorem scan_isElements : ∀ {first : Bool} {text : Bytes}, IsElements first text →
    scan .plain text = some .plain
  | _, _, .nil h => scan_plain (isPlain_whitespace h)
  | _, _, .cons hseparator h hs => by
    rw [scan_append_of (scan_plain (isPlain_separates hseparator)),
      scan_append_of (scan_isValue h)]
    exact scan_isElements hs

theorem scan_isMembers : ∀ {first : Bool} {text : Bytes}, IsMembers first text →
    scan .plain text = some .plain
  | _, _, .nil h => scan_plain (isPlain_whitespace h)
  | _, _, .cons hseparator hkey hbefore hafter h hs => by
    rw [scan_append_of (scan_plain (isPlain_separates hseparator)),
      scan_append_of (scan_isString hkey),
      scan_append_of (scan_plain (isPlain_whitespace hbefore))]
    show scan .plain (_ ++ (_ ++ _)) = _
    rw [scan_append_of (scan_plain (isPlain_whitespace hafter)), scan_append_of (scan_isValue h)]
    exact scan_isMembers hs

end

/-- **The automaton runs through every text.** -/
theorem scan_isText (h : IsText text) : scan .plain text = some .plain := by
  cases h with
  | text hbefore h hafter =>
    rw [scan_append_of (scan_plain (isPlain_whitespace hbefore)), scan_append_of (scan_isValue h)]
    exact scan_plain (isPlain_whitespace hafter)

end Touchless.Json
