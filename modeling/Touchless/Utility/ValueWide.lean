import Touchless.Foundations.Utf8

/-!
# Wide strings

`Value::convertWideStringToUTF8String` and `Value::convertUTF8StringToWideString`. The encoder knows
surrogate pairs whatever the size of `wchar_t` is, the decoder makes them where it has 16 bits. On
the wide form of a text of Unicode scalar values, the first yields the UTF-8 form and the second
leads back (`convertWide_wellFormed`). Both return what they have when they come to something that
is not well formed.
-/

namespace Touchless.Value

open Utf8 (bytes2 bytes3 bytes4)

/-- `sizeof(wchar_t)`. -/
inductive WcharSize where
  | two
  | four
  deriving DecidableEq

/-! ### The encoder -/

/-- A pair of surrogates, combined. -/
def combineSurrogates (unicode pair : ℕ) : ℕ :=
  0x10000 + (unicode - 0xD800) <<< 10 + (pair - 0xDC00)

/-- The loop of `convertWideStringToUTF8String`, with the bytes so far. Where the source throws, the
loop ends. -/
def encodeLoop : List ℕ → Bytes → Bytes
  | [], utf8 => utf8
  | unicode :: wide, utf8 =>
    if unicode ≤ 0x7F then encodeLoop wide (utf8 ++ [UInt8.ofNat unicode])
    else if unicode ≤ 0x7FF then encodeLoop wide (utf8 ++ bytes2 unicode)
    else if 0xD800 ≤ unicode ∧ unicode ≤ 0xDBFF then
      match wide with
      | [] => utf8
      | pair :: wide =>
        if pair < 0xDC00 ∨ 0xDFFF < pair then utf8
        else encodeLoop wide (utf8 ++ bytes4 (combineSurrogates unicode pair))
    else if unicode ≤ 0xFFFF then encodeLoop wide (utf8 ++ bytes3 unicode)
    else if unicode ≤ 0x10FFFF then encodeLoop wide (utf8 ++ bytes4 unicode)
    else utf8

/-- `convertWideStringToUTF8String`, on the wide characters as unsigned numbers. -/
def convertWideStringToUTF8String (wide : List ℕ) : Bytes := encodeLoop wide []

/-! ### The decoder -/

/-- What one byte makes of the code point and the number of bytes that it still needs. -/
def decodeByte (c unicode remainingBytes : ℕ) : Option (ℕ × ℕ) :=
  if c ≤ 0x7F then if remainingBytes = 0 then some (c, 0) else none
  else if c ≤ 0xBF then
    if remainingBytes = 0 then none else some (unicode <<< 6 ||| c &&& 0x3F, remainingBytes - 1)
  else if c ≤ 0xDF then some (c &&& 0x1F, 1)
  else if c ≤ 0xEF then some (c &&& 0x0F, 2)
  else if c ≤ 0xF7 then some (c &&& 0x07, 3)
  else none

/-- The wide characters of a code point, and what is left in `unicode`; `none` above the last
one. -/
def wideChars (size : WcharSize) (unicode : ℕ) : Option (List ℕ × ℕ) :=
  if size = .two ∧ 0xFFFF < unicode then
    let high := 0xD800 ||| (unicode - 0x10000) >>> 10 &&& 0x3FF
    let low := 0xDC00 ||| unicode &&& 0x3FF
    some ([high, low], low)
  else if 0x10FFFF < unicode then none
  else some ([unicode], unicode)

/-- The loop of `convertUTF8StringToWideString`. -/
def decodeLoop (size : WcharSize) : Bytes → List ℕ → ℕ → ℕ → List ℕ
  | [], wide, _, _ => wide
  | c :: utf8, wide, unicode, remainingBytes =>
    match decodeByte c.toNat unicode remainingBytes with
    | none => wide
    | some (unicode, remainingBytes) =>
      if remainingBytes = 0 then
        match wideChars size unicode with
        | none => wide
        | some (chars, unicode) => decodeLoop size utf8 (wide ++ chars) unicode 0
      else decodeLoop size utf8 wide unicode remainingBytes

/-- `convertUTF8StringToWideString`. -/
def convertUTF8StringToWideString (size : WcharSize) (utf8 : Bytes) : List ℕ :=
  decodeLoop size utf8 [] 0 0

/-! ### Texts -/

/-- The wide form of a character. -/
def wideChar (size : WcharSize) (c : Char) : List ℕ :=
  match size with
  | .two => Utf8.utf16EncodeChar c
  | .four => [c.toNat]

/-- The wide form of a text. -/
def wideText (size : WcharSize) (text : List Char) : List ℕ := text.flatMap (wideChar size)

/-- The UTF-8 form of a text. -/
def utf8Text (text : List Char) : Bytes := text.flatMap String.utf8EncodeChar

/-- A wide string is well formed if it consists of scalar values, each in one unit, or in a pair of
surrogates where a unit has 16 bits and the value is above them. -/
inductive WellFormed : WcharSize → List ℕ → Prop where
  | nil {size : WcharSize} : WellFormed size []
  | scalar {size : WcharSize} {unicode : ℕ} {wide : List ℕ}
      (hscalar : unicode < 0xD800 ∨ 0xDFFF < unicode ∧ unicode < 0x110000)
      (hunit : size = .two → unicode ≤ 0xFFFF) (hwide : WellFormed size wide) :
      WellFormed size (unicode :: wide)
  | pair {high low : ℕ} {wide : List ℕ} (hhigh : 0xD800 ≤ high ∧ high ≤ 0xDBFF)
      (hlow : 0xDC00 ≤ low ∧ low ≤ 0xDFFF) (hwide : WellFormed .two wide) :
      WellFormed .two (high :: low :: wide)

/-- **The well-formed wide strings** are the wide forms of texts. -/
theorem wellFormed_iff {size : WcharSize} {wide : List ℕ} :
    WellFormed size wide ↔ ∃ text, wide = wideText size text := by
  constructor
  · intro h
    induction h with
    | nil => exact ⟨[], rfl⟩
    | @scalar size unicode wide hscalar hunit _ ih =>
      obtain ⟨text, rfl⟩ := ih
      obtain ⟨c, rfl⟩ := Utf8.exists_char hscalar
      refine ⟨c :: text, ?_⟩
      rw [wideText, wideText, List.flatMap_cons]
      cases size with
      | four => rfl
      | two =>
        rw [wideChar, Utf8.utf16EncodeChar, if_pos (hunit rfl)]
        rfl
    | @pair high low wide hhigh hlow _ ih =>
      obtain ⟨text, rfl⟩ := ih
      -- the scalar value of the pair
      obtain ⟨v, hv⟩ : ∃ v, v = 0x10000 + (high - 0xD800) * 0x400 + (low - 0xDC00) := ⟨_, rfl⟩
      obtain ⟨c, rfl⟩ := Utf8.exists_char (show v < 0xD800 ∨ 0xDFFF < v ∧ v < 0x110000 by omega)
      have hfirst : 0xD800 + (c.toNat - 0x10000) / 0x400 = high := by omega
      have hsecond : 0xDC00 + (c.toNat - 0x10000) % 0x400 = low := by omega
      refine ⟨c :: text, ?_⟩
      rw [wideText, wideText, List.flatMap_cons, wideChar, Utf8.utf16EncodeChar, if_neg (by omega),
        hfirst, hsecond]
      rfl
  · rintro ⟨text, rfl⟩
    induction text with
    | nil => exact .nil
    | cons c text ih =>
      have hscalar := Utf8.toNat_scalar c
      rw [wideText, List.flatMap_cons, ← wideText]
      cases size with
      | four => exact .scalar hscalar (by simp) ih
      | two =>
        rw [wideChar, Utf8.utf16EncodeChar]
        split_ifs with h
        · exact .scalar hscalar (fun _ ↦ h) ih
        · exact .pair (by omega) (by omega) ih

section Encoder

/-- A character in one unit. -/
theorem encodeLoop_single (c : Char) (wide : List ℕ) (utf8 : Bytes) :
    encodeLoop (c.toNat :: wide) utf8 = encodeLoop wide (utf8 ++ String.utf8EncodeChar c) := by
  have hscalar := Utf8.toNat_scalar c
  rw [encodeLoop.eq_def]
  dsimp only
  split_ifs with h1 h2 hsurrogate h3 h4
  · rw [Utf8.encode1 h1]
  · rw [Utf8.encode2 (by omega) h2]
  · omega
  · rw [Utf8.encode3 (by omega) h3]
  · rw [Utf8.encode4 (by omega)]
  · omega

theorem combineSurrogates_units {v : ℕ} (h : 0xFFFF < v) :
    combineSurrogates (0xD800 + (v - 0x10000) / 0x400) (0xDC00 + (v - 0x10000) % 0x400) = v := by
  have hhigh : 0xD800 + (v - 0x10000) / 0x400 - 0xD800 = (v - 0x10000) / 0x400 :=
    Nat.add_sub_cancel_left _ _
  have hlow : 0xDC00 + (v - 0x10000) % 0x400 - 0xDC00 = (v - 0x10000) % 0x400 :=
    Nat.add_sub_cancel_left _ _
  unfold combineSurrogates
  simp only [hhigh, hlow, Nat.shiftLeft_eq]
  omega

/-- A character in two units. -/
theorem encodeLoop_pair {c : Char} (h : 0xFFFF < c.toNat) (wide : List ℕ) (utf8 : Bytes) :
    encodeLoop ((0xD800 + (c.toNat - 0x10000) / 0x400) :: (0xDC00 + (c.toNat - 0x10000) % 0x400) ::
      wide) utf8 = encodeLoop wide (utf8 ++ String.utf8EncodeChar c) := by
  have hscalar := Utf8.toNat_scalar c
  rw [encodeLoop.eq_def]
  dsimp only
  rw [if_neg (by omega), if_neg (by omega), if_pos (by omega), if_neg (by omega),
    combineSurrogates_units h, Utf8.encode4 h]

theorem encodeLoop_wideChar (size : WcharSize) (c : Char) (wide : List ℕ) (utf8 : Bytes) :
    encodeLoop (wideChar size c ++ wide) utf8 =
      encodeLoop wide (utf8 ++ String.utf8EncodeChar c) := by
  cases size with
  | four => exact encodeLoop_single c wide utf8
  | two =>
    rw [wideChar, Utf8.utf16EncodeChar]
    split_ifs with h
    · exact encodeLoop_single c wide utf8
    · exact encodeLoop_pair (Nat.not_le.1 h) wide utf8

theorem encodeLoop_wideText (size : WcharSize) (text : List Char) : ∀ utf8,
    encodeLoop (wideText size text) utf8 = utf8 ++ utf8Text text := by
  induction text with
  | nil => exact fun utf8 ↦ (List.append_nil utf8).symm
  | cons c text ih =>
    intro utf8
    rw [wideText, List.flatMap_cons, encodeLoop_wideChar, ← wideText, ih, utf8Text, utf8Text,
      List.flatMap_cons, List.append_assoc]

end Encoder

section Decoder

variable {size : WcharSize} {v unicode remainingBytes : ℕ} {wide : List ℕ} {utf8 : Bytes}

/-- Between characters, what is left in `unicode` does not matter. -/
theorem decodeLoop_unicode (utf8 : Bytes) (wide : List ℕ) (unicode : ℕ) :
    decodeLoop size utf8 wide unicode 0 = decodeLoop size utf8 wide 0 0 := by
  cases utf8 with
  | nil => rfl
  | cons c utf8 =>
    have hbyte : decodeByte c.toNat unicode 0 = decodeByte c.toNat 0 0 := by
      simp only [decodeByte, if_true]
    rw [decodeLoop, decodeLoop, hbyte]

/-- A first byte. -/
theorem decodeLoop_first {b : ℕ} (hb : b < 256)
    (h : decodeByte b 0 0 = some (unicode, remainingBytes + 1)) :
    decodeLoop size (UInt8.ofNat b :: utf8) wide 0 0 =
      decodeLoop size utf8 wide unicode (remainingBytes + 1) := by
  have hbyte : (UInt8.ofNat b).toNat = b := UInt8.toNat_ofNat_of_lt' hb
  rw [decodeLoop, hbyte, h]
  rfl

/-- What a continuation byte adds. -/
theorem decodeByte_continuation :
    decodeByte (UInt8.ofNat (0x80 ||| v &&& 0x3F)).toNat unicode (remainingBytes + 1) =
      some (unicode * 64 + v % 64, remainingBytes) := by
  have hbyte : (UInt8.ofNat (0x80 ||| v &&& 0x3F)).toNat = v % 0x40 + 0x80 := by
    rw [Utf8.continuation]
    exact UInt8.toNat_ofNat_of_lt' (show v % 0x40 + 0x80 < 2 ^ 8 by omega)
  have hbits : unicode <<< 6 ||| (v % 0x40 + 0x80) &&& 0x3F = unicode * 64 + v % 64 := by
    have hlow : (v % 0x40 + 0x80) &&& 0x3F = (v % 0x40 + 0x80) % 0x40 :=
      Utf8.and_mask _ 6 0x40 (by decide) (by decide)
    rw [hlow, Nat.shiftLeft_eq, Utf8.or_low 6 unicode (2 ^ 6) rfl rfl (by omega)]
    omega
  rw [hbyte, decodeByte, if_neg (by omega), if_pos (by omega), if_neg (Nat.succ_ne_zero _), hbits]
  rfl

/-- A continuation byte that is not the last one. -/
theorem decodeLoop_continuation :
    decodeLoop size (UInt8.ofNat (0x80 ||| v &&& 0x3F) :: utf8) wide unicode (remainingBytes + 2) =
      decodeLoop size utf8 wide (unicode * 64 + v % 64) (remainingBytes + 1) := by
  rw [decodeLoop, decodeByte_continuation]
  rfl

/-- The wide characters of a scalar value. -/
theorem wideChars_toNat (size : WcharSize) (c : Char) :
    ∃ left, wideChars size c.toNat = some (wideChar size c, left) := by
  have hscalar := Utf8.toNat_scalar c
  cases size with
  | four =>
    refine ⟨c.toNat, ?_⟩
    rw [wideChars, if_neg (by simp), if_neg (by omega)]
    rfl
  | two =>
    by_cases h : c.toNat ≤ 0xFFFF
    · refine ⟨c.toNat, ?_⟩
      rw [wideChars, if_neg (by simp; omega), if_neg (by omega), wideChar, Utf8.utf16EncodeChar,
        if_pos h]
    · -- ten bits each go into the two surrogates
      have hhigh : 0xD800 ||| (c.toNat - 0x10000) >>> 10 &&& 0x3FF =
          0xD800 + (c.toNat - 0x10000) / 0x400 := by
        have hmask : (c.toNat - 0x10000) >>> 10 &&& 0x3FF = (c.toNat - 0x10000) >>> 10 % 0x400 :=
          Utf8.and_mask _ 10 0x400 (by decide) (by decide)
        rw [hmask, Utf8.or_low 10 54 0x400 (by decide) (by decide) (Nat.mod_lt _ (by decide)),
          Nat.shiftRight_eq_div_pow]
        omega
      have hlow : 0xDC00 ||| c.toNat &&& 0x3FF = 0xDC00 + (c.toNat - 0x10000) % 0x400 := by
        have hmask : c.toNat &&& 0x3FF = c.toNat % 0x400 :=
          Utf8.and_mask _ 10 0x400 (by decide) (by decide)
        rw [hmask, Utf8.or_low 10 55 0x400 (by decide) (by decide) (Nat.mod_lt _ (by decide))]
        omega
      refine ⟨0xDC00 + (c.toNat - 0x10000) % 0x400, ?_⟩
      rw [wideChars, if_pos ⟨rfl, by omega⟩, hhigh, hlow, wideChar, Utf8.utf16EncodeChar, if_neg h]

/-- The last byte of a character. -/
theorem decodeLoop_last {c : Char} {b : UInt8} (h : decodeByte b.toNat unicode remainingBytes =
    some (c.toNat, 0)) : decodeLoop size (b :: utf8) wide unicode remainingBytes =
      decodeLoop size utf8 (wide ++ wideChar size c) 0 0 := by
  obtain ⟨left, hleft⟩ := wideChars_toNat size c
  rw [decodeLoop, h]
  dsimp only
  rw [if_pos rfl, hleft]
  exact decodeLoop_unicode utf8 _ left

/-! What the first bytes say. -/

theorem decodeByte_first2 {k : ℕ} (h : k < 32) : decodeByte (0xC0 + k) 0 0 = some (k, 1) := by
  have hmask : 0xC0 + k &&& 0x1F =
      (0xC0 + k) % 0x20 := Utf8.and_mask _ 5 0x20 (by decide) (by decide)
  have hk : (0xC0 + k) % 0x20 = k := by omega
  rw [decodeByte, if_neg (by omega), if_neg (by omega), if_pos (by omega), hmask, hk]

theorem decodeByte_first3 {k : ℕ} (h : k < 16) : decodeByte (0xE0 + k) 0 0 = some (k, 2) := by
  have hmask : 0xE0 + k &&& 0x0F =
      (0xE0 + k) % 0x10 := Utf8.and_mask _ 4 0x10 (by decide) (by decide)
  have hk : (0xE0 + k) % 0x10 = k := by omega
  rw [decodeByte, if_neg (by omega), if_neg (by omega), if_neg (by omega), if_pos (by omega),
    hmask, hk]

theorem decodeByte_first4 {k : ℕ} (h : k < 8) : decodeByte (0xF0 + k) 0 0 = some (k, 3) := by
  have hmask : 0xF0 + k &&& 0x07 =
      (0xF0 + k) % 0x08 := Utf8.and_mask _ 3 0x08 (by decide) (by decide)
  have hk : (0xF0 + k) % 0x08 = k := by omega
  rw [decodeByte, if_neg (by omega), if_neg (by omega), if_neg (by omega), if_neg (by omega),
    if_pos (by omega), hmask, hk]

/-- **A character is read back.** -/
theorem decodeLoop_char (c : Char) (utf8 : Bytes) (wide : List ℕ) :
    decodeLoop size (String.utf8EncodeChar c ++ utf8) wide 0 0 =
      decodeLoop size utf8 (wide ++ wideChar size c) 0 0 := by
  have hscalar := Utf8.toNat_scalar c
  -- one to four bytes: the first says how many, the last completes the character
  by_cases h1 : c.toNat ≤ 0x7F
  · rw [Utf8.encode1 h1]
    refine decodeLoop_last ?_
    rw [UInt8.toNat_ofNat_of_lt' (show c.toNat < 2 ^ 8 by omega), decodeByte, if_pos h1, if_pos rfl]
  by_cases h2 : c.toNat ≤ 0x7FF
  · rw [Utf8.encode2 (by omega) h2, bytes2, Utf8.first2 h2]
    refine (decodeLoop_first (by omega) (decodeByte_first2 (by omega))).trans ?_
    refine decodeLoop_last (decodeByte_continuation.trans ?_)
    rw [Nat.div_add_mod']
  by_cases h3 : c.toNat ≤ 0xFFFF
  · rw [Utf8.encode3 (by omega) h3, bytes3, Utf8.first3 h3]
    refine (decodeLoop_first (by omega) (decodeByte_first3 (by omega))).trans ?_
    refine decodeLoop_continuation.trans (decodeLoop_last (decodeByte_continuation.trans ?_))
    rw [Nat.shiftRight_eq_div_pow]
    congr 2
    omega
  · rw [Utf8.encode4 (by omega), bytes4, Utf8.first4 (by omega)]
    refine (decodeLoop_first (by omega) (decodeByte_first4 (by omega))).trans ?_
    refine decodeLoop_continuation.trans (decodeLoop_continuation.trans
      (decodeLoop_last (decodeByte_continuation.trans ?_)))
    rw [Nat.shiftRight_eq_div_pow, Nat.shiftRight_eq_div_pow]
    congr 2
    omega

theorem decodeLoop_utf8Text (text : List Char) : ∀ wide,
    decodeLoop size (utf8Text text) wide 0 0 = wide ++ wideText size text := by
  induction text with
  | nil => exact fun wide ↦ (List.append_nil wide).symm
  | cons c text ih =>
    intro wide
    rw [utf8Text, List.flatMap_cons, decodeLoop_char, ← utf8Text, ih, wideText, wideText,
      List.flatMap_cons, List.append_assoc]

end Decoder

/-- **Wide strings and back**: a well-formed wide string is the wide form of a text, goes to the
UTF-8 form of the text, and from there back, on both sizes of `wchar_t`. -/
theorem convertWide_wellFormed {size : WcharSize} {wide : List ℕ} (h : WellFormed size wide) :
    ∃ text, wide = wideText size text ∧
      convertWideStringToUTF8String wide = utf8Text text ∧
      convertUTF8StringToWideString size (convertWideStringToUTF8String wide) = wide := by
  obtain ⟨text, rfl⟩ := wellFormed_iff.1 h
  have hencode : convertWideStringToUTF8String (wideText size text) = utf8Text text :=
    encodeLoop_wideText size text []
  refine ⟨text, rfl, hencode, ?_⟩
  rw [hencode]
  exact decodeLoop_utf8Text text []

/-- A letter and a pair of surrogates. -/
theorem convertWide_wellFormed_pair :
    ∃ text, [0x41, 0xD83D, 0xDE00] = wideText .two text ∧
      convertWideStringToUTF8String [0x41, 0xD83D, 0xDE00] = utf8Text text ∧
      convertUTF8StringToWideString .two
        (convertWideStringToUTF8String [0x41, 0xD83D, 0xDE00]) = [0x41, 0xD83D, 0xDE00] :=
  convertWide_wellFormed (.scalar (by decide) (by decide) (.pair (by decide) (by decide) .nil))

end Touchless.Value
