import Touchless.Foundations.Utf8Automaton
import Touchless.Utility.ValueWide

/-!
# What the decoder makes of bytes that are no text

A byte string begins with a longest text in UTF-8 (`LongestPrefix`). The decoder should return its
wide form and stop. It does return this form, but it goes on behind it: a first byte takes the place
of a sequence that is not finished, and of a sequence that is complete only its number is looked at.
So it puts out a character wherever, behind any first bytes with too few continuation bytes, there
is one with all of them (`Decodes`), and only there (`convertUTF8StringToWideString_eq_iff`).
Overlong forms, surrogates and, where `wchar_t` has 16 bits, numbers above the last code point are
such sequences.
-/

namespace Touchless.Value

open Utf8 (IsTail)

/-! ### The longest text -/

/-- The bytes begin with the UTF-8 form of the text and of no longer one. -/
structure LongestPrefix (bytes : Bytes) (text : List Char) (rest : Bytes) : Prop where
  split : bytes = utf8Text text ++ rest
  longest : ∀ text', utf8Text text' <+: bytes → text' <+: text

section Text

variable {size : WcharSize} {wide : List ℕ} {unicode remainingBytes : ℕ} {text : List Char}
  {bytes rest : Bytes}

/-- What has been put out stays. -/
theorem prefix_decodeLoop (utf8 : Bytes) (wide : List ℕ) (unicode remainingBytes : ℕ) :
    wide <+: decodeLoop size utf8 wide unicode remainingBytes := by
  induction utf8 generalizing wide unicode remainingBytes with
  | nil => exact List.prefix_rfl
  | cons c utf8 ih =>
    rw [decodeLoop]
    cases decodeByte c.toNat unicode remainingBytes with
    | none => exact List.prefix_rfl
    | some r =>
      dsimp only
      split_ifs
      · cases wideChars size r.1 with
        | none => exact List.prefix_rfl
        | some chars => exact (List.prefix_append wide chars.1).trans (ih _ _ _)
      · exact ih _ _ _

/-- The decoder puts out the wide form of a text that the bytes begin with. -/
theorem decodeLoop_utf8Text_append (text : List Char) (rest : Bytes) : ∀ wide,
    decodeLoop size (utf8Text text ++ rest) wide 0 0 =
      decodeLoop size rest (wide ++ wideText size text) 0 0 := by
  induction text with
  | nil => simp [utf8Text, wideText]
  | cons c text ih =>
    intro wide
    rw [utf8Text, List.flatMap_cons, List.append_assoc, decodeLoop_char, ← utf8Text, ih, wideText,
      wideText, List.flatMap_cons, List.append_assoc]

/-- No character begins like another one: the decoder tells them apart. -/
theorem eq_of_encode_prefix {c c' : Char} (h : String.utf8EncodeChar c <+: bytes)
    (h' : String.utf8EncodeChar c' <+: bytes) : c = c' := by
  have hdecode : ∀ {c : Char}, String.utf8EncodeChar c <+: bytes →
      [c.toNat] <+: decodeLoop .four bytes [] 0 0 := by
    rintro c ⟨rest, rfl⟩
    rw [decodeLoop_char]
    exact prefix_decodeLoop rest _ 0 0
  have hsame := List.prefix_of_prefix_length_le (hdecode h) (hdecode h') (le_refl _)
  exact Char.toNat_inj.1 (List.cons.inj (hsame.eq_of_length rfl)).1

/-- A text is the longest one if no character follows it. -/
theorem longestPrefix_iff : LongestPrefix bytes text rest ↔
    bytes = utf8Text text ++ rest ∧ ∀ c, ¬String.utf8EncodeChar c <+: rest := by
  constructor
  · rintro ⟨rfl, hlongest⟩
    refine ⟨rfl, fun c hc ↦ ?_⟩
    have hmore : utf8Text (text ++ [c]) = utf8Text text ++ String.utf8EncodeChar c := by
      simp [utf8Text]
    have hle := (hlongest (text ++ [c]) (by rwa [hmore, List.prefix_append_right_inj])).length_le
    rw [List.length_append, List.length_singleton] at hle
    omega
  · rintro ⟨rfl, hrest⟩
    refine ⟨rfl, fun text' ↦ ?_⟩
    induction text generalizing text' with
    | nil =>
      intro h
      cases text' with
      | nil => exact List.prefix_rfl
      | cons c text' => exact absurd ((List.prefix_append _ _).trans h) (hrest c)
    | cons c text ih =>
      intro h
      cases text' with
      | nil => exact List.nil_prefix
      | cons c' text' =>
        rw [utf8Text, utf8Text, List.flatMap_cons, List.flatMap_cons, List.append_assoc] at h
        obtain rfl : c' = c :=
          eq_of_encode_prefix ((List.prefix_append _ _).trans h) (List.prefix_append _ _)
        rw [List.prefix_append_right_inj] at h
        exact (List.prefix_cons_inj c').2 (ih text' h)

/-- Every byte string begins with a longest text. -/
theorem exists_longestPrefix (bytes : Bytes) : ∃ text rest, LongestPrefix bytes text rest := by
  suffices h : ∃ text rest, bytes = utf8Text text ++ rest ∧
      ∀ c, ¬String.utf8EncodeChar c <+: rest by
    obtain ⟨text, rest, h⟩ := h
    exact ⟨text, rest, longestPrefix_iff.2 h⟩
  induction hlength : bytes.length using Nat.strongRecOn generalizing bytes with
  | ind n ih =>
    by_cases hnone : ∀ c, ¬String.utf8EncodeChar c <+: bytes
    · exact ⟨[], bytes, rfl, hnone⟩
    · obtain ⟨c, rest, rfl⟩ := not_forall_not.1 hnone
      have hpos : 0 < (String.utf8EncodeChar c).length := by
        rw [String.length_utf8EncodeChar]
        exact c.utf8Size_pos
      obtain ⟨text, rest', rfl, hrest⟩ :=
        ih rest.length (by rw [← hlength, List.length_append]; omega) rest rfl
      exact ⟨c :: text, rest', by simp [utf8Text], hrest⟩

end Text

/-! ### Sequences of bytes -/

/-- A first byte, the number of continuation bytes that belong to it, and the bits it has itself. -/
inductive Lead : UInt8 → ℕ → ℕ → Prop where
  | two {b : UInt8} (h : 0xC0 ≤ b.toNat ∧ b.toNat ≤ 0xDF) : Lead b 1 (b.toNat - 0xC0)
  | three {b : UInt8} (h : 0xE0 ≤ b.toNat ∧ b.toNat ≤ 0xEF) : Lead b 2 (b.toNat - 0xE0)
  | four {b : UInt8} (h : 0xF0 ≤ b.toNat ∧ b.toNat ≤ 0xF7) : Lead b 3 (b.toNat - 0xF0)

/-- The number of a sequence, from the bits of its first byte. -/
def sequenceValue (bits : ℕ) (tails : Bytes) : ℕ :=
  tails.foldl (fun v b ↦ v * 64 + (b.toNat - 0x80)) bits

@[simp]
theorem sequenceValue_nil (bits : ℕ) : sequenceValue bits [] = bits := rfl

theorem sequenceValue_cons (bits : ℕ) (b : UInt8) (tails : Bytes) :
    sequenceValue bits (b :: tails) = sequenceValue (bits * 64 + (b.toNat - 0x80)) tails := by
  simp only [sequenceValue, List.foldl_cons]

theorem sequenceValue_concat (bits : ℕ) (tails : Bytes) (b : UInt8) :
    sequenceValue bits (tails ++ [b]) = sequenceValue bits tails * 64 + (b.toNat - 0x80) := by
  simp only [sequenceValue, List.foldl_append, List.foldl_cons, List.foldl_nil]

/-- `count` continuation bytes, which complete a sequence whose number the decoder puts out. -/
def Completes (size : WcharSize) (count bits : ℕ) (bytes : Bytes) : Prop :=
  ∃ tails rest, bytes = tails ++ rest ∧ (∀ b ∈ tails, IsTail b) ∧ tails.length = count ∧
    (size = .two ∨ sequenceValue bits tails ≤ 0x10FFFF)

/-- A complete sequence, behind first bytes with too few continuation bytes each. -/
inductive Decodes (size : WcharSize) : Bytes → Prop where
  | here {b : UInt8} {count bits : ℕ} {bytes : Bytes} (hlead : Lead b count bits)
      (h : Completes size count bits bytes) : Decodes size (b :: bytes)
  | skip {b : UInt8} {count bits : ℕ} {tails bytes : Bytes} (hlead : Lead b count bits)
      (htails : ∀ b ∈ tails, IsTail b) (hlength : tails.length < count)
      (h : Decodes size bytes) : Decodes size (b :: (tails ++ bytes))

/-! ### What the decoder does with them -/

section Sequences

variable {size : WcharSize} {wide : List ℕ} {b : UInt8} {count bits unicode remainingBytes : ℕ}
  {tails bytes rest : Bytes}

theorem Lead.pos (h : Lead b count bits) : 0 < count := by
  cases h <;> decide

/-- The four kinds of bytes. -/
theorem byte_cases (b : UInt8) : b.toNat ≤ 0x7F ∨ IsTail b ∨ (∃ count bits, Lead b count bits) ∨
    0xF8 ≤ b.toNat := by
  by_cases h2 : 0xC0 ≤ b.toNat ∧ b.toNat ≤ 0xDF
  · exact .inr (.inr (.inl ⟨_, _, .two h2⟩))
  by_cases h3 : 0xE0 ≤ b.toNat ∧ b.toNat ≤ 0xEF
  · exact .inr (.inr (.inl ⟨_, _, .three h3⟩))
  by_cases h4 : 0xF0 ≤ b.toNat ∧ b.toNat ≤ 0xF7
  · exact .inr (.inr (.inl ⟨_, _, .four h4⟩))
  · rw [IsTail]
    omega

/-- A first byte begins anew, whatever is not finished. -/
theorem decodeByte_lead (h : Lead b count bits) :
    decodeByte b.toNat unicode remainingBytes = some (bits, count) := by
  cases h with
  | two h =>
    have hmask : b.toNat &&& 0x1F = b.toNat - 0xC0 := by
      rw [Utf8.and_mask _ 5 0x20 (by decide) (by decide)]
      omega
    rw [decodeByte, if_neg (by omega), if_neg (by omega), if_pos h.2, hmask]
  | three h =>
    have hmask : b.toNat &&& 0x0F = b.toNat - 0xE0 := by
      rw [Utf8.and_mask _ 4 0x10 (by decide) (by decide)]
      omega
    rw [decodeByte, if_neg (by omega), if_neg (by omega), if_neg (by omega), if_pos h.2, hmask]
  | four h =>
    have hmask : b.toNat &&& 0x07 = b.toNat - 0xF0 := by
      rw [Utf8.and_mask _ 3 0x08 (by decide) (by decide)]
      omega
    rw [decodeByte, if_neg (by omega), if_neg (by omega), if_neg (by omega), if_neg (by omega),
      if_pos h.2, hmask]

theorem decodeByte_tail (h : IsTail b) :
    decodeByte b.toNat unicode (remainingBytes + 1) =
      some (unicode * 64 + (b.toNat - 0x80), remainingBytes) := by
  have hlow : (b.toNat - 0x80) % 64 = b.toNat - 0x80 := Nat.mod_eq_of_lt (by omega)
  have hbyte := @decodeByte_continuation (b.toNat - 0x80) unicode remainingBytes
  rwa [Utf8.ofNat_continuation h hlow, hlow] at hbyte

/-- Only the size of the number can keep the decoder from putting it out. -/
theorem wideChars_eq_none_iff {v : ℕ} :
    wideChars size v = none ↔ ¬(size = .two ∨ v ≤ 0x10FFFF) := by
  rw [wideChars]
  split_ifs with hpair hlast
  · simp [hpair.1]
  · cases size with
    | two => simp at hpair; omega
    | four => simp; omega
  · simp only [false_iff, not_not]
    exact .inr (Nat.not_lt.1 hlast)

theorem decodeLoop_lead (h : Lead b count bits) :
    decodeLoop size (b :: bytes) wide unicode remainingBytes =
      decodeLoop size bytes wide bits count := by
  rw [decodeLoop, decodeByte_lead h]
  exact if_neg h.pos.ne'

theorem decodeLoop_tail (h : IsTail b) :
    decodeLoop size (b :: bytes) wide unicode (remainingBytes + 2) =
      decodeLoop size bytes wide (unicode * 64 + (b.toNat - 0x80)) (remainingBytes + 1) := by
  rw [decodeLoop, decodeByte_tail h]
  exact if_neg (Nat.succ_ne_zero _)

theorem ne_nil_of_wideChars {v left : ℕ} {chars : List ℕ}
    (h : wideChars size v = some (chars, left)) : chars ≠ [] := by
  rw [wideChars] at h
  split_ifs at h
  · cases h
    exact List.cons_ne_nil _ _
  · cases h
    exact List.cons_ne_nil _ _

/-- Once a character is put out, there is more than before. -/
theorem decodeLoop_append_ne {chars : List ℕ} (h : chars ≠ []) :
    decodeLoop size bytes (wide ++ chars) unicode remainingBytes ≠ wide := by
  intro heq
  have hle := (@prefix_decodeLoop size bytes (wide ++ chars) unicode remainingBytes).length_le
  rw [heq, List.length_append] at hle
  exact h (List.length_eq_zero_iff.1 (by omega))

/-- The last byte of a sequence. -/
theorem decodeLoop_tail_last (h : IsTail b) :
    decodeLoop size (b :: bytes) wide unicode 1 = wide ↔
      ¬(size = .two ∨ unicode * 64 + (b.toNat - 0x80) ≤ 0x10FFFF) := by
  rw [← wideChars_eq_none_iff, decodeLoop, decodeByte_tail h]
  dsimp only
  rw [if_pos rfl]
  cases hchars : wideChars size (unicode * 64 + (b.toNat - 0x80)) with
  | none => simp
  | some chars =>
    obtain ⟨chars, left⟩ := chars
    exact iff_of_false (decodeLoop_append_ne (ne_nil_of_wideChars hchars)) (Option.some_ne_none _)

/-- Continuation bytes, up to the last but one. -/
theorem decodeLoop_tails (h : ∀ b ∈ tails, IsTail b) :
    decodeLoop size (tails ++ bytes) wide unicode (tails.length + (remainingBytes + 1)) =
      decodeLoop size bytes wide (sequenceValue unicode tails) (remainingBytes + 1) := by
  induction tails generalizing unicode with
  | nil =>
    rw [List.nil_append, List.length_nil, Nat.zero_add, sequenceValue_nil]
  | cons b tails ih =>
    obtain ⟨hb, htails⟩ := List.forall_mem_cons.1 h
    have hcount : (b :: tails).length + (remainingBytes + 1) =
        tails.length + remainingBytes + 2 := by
      rw [List.length_cons]
      omega
    rw [hcount, List.cons_append, decodeLoop_tail hb, Nat.add_assoc, ih htails, sequenceValue_cons]

/-- **A complete sequence is put out**, unless its number is too large. -/
theorem decodeLoop_ne_of_completes (hcount : 0 < count) (h : Completes size count bits bytes) :
    decodeLoop size bytes wide bits count ≠ wide := by
  obtain ⟨tails, rest, rfl, htails, rfl, hvalue⟩ := h
  rcases List.eq_nil_or_concat' tails with rfl | ⟨tails, b, rfl⟩
  · exact absurd hcount (Nat.lt_irrefl 0)
  obtain ⟨htails, hb⟩ := List.forall_mem_append.1 htails
  rw [sequenceValue_concat] at hvalue
  have hloop := @decodeLoop_tails size wide bits 0 tails ([b] ++ rest) htails
  rw [List.length_append, List.append_assoc, List.length_singleton, hloop]
  exact fun h ↦ (decodeLoop_tail_last (hb b List.mem_cons_self)).1 h hvalue

/-- **Behind unfinished sequences a complete one is put out.** -/
theorem decodeLoop_ne_of_decodes (h : Decodes size bytes) : ∀ unicode remainingBytes,
    decodeLoop size bytes wide unicode remainingBytes ≠ wide := by
  induction h with
  | here hlead h =>
    intro unicode remainingBytes
    rw [decodeLoop_lead hlead]
    exact decodeLoop_ne_of_completes hlead.pos h
  | @skip b count bits tails bytes hlead htails hlength _ ih =>
    intro unicode remainingBytes
    obtain ⟨left, hleft⟩ : ∃ left, count = tails.length + (left + 1) :=
      ⟨count - tails.length - 1, by omega⟩
    rw [decodeLoop_lead hlead, hleft, decodeLoop_tails htails]
    exact ih _ _

/-- What the decoder puts out next: an ASCII character between two sequences, the sequence it is in,
or one that comes later. -/
theorem of_decodeLoop_ne (h : decodeLoop size bytes wide unicode remainingBytes ≠ wide) :
    (remainingBytes = 0 ∧ ∃ b rest, bytes = b :: rest ∧ b.toNat ≤ 0x7F) ∨
    (0 < remainingBytes ∧ Completes size remainingBytes unicode bytes) ∨
    ∃ tails rest, bytes = tails ++ rest ∧ (∀ b ∈ tails, IsTail b) ∧
      tails.length ≤ remainingBytes - 1 ∧ Decodes size rest := by
  induction bytes generalizing unicode remainingBytes with
  | nil => exact absurd rfl h
  | cons b bytes ih =>
    rcases byte_cases b with hascii | htail | ⟨count, bits, hlead⟩ | hinvalid
    · -- in a sequence the decoder stops
      left
      refine ⟨?_, b, bytes, rfl, hascii⟩
      by_contra hpos
      rw [decodeLoop, decodeByte, if_pos hascii, if_neg hpos] at h
      exact h rfl
    · cases remainingBytes with
      | zero =>
        rw [decodeLoop, decodeByte, if_neg (by omega), if_pos (by omega), if_pos rfl] at h
        exact absurd rfl h
      | succ remainingBytes =>
        cases remainingBytes with
        | zero =>
          have hvalue := not_not.1 ((decodeLoop_tail_last htail).not.1 h)
          exact .inr (.inl ⟨Nat.one_pos, [b], bytes, rfl, by simpa using htail, rfl, hvalue⟩)
        | succ remainingBytes =>
          rw [decodeLoop_tail htail] at h
          rcases ih h with ⟨hzero, -⟩ | ⟨-, tails, rest, rfl, htails, hlength, hvalue⟩ |
            ⟨tails, rest, rfl, htails, hlength, hlater⟩
          · exact absurd hzero (Nat.succ_ne_zero _)
          · exact .inr (.inl ⟨Nat.succ_pos _, b :: tails, rest, rfl,
              List.forall_mem_cons.2 ⟨htail, htails⟩, by rw [List.length_cons, hlength],
              by rwa [sequenceValue_cons]⟩)
          · exact .inr (.inr ⟨b :: tails, rest, rfl, List.forall_mem_cons.2 ⟨htail, htails⟩,
              by rw [List.length_cons]; omega, hlater⟩)
    · -- a first byte takes the place of what is not finished
      right
      right
      refine ⟨[], b :: bytes, rfl, by simp, Nat.zero_le _, ?_⟩
      rw [decodeLoop_lead hlead] at h
      have hpos := hlead.pos
      rcases ih h with ⟨hzero, -⟩ | ⟨-, hcompletes⟩ | ⟨tails, rest, rfl, htails, hlength, hlater⟩
      · omega
      · exact .here hlead hcompletes
      · exact .skip hlead htails (by omega) hlater
    · rw [decodeLoop, decodeByte, if_neg (by omega), if_neg (by omega), if_neg (by omega),
        if_neg (by omega), if_neg (by omega)] at h
      exact absurd rfl h

end Sequences

/-- **What the decoder returns**: the wide form of the longest text that the bytes begin with, and
nothing else, exactly if no complete sequence follows behind unfinished ones. -/
theorem convertUTF8StringToWideString_eq_iff (size : WcharSize) (utf8 : Bytes) :
    ∃ text rest, LongestPrefix utf8 text rest ∧
      (convertUTF8StringToWideString size utf8 = wideText size text ↔ ¬Decodes size rest) := by
  obtain ⟨text, rest, hlongest⟩ := exists_longestPrefix utf8
  obtain ⟨rfl, hrest⟩ := longestPrefix_iff.1 hlongest
  refine ⟨text, rest, hlongest, ?_⟩
  rw [convertUTF8StringToWideString, decodeLoop_utf8Text_append, List.nil_append]
  refine not_iff_not.1 ?_
  rw [not_not]
  refine ⟨fun h ↦ ?_, fun h ↦ decodeLoop_ne_of_decodes h 0 0⟩
  rcases of_decodeLoop_ne h with ⟨-, b, rest, rfl, hascii⟩ | ⟨hpos, -⟩ |
    ⟨tails, rest, rfl, htails, hlength, hlater⟩
  · -- an ASCII character would belong to the text
    obtain ⟨c, hc⟩ := @Utf8.exists_char b.toNat (by omega)
    have hencode : String.utf8EncodeChar c = [b] := by
      rw [Utf8.encode1 (by omega), hc, UInt8.ofNat_toNat]
    exact absurd ⟨rest, by rw [hencode]; rfl⟩ (hrest c)
  · exact absurd hpos (Nat.lt_irrefl 0)
  · obtain rfl : tails = [] := List.length_eq_zero_iff.1 (Nat.le_zero.1 hlength)
    exact hlater

/-- The overlong form of U+0000 is decoded. -/
theorem convertUTF8StringToWideString_overlong :
    ¬∀ (size : WcharSize) (utf8 : Bytes) (text : List Char) (rest : Bytes),
      LongestPrefix utf8 text rest →
        convertUTF8StringToWideString size utf8 = wideText size text := by
  intro h
  have hlongest : LongestPrefix [0xC0, 0x80] [] [0xC0, 0x80] := by
    refine longestPrefix_iff.2 ⟨rfl, fun c ⟨rest, hrest⟩ ↦ ?_⟩
    obtain ⟨b, tail, hencode⟩ := List.exists_cons_of_ne_nil (@String.utf8EncodeChar_ne_nil c)
    have hrun := Utf8.run_encode c []
    rw [hencode] at hrest hrun
    obtain rfl : b = 0xC0 := (List.cons.inj hrest).1
    exact absurd hrun (by simp [Utf8.run_cons, Utf8.step])
  exact absurd (h .four [0xC0, 0x80] [] [0xC0, 0x80] hlongest) (by decide)

end Touchless.Value
