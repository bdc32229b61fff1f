import Touchless.Utility.ValueDenotes
import Touchless.Utility.ValueStrings

/-!
# What is read strictly

The reader is more liberal than the grammar of JSON. `Tree.Strict` says of what it has read that it
keeps to the grammar: one comma between elements and between members and none elsewhere, no form
feed, strings in UTF-8 without control characters, and no second half of a surrogate pair without
the first one. Numbers keep to the grammar always, but their value must be in the range of the type
that they are read as.

What is read strictly denotes its value (`denotes_strict`). Doubles are read by iostreams, and
`ReadsNearest` is what they are known to do.
-/

namespace Touchless.Value

open Json

variable {floats : FloatText} {text rest : Bytes} {value : Value}

/-! ### Numbers -/

/-- A number that is not too large for a finite double is read as the nearest one. -/
def ReadsNearest (floats : FloatText) : Prop :=
  ∀ text, IsNumber text → |numberValue text| < Binary64.overflow →
    Binary64.Nearest (floats.readDouble text) (numberValue text)

/-- Doubles are read as the nearest ones. -/
noncomputable def nearestFloatText : FloatText where
  double _ := []
  longDouble _ := []
  readDouble text := (Binary64.exists_nearest (numberValue text)).choose

theorem readsNearest_nearestFloatText : ReadsNearest nearestFloatText := fun text _ _ ↦
  (Binary64.exists_nearest (numberValue text)).choose_spec

/-- The value of the number is in the range of the types for numbers of its form. -/
def Fits (text : Bytes) : Prop :=
  if IsReal text then |numberValue text| < Binary64.overflow
  else -2 ^ 63 ≤ numberValue text ∧ numberValue text < 2 ^ 64

theorem integer?_range {n : ℤ} (h : integer? value = some n) : -2 ^ 63 ≤ n ∧ n < 2 ^ 64 := by
  cases value with
  | int m =>
    obtain rfl := Option.some.inj h
    have hlow := m.le_toInt
    have hhigh := m.toInt_lt
    omega
  | uint m =>
    obtain rfl := Option.some.inj h
    have hhigh := m.toNat_lt
    omega
  | longlong m =>
    obtain rfl := Option.some.inj h
    have hlow := m.le_toInt
    have hhigh := m.toInt_lt
    omega
  | ulonglong m =>
    obtain rfl := Option.some.inj h
    have hhigh := m.toNat_lt
    omega
  | _ => cases h

theorem DenotesNumber.fits (h : DenotesNumber text value) : Fits text := by
  cases h with
  | @integer _ n h hvalue hn =>
    obtain ⟨hlow, hhigh⟩ := integer?_range hvalue
    rw [Fits, if_neg h, ← hn]
    exact ⟨by exact_mod_cast hlow, by exact_mod_cast hhigh⟩
  | real h hrange _ => rwa [Fits, if_pos h]

/-- The reader's type for a sign and digits holds their value, if there is such a type. -/
theorem integer?_readInteger {positive : Bool} {k : ℕ} {n : ℤ}
    (hn : n = (if positive then 1 else -1) * (k : ℤ)) (hlow : -2 ^ 63 ≤ n) (hhigh : n < 2 ^ 64) :
    integer? (readInteger positive k) = some n := by
  cases positive with
  | true =>
    obtain rfl : n = k := by simpa using hn
    exact integer?_ofInteger hlow hhigh
  | false =>
    obtain rfl : n = -k := by simpa using hn
    rcases Nat.eq_zero_or_pos k with rfl | hk
    · rfl
    · have hread : readInteger false k = ofInteger (-k) := by
        rw [ofInteger, decide_eq_false (by omega), Int.natAbs_neg, Int.natAbs_natCast]
      rw [hread]
      exact integer?_ofInteger hlow hhigh

/-- **A number** is read as what it denotes if it fits. -/
theorem denotesNumber_of_fits (hfloats : ReadsNearest floats)
    (h : parseNumber floats (text ++ rest) = .ok (value, rest)) (hfits : Fits text) :
    DenotesNumber text value := by
  obtain ⟨sign, int, fraction, exponent, hstream, ⟨hsign, hint, hfraction, hexponent⟩, rfl⟩ :=
    parseNumber_parts h
  obtain rfl := List.append_cancel_right hstream
  have hreal := isReal_iff hsign hint hfraction hexponent
  rw [valueOfParts]
  by_cases hparts : fraction ≠ [] ∨ exponent ≠ []
  · rw [if_pos hparts]
    rw [Fits, if_pos (hreal.2 hparts)] at hfits
    exact .real (hreal.2 hparts) hfits
      (hfloats _ (.number hsign hint hfraction hexponent) hfits)
  · rw [if_neg hparts]
    rw [Fits, if_neg (mt hreal.1 hparts)] at hfits
    obtain ⟨rfl, rfl⟩ : fraction = [] ∧ exponent = [] := by simpa [not_or] using hparts
    rw [List.append_nil, List.append_nil] at hfits ⊢
    have hvalue := numberValue_integer hsign hint
    rw [hvalue] at hfits
    refine .integer (not_isReal_integer hsign hint)
      (integer?_readInteger ?_ (by exact_mod_cast hfits.1) (by exact_mod_cast hfits.2)) hvalue.symm
    simp

/-! ### Strings -/

/-- The text of the string is in UTF-8, without control characters, and has no second half of a
surrogate pair without the first one. -/
structure Literal.Proper (literal : Literal) : Prop where
  wellFormed : Utf8.WellFormed (literal.flatMap Piece.text)
  control : ∀ b ∈ literal.flatMap Piece.text, 0x20 ≤ b.toNat
  loneLow : ¬literal.LoneLow

variable {literal : Literal} {s : List Char}

/-- Only a byte that stands for itself does not begin with a backslash. -/
theorem Piece.text_cons {piece : Piece} (h : piece.Valid) :
    (∃ c, piece = .plain c) ∨ ∃ tail, piece.text = 0x5C :: tail := by
  cases piece with
  | plain c => exact .inl ⟨c, rfl⟩
  | short c e => exact .inr ⟨[e], rfl⟩
  | unit u escape =>
    obtain ⟨digits, rfl, -⟩ := h.1.bytes
    exact .inr ⟨0x75 :: digits, rfl⟩
  | pair high low escape escape' =>
    obtain ⟨digits, rfl, -⟩ := h.1.bytes
    exact .inr ⟨0x75 :: digits ++ escape', rfl⟩

/-- Bytes without a backslash stand for themselves. -/
theorem exists_map_plain {bytes tail : Bytes} (hbackslash : ∀ b ∈ bytes, b ≠ 0x5C)
    (hvalid : literal.Valid) (htext : literal.flatMap Piece.text = bytes ++ tail) :
    ∃ literal', literal = bytes.map .plain ++ literal' ∧ tail = literal'.flatMap Piece.text := by
  induction bytes generalizing literal with
  | nil => exact ⟨literal, rfl, htext.symm⟩
  | cons b bytes ih =>
    obtain ⟨hb, hbytes⟩ := List.forall_mem_cons.1 hbackslash
    cases literal with
    | nil => cases htext
    | cons piece literal =>
      obtain ⟨hpiece, hliteral⟩ := List.forall_mem_cons.1 hvalid
      rw [List.flatMap_cons, List.cons_append] at htext
      rcases Piece.text_cons hpiece with ⟨c, rfl⟩ | ⟨rest, hrest⟩
      · obtain ⟨rfl, htail⟩ := List.cons.inj htext
        obtain ⟨literal', rfl, rfl⟩ := ih hbytes hliteral htail
        exact ⟨literal', rfl, rfl⟩
      · rw [hrest] at htext
        exact absurd (List.cons.inj htext).1.symm hb

/-- A string that begins with a byte that stands for itself begins with a character. -/
theorem exists_raw {b : UInt8} (hvalid : Literal.Valid (.plain b :: literal))
    (hrun : Utf8.run .start (List.flatMap Piece.text (.plain b :: literal)) = some .start)
    (hcontrol : 0x20 ≤ b.toNat) :
    ∃ (c : Char) (literal' : Literal), RendersChar c (String.utf8EncodeChar c) ∧
      Piece.plain b :: literal = (String.utf8EncodeChar c).map .plain ++ literal' ∧
      Utf8.run .start (literal'.flatMap Piece.text) = some .start := by
  obtain ⟨hb, -⟩ := List.forall_mem_cons.1 hvalid
  obtain ⟨c, tail, htext, htail⟩ := Utf8.exists_encode_of_run hrun (List.cons_ne_nil _ _)
  have hhead : ∃ bytes, String.utf8EncodeChar c = b :: bytes := by
    cases hencode : String.utf8EncodeChar c with
    | nil =>
      have hlength := c.utf8Size_pos
      rw [← String.length_utf8EncodeChar, hencode] at hlength
      exact absurd hlength (Nat.lt_irrefl 0)
    | cons d bytes =>
      rw [hencode] at htext
      obtain ⟨rfl, -⟩ := List.cons.inj htext
      exact ⟨bytes, rfl⟩
  obtain ⟨bytes, hbytes⟩ := hhead
  -- an ASCII character is its only byte, and the bytes of the others are none
  have hchar : (0x20 ≤ c.toNat ∧ c ≠ '"' ∧ c ≠ '\\') ∧
      ∀ d ∈ String.utf8EncodeChar c, d ≠ 0x5C := by
    by_cases hascii : c.toNat ≤ 0x7F
    · rw [Utf8.encode1 hascii] at hbytes ⊢
      obtain ⟨rfl, -⟩ := List.cons.inj hbytes
      rw [Utf8.toNat_ofNat (by omega)] at hcontrol
      refine ⟨⟨hcontrol, ?_, ?_⟩, by simpa using hb.2⟩
      · rintro rfl
        exact hb.1 rfl
      · rintro rfl
        exact hb.2 rfl
    · have hle := fun d hd ↦ @Utf8.le_of_mem_encode c (Nat.not_le.1 hascii) d hd
      refine ⟨⟨by omega, ?_, ?_⟩, fun d hd ↦ ?_⟩
      · rintro rfl
        exact hascii (by decide)
      · rintro rfl
        exact hascii (by decide)
      · rintro rfl
        exact absurd (hle _ hd) (by decide)
  obtain ⟨literal', hliteral, rfl⟩ := exists_map_plain hchar.2 hvalid htext
  exact ⟨c, literal', .raw hchar.1.1 hchar.1.2.1 hchar.1.2.2, hliteral, htail⟩

/-- A pair of surrogates is the character that its halves combine to. -/
theorem utf16EncodeChar_combine {high low : ℕ} {c : Char} (hhigh : 0xD800 ≤ high ∧ high ≤ 0xDBFF)
    (hlow : 0xDC00 ≤ low ∧ low ≤ 0xDFFF) (hc : c.toNat = combineSurrogates high low) :
    Utf8.utf16EncodeChar c = [high, low] := by
  have hcode : c.toNat = 0x10000 + (high - 0xD800) * 0x400 + (low - 0xDC00) := by
    rw [hc]
    unfold combineSurrogates
    simp only [Nat.shiftLeft_eq]
  have hfirst : 0xD800 + (c.toNat - 0x10000) / 0x400 = high := by omega
  have hsecond : 0xDC00 + (c.toNat - 0x10000) % 0x400 = low := by omega
  rw [Utf8.utf16EncodeChar, if_neg (by omega), hfirst, hsecond]

/-- **A string begins with a character**, and goes on behind it in UTF-8. -/
theorem exists_rendersChar (hvalid : literal.Valid) (hproper : literal.Proper)
    (hne : literal ≠ []) :
    ∃ (c : Char) (pieces literal' : Literal), literal = pieces ++ literal' ∧ pieces ≠ [] ∧
      RendersChar c (pieces.flatMap Piece.text) ∧
      Utf8.run .start (literal'.flatMap Piece.text) = some .start := by
  obtain ⟨hwell, hcontrol, hlone⟩ := hproper
  obtain ⟨piece, literal, rfl⟩ := List.exists_cons_of_ne_nil hne
  obtain ⟨hpiece, hliteral⟩ := List.forall_mem_cons.1 hvalid
  rw [← Utf8.run_start_iff] at hwell
  -- but for the bytes that stand for themselves, a character is one piece
  suffices hone : (∃ b, piece = .plain b) ∨
      (∀ b, piece ≠ .plain b) ∧ ∃ c, RendersChar c piece.text by
    rcases hone with ⟨b, rfl⟩ | ⟨hplain, c, hc⟩
    · obtain ⟨c, literal', hc, hsplit, hrun⟩ :=
        exists_raw hvalid hwell (hcontrol b (by simp [Piece.text]))
      have htext : List.flatMap Piece.text ((String.utf8EncodeChar c).map .plain) =
          String.utf8EncodeChar c := by
        rw [List.flatMap_map]
        exact List.flatMap_singleton' _
      refine ⟨c, _, literal', hsplit, ?_, by rwa [htext], hrun⟩
      rw [Ne, List.map_eq_nil_iff, ← List.length_eq_zero_iff, String.length_utf8EncodeChar]
      exact Nat.ne_of_gt c.utf8Size_pos
    · rw [List.flatMap_cons] at hwell
      exact ⟨c, [piece], literal, rfl, List.cons_ne_nil _ _, by simpa using hc,
        (Piece.run_escape hpiece hplain hwell).2⟩
  cases piece with
  | plain b => exact .inl ⟨b, rfl⟩
  | short c e => exact .inr ⟨by simp, c, .short hpiece⟩
  | unit u escape =>
    obtain ⟨hescape, hhigh⟩ := hpiece
    have hlow : ¬(0xDC00 ≤ u ∧ u ≤ 0xDFFF) := fun h ↦ hlone ⟨_, List.mem_cons_self, h⟩
    have hlt := hescape.lt
    obtain ⟨c, rfl⟩ := @Utf8.exists_char u (by omega)
    refine .inr ⟨by simp, c, .unit ?_ hescape⟩
    rw [Utf8.utf16EncodeChar, if_pos (by omega)]
  | pair high low escape escape' =>
    obtain ⟨hescape, hescape', hhigh, hlow⟩ := hpiece
    obtain ⟨hfirst, hlast⟩ := combineSurrogates_le hhigh hlow
    obtain ⟨c, hc⟩ := @Utf8.exists_char (combineSurrogates high low) (by omega)
    exact .inr ⟨by simp, c, .pair (utf16EncodeChar_combine hhigh hlow hc) hescape hescape'⟩

/-- The text of a string that is proper consists of characters. -/
theorem exists_rendersChars (hvalid : literal.Valid) (hproper : literal.Proper) :
    ∃ s, RendersChars s (literal.flatMap Piece.text) := by
  obtain ⟨n, hn⟩ : ∃ n, literal.length = n := ⟨_, rfl⟩
  induction n using Nat.strong_induction_on generalizing literal with
  | _ n ih =>
    rcases eq_or_ne literal [] with rfl | hne
    · exact ⟨[], .nil⟩
    obtain ⟨c, pieces, literal', rfl, hpieces, hc, hrun⟩ :=
      exists_rendersChar hvalid hproper hne
    have hlength := List.length_pos_of_ne_nil hpieces
    rw [List.length_append] at hn
    have hproper' : Literal.Proper literal' := by
      obtain ⟨-, hcontrol, hlone⟩ := hproper
      refine ⟨Utf8.run_start_iff.1 hrun, fun b hb ↦ hcontrol b ?_, ?_⟩
      · rw [List.flatMap_append]
        exact List.mem_append_right _ hb
      · rintro ⟨piece, hpiece, hlow⟩
        exact hlone ⟨piece, List.mem_append_right _ hpiece, hlow⟩
    obtain ⟨s, hs⟩ := ih literal'.length (by omega) (List.forall_mem_append.1 hvalid).2 hproper' rfl
    refine ⟨c :: s, ?_⟩
    rw [List.flatMap_append]
    exact .cons hc hs

/-- What the string adds is what its text denotes. -/
theorem bytes_rendersChars (hvalid : literal.Valid)
    (h : RendersChars s (literal.flatMap Piece.text)) :
    literal.flatMap Piece.bytes = utf8Text s := by
  have hread := parseString_adds hvalid.adds []
  rw [parseString_adds (adds_rendersChars h) []] at hread
  exact (Prod.mk.inj (Except.ok.inj hread)).1.symm

/-- **The strings of the grammar** are those that are proper. -/
theorem Literal.proper_iff (hvalid : literal.Valid) :
    literal.Proper ↔ ∃ s, RendersChars s (literal.flatMap Piece.text) := by
  refine ⟨exists_rendersChars hvalid, fun ⟨s, hs⟩ ↦ ?_⟩
  obtain ⟨hcontrol, hwell⟩ := (isChars_rendersChars hs).bytes
  have hbytes : Utf8.WellFormed (literal.flatMap Piece.bytes) :=
    ⟨s, bytes_rendersChars hvalid hs⟩
  exact ⟨hwell, hcontrol,
    (Literal.run_bytes_iff hvalid (Utf8.run_start_iff.2 hwell)).1 (Utf8.run_start_iff.2 hbytes)⟩

/-- A string of the grammar, between its quotes. -/
theorem proper_quoted (hvalid : literal.Valid) (h : RendersString s (Tree.quoted literal)) :
    literal.Proper := by
  generalize htext : Tree.quoted literal = text at h
  obtain ⟨hs⟩ := h
  rw [Tree.quoted, List.cons.injEq] at htext
  obtain rfl := List.append_cancel_right htext.2
  exact (Literal.proper_iff hvalid).2 ⟨s, hs⟩

/-! ### White space and commas -/

/-- What stands before an element, a member or a closing bracket has this many commas and no form
feed. -/
def Separated (commas : ℕ) (gap : Bytes) : Prop := gap.count 0x2C = commas ∧ 0x0C ∉ gap

instance (commas : ℕ) (gap : Bytes) : Decidable (Separated commas gap) :=
  inferInstanceAs (Decidable (_ ∧ _))

section Gaps

variable {first : Bool} {gap blanks : Bytes}

theorem separated_whitespace (h : Whitespace blanks) : Separated 0 blanks := by
  refine ⟨List.count_eq_zero.2 fun hc ↦ ?_, fun hc ↦ ?_⟩
  · exact absurd (h _ hc) (by decide)
  · exact absurd (h _ hc) (by decide)

/-- Blanks are white space but for form feeds. -/
theorem whitespace_iff (h : Blank blanks) : Whitespace blanks ↔ 0x0C ∉ blanks := by
  refine ⟨fun hwhite ↦ (separated_whitespace hwhite).2, fun hfeed c hc ↦ ?_⟩
  rcases h c hc with rfl | rfl | rfl | rfl | rfl
  · exact .inl rfl
  · exact .inr (.inr (.inl rfl))
  · exact .inr (.inr (.inr rfl))
  · exact .inr (.inl rfl)
  · exact absurd hc hfeed

theorem separated_zero_iff (h : Gap first gap) : Separated 0 gap ↔ Whitespace gap := by
  refine ⟨fun ⟨hcommas, hfeed⟩ ↦ (whitespace_iff fun c hc ↦ ?_).2 hfeed, separated_whitespace⟩
  rcases h c hc with hblank | ⟨-, rfl⟩
  · exact hblank
  · exact absurd hc (List.count_eq_zero.1 hcommas)

/-- **What the grammar asks for** between elements and members. -/
theorem separated_iff (h : Gap first gap) :
    Separated (if first then 0 else 1) gap ↔ Separates first gap := by
  cases first with
  | true =>
    rw [if_pos rfl, separated_zero_iff h]
    refine ⟨.first, fun hseparates ↦ ?_⟩
    cases hseparates with
    | first hwhite => exact hwhite
  | false =>
    rw [if_neg Bool.false_ne_true]
    constructor
    · rintro ⟨hcommas, hfeed⟩
      have hmem : 0x2C ∈ gap := List.count_pos_iff.1 (hcommas ▸ Nat.one_pos)
      obtain ⟨before, after, rfl⟩ := List.append_of_mem hmem
      obtain ⟨hbefore, hafter⟩ := List.forall_mem_append.1 h
      rw [List.count_append, List.count_cons_self] at hcommas
      rw [List.mem_append, List.mem_cons, not_or, not_or] at hfeed
      exact .comma ((separated_zero_iff hbefore).1 ⟨by omega, hfeed.1⟩)
        ((separated_zero_iff (List.forall_mem_cons.1 hafter).2).1 ⟨by omega, hfeed.2.2⟩)
    · intro hseparates
      cases hseparates with
      | comma hbefore hafter =>
        obtain ⟨hcommas, hfeed⟩ := separated_whitespace hbefore
        obtain ⟨hcommas', hfeed'⟩ := separated_whitespace hafter
        refine ⟨?_, ?_⟩
        · rw [List.count_append, List.count_cons_self, hcommas, hcommas']
        · rw [List.mem_append, List.mem_cons, not_or, not_or]
          exact ⟨hfeed, by decide, hfeed'⟩

end Gaps

/-! ### Trees of the grammar -/

namespace Tree

mutual

/-- Numbers fit, strings and keys are proper, and the separators are those of the grammar: one comma
between elements or members, none before the first or behind the last, and no form feed. -/
def Strict : Tree → Prop
  | null => True
  | bool _ => True
  | number text _ => Fits text
  | string literal => literal.Proper
  | array elements close => StrictElements true elements ∧ Separated 0 close
  | object members close => StrictMembers true members ∧ Separated 0 close

/-- The elements that are left. -/
def StrictElements : Bool → List (Bytes × Tree) → Prop
  | _, [] => True
  | first, (gap, element) :: elements =>
    Separated (if first then 0 else 1) gap ∧ Strict element ∧ StrictElements false elements

/-- The members that are left. -/
def StrictMembers : Bool → List (Bytes × Literal × Bytes × Bytes × Tree) → Prop
  | _, [] => True
  | first, (gap, key, before, after, element) :: members =>
    Separated (if first then 0 else 1) gap ∧ key.Proper ∧ (0x0C ∉ before ∧ 0x0C ∉ after) ∧
      Strict element ∧ StrictMembers false members

end

end Tree

/-- A string between its quotes. -/
theorem rendersString_quoted (h : literal.Valid) (hproper : literal.Proper) :
    ∃ s, RendersString s (Tree.quoted literal) ∧ literal.flatMap Piece.bytes = utf8Text s := by
  obtain ⟨s, hs⟩ := exists_rendersChars h hproper
  exact ⟨s, .quoted hs, bytes_rendersChars h hs⟩

mutual

/-- **What is read strictly** denotes its value. -/
theorem denotes_strict (hfloats : ReadsNearest floats) : ∀ {tree : Tree} {rest : Bytes},
    Takes floats tree rest → tree.Strict → Denotes tree.text tree.value
  | _, _, .null, _ => by
    rw [Tree.text, Tree.value]
    exact .null
  | _, _, @Takes.bool _ true _, _ => by
    rw [Tree.text, Tree.value]
    exact .true
  | _, _, @Takes.bool _ false _, _ => by
    rw [Tree.text, Tree.value]
    exact .false
  | _, _, .number htext h, hstrict => by
    rw [Tree.Strict] at hstrict
    rw [Tree.text, Tree.value]
    exact .number htext (denotesNumber_of_fits hfloats h hstrict)
  | _, _, .string h, hstrict => by
    rw [Tree.Strict] at hstrict
    obtain ⟨s, hs, hbytes⟩ := rendersString_quoted h hstrict
    rw [Tree.text, Tree.value, hbytes]
    exact .string hs
  | _, _, .array h hclose, hstrict => by
    rw [Tree.Strict] at hstrict
    have helements := denotesElements_strict hfloats h hstrict.1
      ((separated_zero_iff hclose).1 hstrict.2)
    rw [Tree.text, Tree.value, ← List.append_assoc]
    exact .array helements
  | _, _, .object h hclose, hstrict => by
    rw [Tree.Strict] at hstrict
    have hmembers := denotesMembers_strict hfloats h hstrict.1
      ((separated_zero_iff hclose).1 hstrict.2) []
    rw [Tree.text, Tree.value, ← List.append_assoc]
    exact .object hmembers

theorem denotesElements_strict (hfloats : ReadsNearest floats) :
    ∀ {first : Bool} {elements : List (Bytes × Tree)} {close rest : Bytes},
    TakesElements floats first elements rest → Tree.StrictElements first elements →
    Whitespace close →
    DenotesElements first (Tree.textElements elements ++ close) (Tree.valueElements elements)
  | _, _, _, _, .nil, _, hclose => by
    rw [Tree.textElements, Tree.valueElements]
    exact .nil hclose
  | _, _, _, _, .cons hgap h hs, hstrict, hclose => by
    rw [Tree.StrictElements] at hstrict
    obtain ⟨hcommas, helement, helements⟩ := hstrict
    rw [Tree.textElements, Tree.valueElements, List.append_assoc, List.append_assoc]
    exact .cons ((separated_iff hgap).1 hcommas) (denotes_strict hfloats h helement)
      (denotesElements_strict hfloats hs helements hclose)

theorem denotesMembers_strict (hfloats : ReadsNearest floats) :
    ∀ {first : Bool} {members : List (Bytes × Literal × Bytes × Bytes × Tree)}
    {close rest : Bytes}, TakesMembers floats first members rest →
    Tree.StrictMembers first members → Whitespace close → ∀ entries : List (Bytes × Value),
    DenotesMembers first (Tree.textMembers members ++ close) entries
      (Tree.valueMembers members entries)
  | _, _, _, _, .nil, _, hclose, entries => by
    rw [Tree.textMembers, Tree.valueMembers]
    exact .nil hclose
  | _, _, _, _, .cons hgap hkey hbefore hafter h hs, hstrict, hclose, entries => by
    rw [Tree.StrictMembers] at hstrict
    obtain ⟨hcommas, hproper, hfeeds, helement, hmembers⟩ := hstrict
    obtain ⟨s, hs', hbytes⟩ := rendersString_quoted hkey hproper
    simp only [Tree.textMembers, List.append_assoc, List.cons_append]
    rw [Tree.valueMembers, hbytes]
    exact .cons ((separated_iff hgap).1 hcommas) hs' ((whitespace_iff hbefore).2 hfeeds.1)
      ((whitespace_iff hafter).2 hfeeds.2) (denotes_strict hfloats h helement)
      (denotesMembers_strict hfloats hs hmembers hclose _)

end

end Touchless.Value
