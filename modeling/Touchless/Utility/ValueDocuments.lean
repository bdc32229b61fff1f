import Mathlib.Tactic.IntervalCases
import Touchless.Foundations.Json
import Touchless.Utility.ValueCanonical
import Touchless.Utility.ValueWide

/-!
# Every text of a document is read

The value of a JSON document has its strings in UTF-8, its integers by value, and a hash for each
object, in which the last of several equal keys wins. However a document is written, the reader
returns its value (`fromJSON_rendersText`).

The proof goes through the grammar as the reader does: one lemma for each kind of token, stated for
an arbitrary continuation of the text, and then one induction on the document. What may change is
the C++ type of an integer, which the reader chooses by its size.
-/

namespace Touchless.Value

open Json

/-! ### What a document denotes -/

mutual

/-- The value of a document, with a choice of the type of its integers. -/
def ofDocument (integer : ℤ → Value) : Document → Value
  | .null => null
  | .bool b => bool b
  | .integer n => integer n.value
  | .string text => string (utf8Text text)
  | .array elements => array (ofElements integer elements)
  | .object members => hash (ofMembers integer members [])

/-- The values of the elements. -/
def ofElements (integer : ℤ → Value) : List Document → List Value
  | [] => []
  | element :: elements => ofDocument integer element :: ofElements integer elements

/-- The entries that the members make of those before them. -/
def ofMembers (integer : ℤ → Value) :
    List (List Char × Document) → List (Bytes × Value) → List (Bytes × Value)
  | [], entries => entries
  | (key, element) :: members, entries =>
    ofMembers integer members
      (SortedAssoc.insert (utf8Text key) (ofDocument integer element) entries)

end

/-- The value of a document. -/
def denoted (document : Document) : Value := ofDocument ofInt document

theorem utf8Text_injective : Function.Injective utf8Text := by
  intro text text' h
  have hwide : wideText .four text = wideText .four text' := by
    have hdecode : decodeLoop .four (utf8Text text) [] 0 0 = [] ++ wideText .four text :=
      decodeLoop_utf8Text text []
    rw [h, decodeLoop_utf8Text] at hdecode
    exact hdecode.symm
  have hmap : ∀ s : List Char, wideText .four s = s.map Char.toNat := fun s ↦
    (List.map_eq_flatMap).symm
  rw [hmap, hmap] at hwide
  exact List.map_injective_iff.2 (fun _ _ ↦ Char.toNat_inj.1) hwide

/-- **The last of several equal keys wins.** -/
theorem find?_ofMembers (integer : ℤ → Value) (key : List Char)
    (members : List (List Char × Document)) : ∀ entries : List (Bytes × Value),
    SortedAssoc.find? (utf8Text key) (ofMembers integer members entries) =
      ((members.reverse.find? fun m ↦ m.1 = key).map fun m ↦ ofDocument integer m.2).or
        (SortedAssoc.find? (utf8Text key) entries) := by
  induction members with
  | nil => exact fun entries ↦ rfl
  | cons member members ih =>
    intro entries
    obtain ⟨key', element⟩ := member
    have hlast : ((key', element) :: members).reverse.find? (fun m ↦ m.1 = key) =
        (members.reverse.find? fun m ↦ m.1 = key).or
          (if key' = key then some (key', element) else none) := by
      rw [List.reverse_cons, List.find?_append]
      by_cases hkey : key' = key <;> simp [hkey]
    rw [ofMembers, ih, SortedAssoc.find?_insert, hlast]
    by_cases hkey : key' = key
    · rw [if_pos (congrArg utf8Text hkey.symm), if_pos hkey]
      cases members.reverse.find? fun m ↦ m.1 = key <;> rfl
    · rw [if_neg fun h ↦ hkey (utf8Text_injective h).symm, if_neg hkey, Option.or_none]

/-! ### White space -/

theorem blank_whitespace {text : Bytes} (h : Whitespace text) : Blank text := by
  intro c hc
  rcases h c hc with rfl | rfl | rfl | rfl <;> decide

/-- What the reader passes over before an element, a member or a closing bracket: blanks, and behind
the first element also commas. -/
def Gap (first : Bool) (text : Bytes) : Prop :=
  ∀ c ∈ text, (c = 0x20 ∨ c = 0x0A ∨ c = 0x0D ∨ c = 0x09 ∨ c = 0x0C) ∨ first = false ∧ c = 0x2C

section Gaps

variable {first : Bool} {gap gap' : Bytes}

theorem gap_blank (h : Blank gap) : Gap first gap := fun c hc ↦ .inl (h c hc)

theorem gap_comma : Gap false [0x2C] := by simp [Gap]

theorem Gap.append (h : Gap first gap) (h' : Gap first gap') : Gap first (gap ++ gap') :=
  List.forall_mem_append.2 ⟨h, h'⟩

theorem gap_separates (h : Separates first gap) : Gap first gap := by
  cases h with
  | first h => exact gap_blank (blank_whitespace h)
  | @comma before after hbefore hafter =>
    have hcomma : before ++ 0x2C :: after = before ++ ([0x2C] ++ after) := rfl
    rw [hcomma]
    exact (gap_blank (blank_whitespace hbefore)).append
      (gap_comma.append (gap_blank (blank_whitespace hafter)))

end Gaps

/-! ### Characters of strings -/

/-- The loop of `parseString` reads `text` and adds `bytes` to the string, in at most one step for
each byte of the text. -/
def Adds (text bytes : Bytes) : Prop :=
  ∃ steps ≤ text.length, ∀ fuel value stream,
    parseStringLoop (fuel + steps) value (text ++ stream) =
      parseStringLoop fuel (value ++ bytes) stream

theorem adds_nil : Adds [] [] := ⟨0, le_refl _, fun fuel value stream ↦ by simp⟩

theorem Adds.append {text text' bytes bytes' : Bytes} (h : Adds text bytes)
    (h' : Adds text' bytes') : Adds (text ++ text') (bytes ++ bytes') := by
  obtain ⟨steps, hsteps, hloop⟩ := h
  obtain ⟨steps', hsteps', hloop'⟩ := h'
  refine ⟨steps' + steps, by rw [List.length_append]; omega, fun fuel value stream ↦ ?_⟩
  rw [← Nat.add_assoc, List.append_assoc, hloop, hloop', List.append_assoc]

/-- A byte that is no quote and no backslash is taken as it is. -/
theorem adds_byte {b : UInt8} (h : b ≠ 0x22 ∧ b ≠ 0x5C) : Adds [b] [b] := by
  refine ⟨1, le_refl _, fun fuel value stream ↦ ?_⟩
  rw [List.singleton_append, parseStringLoop, getChar, ok_bind]
  dsimp only
  rw [if_neg h.1, if_neg h.2]

theorem adds_bytes {bytes : Bytes} (h : ∀ b ∈ bytes, b ≠ 0x22 ∧ b ≠ 0x5C) : Adds bytes bytes := by
  induction bytes with
  | nil => exact adds_nil
  | cons b bytes ih =>
    exact (adds_byte (h b List.mem_cons_self)).append
      (ih fun b' hb' ↦ h b' (List.mem_cons_of_mem b hb'))

/-- An escape adds what `parseEscape` makes of it. -/
theorem adds_escape {text bytes : Bytes}
    (h : ∀ stream, parseEscape (text ++ stream) = .ok (bytes, stream)) :
    Adds (0x5C :: text) bytes := by
  refine ⟨1, Nat.succ_pos _, fun fuel value stream ↦ ?_⟩
  rw [List.cons_append, parseStringLoop, getChar, ok_bind]
  dsimp only
  rw [if_neg (by decide), if_pos rfl, h stream, ok_bind]

theorem adds_short {c : Char} {e : UInt8} (h : (c, e) ∈ shortEscapes) :
    Adds [0x5C, e] (String.utf8EncodeChar c) := by
  refine adds_escape fun stream ↦ ?_
  simp only [shortEscapes, List.mem_cons, Prod.mk.injEq, List.not_mem_nil, or_false] at h
  rcases h with ⟨rfl, rfl⟩ | ⟨rfl, rfl⟩ | ⟨rfl, rfl⟩ | ⟨rfl, rfl⟩ | ⟨rfl, rfl⟩ | ⟨rfl, rfl⟩ |
    ⟨rfl, rfl⟩ | ⟨rfl, rfl⟩ <;> rfl

/-! ### Unicode escapes -/

theorem getHexDigitAsNibble_hexDigit {d : UInt8} {k : ℕ} (h : HexDigit d k) (stream : Bytes) :
    getHexDigitAsNibble (d :: stream) = .ok (k, stream) := by
  have hk := h.lt
  rcases h with h | h <;> interval_cases k <;> (cases h; rfl)

/-- Four digits, by shifts. -/
theorem nibbles {k₀ k₁ k₂ k₃ : ℕ} (h₁ : k₁ < 16) (h₂ : k₂ < 16) (h₃ : k₃ < 16) :
    k₀ <<< 12 ||| k₁ <<< 8 ||| k₂ <<< 4 ||| k₃ = ((k₀ * 16 + k₁) * 16 + k₂) * 16 + k₃ := by
  have hfirst : k₀ <<< 12 ||| k₁ <<< 8 = (k₀ * 16 + k₁) * 256 := by
    rw [Nat.shiftLeft_eq, Nat.shiftLeft_eq, Utf8.or_low 12 k₀ (2 ^ 12) rfl rfl (by omega)]
    omega
  have hsecond : k₀ <<< 12 ||| k₁ <<< 8 ||| k₂ <<< 4 = ((k₀ * 16 + k₁) * 16 + k₂) * 16 := by
    rw [hfirst, Nat.shiftLeft_eq, Utf8.or_low 8 _ 256 rfl (by decide) (by omega)]
    omega
  rw [hsecond]
  exact Utf8.or_low 4 _ 16 rfl (by decide) h₃

/-- Behind `\u`, `getUnicode` reads the code unit. -/
theorem getUnicode_unicodeEscape {u : ℕ} {text : Bytes} (h : UnicodeEscape u text) :
    ∃ digits, text = 0x5C :: 0x75 :: digits ∧
      ∀ stream, getUnicode (digits ++ stream) = .ok (u, stream) := by
  cases h with
  | @digits d₀ d₁ d₂ d₃ k₀ k₁ k₂ k₃ h₀ h₁ h₂ h₃ =>
    refine ⟨[d₀, d₁, d₂, d₃], rfl, fun stream ↦ ?_⟩
    simp only [getUnicode, List.cons_append, List.nil_append, getHexDigitAsNibble_hexDigit h₀,
      getHexDigitAsNibble_hexDigit h₁, getHexDigitAsNibble_hexDigit h₂,
      getHexDigitAsNibble_hexDigit h₃, ok_bind, nibbles h₁.lt h₂.lt h₃.lt]
    rfl

/-- The bytes of a scalar value. -/
theorem utf8_toNat (c : Char) : utf8 c.toNat = some (String.utf8EncodeChar c) := by
  have hscalar := Utf8.toNat_scalar c
  rw [utf8]
  split_ifs with h1 h2 h3 h4
  · rw [Utf8.encode1 h1]
  · rw [Utf8.encode2 (by omega) h2, Utf8.bytes2]
  · rw [Utf8.encode3 (by omega) h3, Utf8.bytes3]
  · rw [Utf8.encode4 (by omega), Utf8.bytes4]
  · omega

/-- The second half of a pair. -/
theorem parseSurrogate_pair {high low : ℕ} {text : Bytes} (hhigh : 0xD800 ≤ high ∧ high ≤ 0xDBFF)
    (hlow : 0xDC00 ≤ low ∧ low ≤ 0xDFFF) (h : UnicodeEscape low text) (stream : Bytes) :
    parseSurrogate high (text ++ stream) = .ok (combineSurrogates high low, stream) := by
  obtain ⟨digits, rfl, hdigits⟩ := getUnicode_unicodeEscape h
  have hpair : ¬(low < 0xDC00 ∨ 0xDFFF < low) := by omega
  rw [parseSurrogate, if_pos hhigh]
  simp only [List.cons_append, requireChar, peekChar, ok_bind, if_true, List.tail_cons, pure,
    Except.pure, hdigits, if_neg hpair]
  rfl

/-- What an escape adds, once its number is read. -/
theorem adds_unicodeEscape {text bytes : Bytes} (more : Bytes) {u unicode : ℕ}
    (htext : ∀ stream, getUnicode (text ++ stream) = .ok (u, more ++ stream))
    (hsurrogate : ∀ stream, parseSurrogate u (more ++ stream) = .ok (unicode, stream))
    (hbytes : utf8 unicode = some bytes) : Adds (0x5C :: 0x75 :: text) bytes := by
  refine adds_escape fun stream ↦ ?_
  have hunicode : parseUnicodeEscape (text ++ stream) = .ok (bytes, stream) := by
    rw [parseUnicodeEscape, htext stream, ok_bind]
    dsimp only
    rw [hsurrogate stream, ok_bind]
    dsimp only
    rw [hbytes]
    rfl
  exact hunicode

/-- An escape of a code unit that is no first half of a pair. -/
theorem adds_unit {u : ℕ} {text bytes : Bytes} (hhigh : ¬(0xD800 ≤ u ∧ u ≤ 0xDBFF))
    (htext : UnicodeEscape u text) (hbytes : utf8 u = some bytes) : Adds text bytes := by
  obtain ⟨digits, rfl, hdigits⟩ := getUnicode_unicodeEscape htext
  exact adds_unicodeEscape [] hdigits (fun stream ↦ if_neg hhigh) hbytes

/-- The escapes of a pair of surrogates. -/
theorem adds_pair {high low : ℕ} {text text' bytes : Bytes}
    (hhigh : 0xD800 ≤ high ∧ high ≤ 0xDBFF) (hlow : 0xDC00 ≤ low ∧ low ≤ 0xDFFF)
    (htext : UnicodeEscape high text) (htext' : UnicodeEscape low text')
    (hbytes : utf8 (combineSurrogates high low) = some bytes) : Adds (text ++ text') bytes := by
  obtain ⟨digits, rfl, hdigits⟩ := getUnicode_unicodeEscape htext
  have hread : ∀ stream, getUnicode ((digits ++ text') ++ stream) = .ok (high, text' ++ stream) :=
    fun stream ↦ by rw [List.append_assoc, hdigits]
  exact adds_unicodeEscape text' hread (parseSurrogate_pair hhigh hlow htext') hbytes

/-! ### Strings -/

/-- **A character is read**, in whichever way it is written. -/
theorem adds_rendersChar {c : Char} {text : Bytes} (h : RendersChar c text) :
    Adds text (String.utf8EncodeChar c) := by
  cases h with
  | raw _ hquote hbackslash => exact adds_bytes fun b ↦ ne_of_mem_raw hquote hbackslash
  | short h => exact adds_short h
  | unit hunits h =>
    rw [Utf8.utf16EncodeChar] at hunits
    split_ifs at hunits with hc
    · cases hunits
      have hscalar := Utf8.toNat_scalar c
      exact adds_unit (by omega) h (utf8_toNat c)
    · cases hunits
  | pair hunits h h' =>
    rw [Utf8.utf16EncodeChar] at hunits
    split_ifs at hunits with hc
    · cases hunits
    · have hhigh := (List.cons.inj hunits).1
      have hlow := (List.cons.inj (List.cons.inj hunits).2).1
      have hscalar := Utf8.toNat_scalar c
      have hcombine := combineSurrogates_units (Nat.not_le.1 hc)
      rw [hhigh, hlow] at hcombine
      exact adds_pair (by omega) (by omega) h h' (by rw [hcombine, utf8_toNat])

theorem adds_rendersChars {s : List Char} {text : Bytes} (h : RendersChars s text) :
    Adds text (utf8Text s) := by
  induction h with
  | nil => exact adds_nil
  | cons h _ ih =>
    rw [utf8Text, List.flatMap_cons]
    exact (adds_rendersChar h).append ih

/-- What the loop adds, up to the quote. -/
theorem parseString_adds {text bytes : Bytes} (h : Adds text bytes) (stream : Bytes) :
    parseString (0x22 :: (text ++ 0x22 :: stream)) = .ok (bytes, stream) := by
  obtain ⟨steps, hsteps, hloop⟩ := h
  obtain ⟨fuel, hfuel⟩ : ∃ fuel, (text ++ 0x22 :: stream).length + 1 = fuel + 1 + steps := by
    refine ⟨(text ++ 0x22 :: stream).length - steps, ?_⟩
    rw [List.length_append]
    omega
  have hread : parseStringLoop ((text ++ 0x22 :: stream).length + 1) [] (text ++ 0x22 :: stream) =
      .ok (bytes, stream) := by
    rw [hfuel, hloop]
    rfl
  exact hread

/-- **Strings** are read as their UTF-8 form. -/
theorem adds_rendersString {s : List Char} {text : Bytes} (h : RendersString s text) :
    ∃ chars, text = 0x22 :: (chars ++ [0x22]) ∧ Adds chars (utf8Text s) := by
  cases h with
  | quoted h => exact ⟨_, rfl, adds_rendersChars h⟩

/-! ### What a text begins with -/

theorem integer_head {n : ℤ} {text : Bytes} (h : RendersInteger n text) :
    ∃ c tail, text = c :: tail ∧ (c = 0x2D ∨ isDigit c = true) := by
  cases h with
  | decimal n => exact decimalInt_head n
  | minusZero => exact ⟨0x2D, [0x30], rfl, Or.inl rfl⟩

theorem renders_head {document : Document} {text : Bytes} (h : Renders document text) :
    ∃ c tail, text = c :: tail ∧ Starts c := by
  cases h with
  | null => exact ⟨0x6E, _, rfl, by decide⟩
  | true => exact ⟨0x74, _, rfl, by decide⟩
  | false => exact ⟨0x66, _, rfl, by decide⟩
  | integer h =>
    rcases integer_head h with ⟨c, tail, rfl, rfl | hdigit⟩
    · exact ⟨_, tail, rfl, by decide⟩
    · exact ⟨c, tail, rfl, starts_isDigit hdigit⟩
  | string h =>
    obtain ⟨chars, rfl, -⟩ := adds_rendersString h
    exact ⟨0x22, _, rfl, by decide⟩
  | array h => exact ⟨0x5B, _, rfl, by decide⟩
  | object h => exact ⟨0x7B, _, rfl, by decide⟩

variable {floats : FloatText} {text rest : Bytes} {first : Bool} {fuel : ℕ}

/-- Behind an element there is nothing that could belong to a number: there is a separator, or what
closes the brackets. -/
theorem follows_close {close : UInt8}
    (hclose : isDigit close = false ∧ close ≠ 0x2E ∧ close ≠ 0x45 ∧ close ≠ 0x65)
    (h : Whitespace text ∨ ∃ separator more, Separates false separator ∧ text = separator ++ more)
    (rest : Bytes) : Follows (text ++ close :: rest) := by
  rcases h with h | ⟨separator, more, hseparator, rfl⟩
  · exact follows_blank (blank_whitespace h) (follows_cons hclose)
  · cases hseparator with
    | comma hbefore hafter =>
      rw [List.append_assoc, List.append_assoc, List.cons_append]
      exact follows_blank (blank_whitespace hbefore) (follows_cons (by decide))

theorem follows_elements {elements : List Document} (h : RendersElements false elements text)
    (rest : Bytes) : Follows (text ++ 0x5D :: rest) := by
  cases h with
  | nil h => exact follows_close (by decide) (.inl h) rest
  | cons hseparator _ _ => exact follows_close (by decide) (.inr ⟨_, _, hseparator, rfl⟩) rest

theorem follows_members {members : List (List Char × Document)}
    (h : RendersMembers false members text) (rest : Bytes) : Follows (text ++ 0x7D :: rest) := by
  cases h with
  | nil h => exact follows_close (by decide) (.inl h) rest
  | cons hseparator _ _ _ _ _ =>
    exact follows_close (by decide) (.inr ⟨_, _, hseparator, rfl⟩) rest

/-! ### Integers -/

/-- An integer is read with its value, zero also with a sign. -/
theorem parseValue_integer {n : ℤ} (h : RendersInteger n text) (fuel : ℕ) (hrest : Follows rest) :
    parseValue floats (fuel + 1) (text ++ rest) = .ok (ofInteger n, rest) := by
  cases h with
  | decimal n => exact parseValue_decimalInt n fuel hrest
  | minusZero =>
    have hnumber : parseNumber floats (0x2D :: (decimal 0 ++ rest)) =
        .ok (readInteger false 0, rest) := parseNumber_minus 0 hrest
    rw [decimal_zero] at hnumber
    exact (parseValue_number (Or.inl rfl) fuel _).trans hnumber

/-! ### The steps of the loops -/

theorem parseObjectLoop_blank {blanks : Bytes} (h : Blank blanks) (fuel : ℕ)
    (entries : List (Bytes × Value)) (stream : Bytes) :
    parseObjectLoop floats fuel entries (blanks ++ stream) =
      parseObjectLoop floats fuel entries stream := by
  cases fuel with
  | zero => rfl
  | succ fuel => rw [parseObjectLoop, parseObjectLoop, skipWhitespace_blank h]

/-- A loop that skips blanks and takes commas comes past a gap. -/
theorem exists_fuel_gap {β : Type} (loop : ℕ → Bytes → β) {gap stream : Bytes}
    (hblank : ∀ blanks, Blank blanks → ∀ fuel stream,
      loop fuel (blanks ++ stream) = loop fuel stream)
    (hcomma : first = false → ∀ fuel stream, loop (fuel + 1) (0x2C :: stream) = loop fuel stream)
    (h : Gap first gap) (hfuel : 2 * (gap ++ stream).length + 1 ≤ fuel) :
    ∃ fuel', 2 * stream.length ≤ fuel' ∧ loop fuel (gap ++ stream) = loop (fuel' + 1) stream := by
  induction gap generalizing fuel with
  | nil =>
    rw [List.nil_append] at hfuel
    obtain ⟨fuel, rfl⟩ : ∃ k, fuel = k + 1 := ⟨fuel - 1, by omega⟩
    exact ⟨fuel, by omega, rfl⟩
  | cons c gap ih =>
    obtain ⟨hc, hgap⟩ := List.forall_mem_cons.1 h
    rw [List.cons_append, List.length_cons] at hfuel
    rcases hc with hc | ⟨hfirst, rfl⟩
    · obtain ⟨fuel', hle, hloop⟩ := @ih fuel hgap (by omega)
      exact ⟨fuel', hle, by rw [← hloop]; exact hblank [c] (by simpa [Blank] using hc) _ _⟩
    · obtain ⟨fuel, rfl⟩ : ∃ k, fuel = k + 1 := ⟨fuel - 1, by omega⟩
      obtain ⟨fuel', hle, hloop⟩ := @ih fuel hgap (by omega)
      exact ⟨fuel', hle, by rw [List.cons_append, hcomma hfirst, hloop]⟩

theorem parseArrayLoop_gap {gap stream : Bytes} {elements : List Value}
    (helements : first = false → elements ≠ []) (h : Gap first gap)
    (hfuel : 2 * (gap ++ stream).length + 1 ≤ fuel) :
    ∃ fuel', 2 * stream.length ≤ fuel' ∧
      parseArrayLoop floats fuel elements (gap ++ stream) =
        parseArrayLoop floats (fuel' + 1) elements stream :=
  exists_fuel_gap (fun fuel ↦ parseArrayLoop floats fuel elements)
    (fun _ hblank fuel ↦ parseArrayLoop_blank hblank fuel elements)
    (fun hfirst ↦ parseArrayLoop_comma (helements hfirst)) h hfuel

theorem parseObjectLoop_gap {gap stream : Bytes} {entries : List (Bytes × Value)}
    (hentries : first = false → entries ≠ []) (h : Gap first gap)
    (hfuel : 2 * (gap ++ stream).length + 1 ≤ fuel) :
    ∃ fuel', 2 * stream.length ≤ fuel' ∧
      parseObjectLoop floats fuel entries (gap ++ stream) =
        parseObjectLoop floats (fuel' + 1) entries stream :=
  exists_fuel_gap (fun fuel ↦ parseObjectLoop floats fuel entries)
    (fun _ hblank fuel ↦ parseObjectLoop_blank hblank fuel entries)
    (fun hfirst ↦ parseObjectLoop_comma (hentries hfirst)) h hfuel

/-- A key and its colon. -/
theorem parseObjectLoop_name {key text before : Bytes} (hkey : Adds text key)
    (hbefore : Blank before) (fuel : ℕ) (entries : List (Bytes × Value)) (stream : Bytes) :
    parseObjectLoop floats (fuel + 1) entries
        (0x22 :: (text ++ 0x22 :: (before ++ 0x3A :: stream))) =
      (parseValue floats fuel stream >>= fun r ↦
        parseObjectLoop floats fuel (SortedAssoc.insert key r.1 entries) r.2) := by
  have hstring := parseString_adds hkey (before ++ 0x3A :: stream)
  rw [parseObjectLoop, skipWhitespace_cons (by decide)]
  simp only [ok_bind, peekChar, hstring, skipWhitespace_blank hbefore,
    skipWhitespace_cons (by decide : ¬((0x3A : UInt8) = 0x20 ∨ (0x3A : UInt8) = 0x0A ∨
      (0x3A : UInt8) = 0x0D ∨ (0x3A : UInt8) = 0x09 ∨ (0x3A : UInt8) = 0x0C))]
  rfl

/-- A string. -/
theorem parseValue_string {text bytes : Bytes} (h : Adds text bytes) (fuel : ℕ) (stream : Bytes) :
    parseValue floats (fuel + 1) (0x22 :: (text ++ 0x22 :: stream)) =
      .ok (string bytes, stream) := by
  have hstring := parseString_adds h stream
  rw [parseValue, skipWhitespace_cons (by decide)]
  simp only [ok_bind, peekChar, hstring]
  rfl

/-! ### Documents -/

mutual

/-- **A document is read**, however it is written and whatever follows it. -/
theorem parseValue_renders : ∀ (document : Document) {text : Bytes}, Renders document text →
    ∀ (fuel : ℕ) (rest : Bytes), Follows rest → 2 * (text ++ rest).length ≤ fuel →
      parseValue floats fuel (text ++ rest) = .ok (ofDocument ofInteger document, rest)
  | document, text, h, 0, rest, _, hfuel => by
    obtain ⟨c, tail, rfl, -⟩ := renders_head h
    exact absurd hfuel (Nat.not_succ_le_zero _)
  | .null, _, .null, fuel + 1, rest, _, _ => by
    rw [ofDocument]
    rfl
  | .bool true, _, .true, fuel + 1, rest, _, _ => by
    rw [ofDocument]
    rfl
  | .bool false, _, .false, fuel + 1, rest, _, _ => by
    rw [ofDocument]
    rfl
  | .integer n, _, .integer h, fuel + 1, rest, hrest, _ => by
    rw [ofDocument]
    exact parseValue_integer h fuel hrest
  | .string s, text, .string h, fuel + 1, rest, _, _ => by
    obtain ⟨text, rfl, hadds⟩ := adds_rendersString h
    rw [List.cons_append, List.append_assoc, ofDocument]
    exact parseValue_string hadds fuel rest
  | .array elements, _, .array h, fuel + 1, rest, _, hfuel => by
    have hloop := parseArrayLoop_renders elements h [] fuel rest (by simp)
      (by simp at hfuel ⊢; omega)
    rw [List.cons_append, List.append_assoc, parseValue_bracket, ofDocument]
    exact hloop
  | .object members, _, .object h, fuel + 1, rest, _, hfuel => by
    have hloop := parseObjectLoop_renders members h [] fuel rest (by simp)
      (by simp at hfuel ⊢; omega)
    rw [List.cons_append, List.append_assoc, parseValue_brace, ofDocument]
    exact hloop

/-- The loop of `parseArray` on the elements that are left. -/
theorem parseArrayLoop_renders : ∀ (elements : List Document) {first : Bool} {text : Bytes},
    RendersElements first elements text →
    ∀ (done : List Value) (fuel : ℕ) (rest : Bytes), (first = false → done ≠ []) →
      2 * (text ++ 0x5D :: rest).length + 1 ≤ fuel →
      parseArrayLoop floats fuel done (text ++ 0x5D :: rest) =
        .ok (array (done ++ ofElements ofInteger elements), rest)
  | [], _, _, .nil h, done, fuel, rest, _, hfuel => by
    obtain ⟨fuel, rfl⟩ : ∃ k, fuel = k + 1 := ⟨fuel - 1, by omega⟩
    rw [parseArrayLoop_close (blank_whitespace h), ofElements, List.append_nil]
  | element :: elements, _, _, .cons hseparator h hs, done, fuel, rest, hdone, hfuel => by
    rw [List.append_assoc, List.append_assoc] at hfuel ⊢
    obtain ⟨fuel, hle, hstep⟩ := parseArrayLoop_gap hdone (gap_separates hseparator) hfuel
    have hvalue := parseValue_renders element h fuel _ (follows_elements hs rest) hle
    obtain ⟨c, tail, rfl, hc⟩ := renders_head h
    rw [List.cons_append] at hvalue
    have helement := parseArrayLoop_element blank_nil hc fuel done hvalue
    rw [List.nil_append] at helement
    rw [hstep, List.cons_append, helement]
    rw [List.length_append, List.length_cons] at hle
    rw [parseArrayLoop_renders elements hs _ fuel rest (by simp) (by omega), ofElements,
      List.append_assoc,
      List.singleton_append]

/-- The loop of `parseObject` on the members that are left. -/
theorem parseObjectLoop_renders : ∀ (members : List (List Char × Document)) {first : Bool}
    {text : Bytes}, RendersMembers first members text →
    ∀ (done : List (Bytes × Value)) (fuel : ℕ) (rest : Bytes), (first = false → done ≠ []) →
      2 * (text ++ 0x7D :: rest).length + 1 ≤ fuel →
      parseObjectLoop floats fuel done (text ++ 0x7D :: rest) =
        .ok (hash (ofMembers ofInteger members done), rest)
  | [], _, _, .nil h, done, fuel, rest, _, hfuel => by
    obtain ⟨fuel, rfl⟩ : ∃ k, fuel = k + 1 := ⟨fuel - 1, by omega⟩
    rw [parseObjectLoop_close (blank_whitespace h), ofMembers]
  | (key, element) :: members, _, _, .cons hseparator hkey hbefore hafter h hs, done, fuel, rest,
      hdone, hfuel => by
    simp only [List.append_assoc, List.cons_append] at hfuel ⊢
    obtain ⟨fuel, hle, hstep⟩ := parseObjectLoop_gap hdone (gap_separates hseparator) hfuel
    simp only [List.length_append, List.length_cons] at hle
    have hvalue := parseValue_renders element h fuel _ (follows_members hs rest)
      (by simp only [List.length_append, List.length_cons]; omega)
    obtain ⟨name, rfl, hadds⟩ := adds_rendersString hkey
    rw [hstep, List.cons_append, List.append_assoc, List.singleton_append,
      parseObjectLoop_name hadds (blank_whitespace hbefore),
      parseValue_blank (blank_whitespace hafter), hvalue, ok_bind,
      parseObjectLoop_renders members hs _ fuel rest (fun _ ↦ insert_ne_nil _ _ _)
        (by simp only [List.length_append, List.length_cons]; omega), ofMembers]

end

/-- **A text is read as the value of its document.** -/
theorem fromJSON_ofDocument {document : Document} (h : RendersText document text) :
    fromJSON floats text = ofDocument ofInteger document := by
  cases h with
  | @text before text after hbefore h hafter =>
    have hrest : Follows after := by
      have hblank := follows_blank (blank_whitespace hafter) follows_nil
      rwa [List.append_nil] at hblank
    have hfuel : 2 * (text ++ after).length ≤ 2 * (before ++ (text ++ after)).length + 1 := by
      have hlength : (before ++ (text ++ after)).length = before.length + (text ++ after).length :=
        List.length_append
      omega
    have hvalue : parseValue floats (2 * (before ++ (text ++ after)).length + 1) (text ++ after) =
        .ok (ofDocument ofInteger document, after) :=
      parseValue_renders document h _ after hrest hfuel
    rw [fromJSON, readFrom, parseValue_blank (blank_whitespace hbefore), hvalue]

/-! ### Integers by value -/

mutual

/-- The types that the reader chooses for integers do not change their values. -/
theorem canonical_ofDocument : ∀ document : Document,
    (ofDocument ofInteger document).canonical = denoted document
  | .null => rfl
  | .bool _ => rfl
  | .integer n => by
    rw [ofDocument, canonical_eq_ofInt (integer?_ofInteger n.low n.high), denoted, ofDocument]
  | .string _ => rfl
  | .array elements => by
    rw [ofDocument, canonical, canonicalElements_ofElements elements, denoted, ofDocument]
  | .object members => by
    rw [ofDocument, canonical, canonicalEntries_ofMembers members, denoted, ofDocument]
    rfl

theorem canonicalElements_ofElements : ∀ elements : List Document,
    canonicalElements (ofElements ofInteger elements) = ofElements ofInt elements
  | [] => rfl
  | element :: elements => by
    rw [ofElements, canonicalElements, canonical_ofDocument element,
      canonicalElements_ofElements elements, ofElements, denoted]

theorem canonicalEntries_ofMembers : ∀ (members : List (List Char × Document))
    (entries : List (Bytes × Value)),
    canonicalEntries (ofMembers ofInteger members entries) =
      ofMembers ofInt members (canonicalEntries entries)
  | [], _ => rfl
  | (key, element) :: members, entries => by
    rw [ofMembers, canonicalEntries_ofMembers members, canonicalEntries_eq_map,
      SortedAssoc.insert_map_snd, ← canonicalEntries_eq_map, canonical_ofDocument element,
      ofMembers,
      denoted]

end

/-- **Every text of a document is read as the value of the document**, up to the C++ types of its
integers. -/
theorem fromJSON_rendersText {document : Document} {text : Bytes} (floats : FloatText)
    (h : RendersText document text) : (fromJSON floats text).canonical = denoted document := by
  rw [fromJSON_ofDocument h, canonical_ofDocument]

/-- An array with a signed zero and an object whose key repeats. -/
def sampleDocument : Document :=
  .array [.integer ⟨0, by decide, by decide⟩,
    .object [(['a'], .bool true), (['a'], .string ['é', '\n', Char.ofNat 0x1F600])]]

/-- A text of `sampleDocument`, with white space, all three kinds of escapes and a raw character. -/
def sampleText : Bytes :=
  ascii " [-0, \x7b\"\\u0061\" :true,\"a\":\"" ++ [0xC3, 0xA9] ++ ascii "\\n\\uD83d\\uDE00\" \x7d]"

theorem rendersText_sampleText : RendersText sampleDocument sampleText := by
  have hblank : Whitespace [0x20] := by simp [Whitespace]
  have hnone : Whitespace [] := by simp [Whitespace]
  have hdigit : ∀ d k, (ascii "0123456789ABCDEF")[k]? = some d → HexDigit d k := fun _ _ ↦ Or.inl
  have hlower : HexDigit 0x64 13 := Or.inr rfl
  have hkey : RendersString ['a'] (ascii "\"\\u0061\"") :=
    .quoted (.cons (.unit rfl (.digits (hdigit _ 0 rfl) (hdigit _ 0 rfl) (hdigit _ 6 rfl)
      (hdigit _ 1 rfl))) .nil)
  have hraw : RendersString ['a'] (ascii "\"a\"") :=
    .quoted (.cons (.raw (by decide) (by decide) (by decide)) .nil)
  have hpair : RendersChar (Char.ofNat 0x1F600) (ascii "\\uD83d" ++ ascii "\\uDE00") :=
    .pair rfl (.digits (hdigit _ 13 rfl) (hdigit _ 8 rfl) (hdigit _ 3 rfl) hlower)
      (.digits (hdigit _ 13 rfl) (hdigit _ 14 rfl) (hdigit _ 0 rfl) (hdigit _ 0 rfl))
  have hstring : Renders (.string ['é', '\n', Char.ofNat 0x1F600]) _ :=
    .string (.quoted (.cons (.raw (by decide) (by decide) (by decide))
      (.cons (.short (e := 0x6E) (by decide)) (.cons hpair .nil))))
  exact .text hblank
    (.array (.cons (.first hnone) (.integer (n := ⟨0, by decide, by decide⟩) .minusZero)
    (.cons (.comma hnone hblank) (.object (.cons (.first hnone) hkey hblank hnone .true
      (.cons (.comma hnone hnone) hraw hnone hnone hstring (.nil hblank)))) (.nil hnone)))) hnone

theorem fromJSON_rendersText_sampleText :
    (fromJSON noFloatText sampleText).canonical = denoted sampleDocument :=
  fromJSON_rendersText noFloatText rendersText_sampleText

end Touchless.Value
