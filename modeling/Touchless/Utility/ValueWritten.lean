import Touchless.Foundations.JsonGrammar
import Touchless.Utility.ValueMessagePack

/-!
# What the writers report

`toStream` and `toBinaryStream` return whether they know the type of the value. They do not look at
what they return for the elements of an array and the entries of a hash, so an element of a type
they do not know is left out without a word: the comma or the colon in front of it is already
written, and so is the length of the array or the map it belongs to. A value is written whole, and
its text is a JSON text, exactly if there is no such element in it, no infinite number, and no
string that JSON cannot hold without an escape that the writer does not know (`written_iff`).
-/

namespace Touchless.Value

open Json (IsText IsValue IsElements IsMembers IsString IsChars IsChar IsNumber Whitespace Separates
  scan)

/-! ### Elements -/

/-- The elements of the arrays and the values of the hashes in a value, at any depth. -/
inductive Inside : Value → Value → Prop where
  | element {value : Value} {elements : List Value} (h : value ∈ elements) :
      Inside value (array elements)
  | entry {key : Bytes} {value : Value} {entries : List (Bytes × Value)}
      (h : (key, value) ∈ entries) : Inside value (hash entries)
  | deeper {value inner outer : Value} (h : Inside value inner) (h' : Inside inner outer) :
      Inside value outer

/-- A test that holds everywhere holds of the value and of all that is inside. -/
theorem Inside.everywhere {p : Value → Bool} {inner outer : Value} (h : Inside inner outer)
    (hall : outer.everywhere p = true) : inner.everywhere p = true := by
  induction h with
  | element h =>
    rw [Value.everywhere, Bool.and_eq_true] at hall
    exact everywhereElements_iff.1 hall.2 _ h
  | entry h =>
    rw [Value.everywhere, Bool.and_eq_true] at hall
    exact everywhereEntries_iff.1 hall.2 _ h
  | deeper _ _ ih ih' => exact ih (ih' hall)

theorem everywhere_of_inside {p : Value → Bool} : ∀ value : Value, p value = true →
    (∀ element, Inside element value → p element = true) → value.everywhere p = true
  | null, h, _ | bool _, h, _ | int _, h, _ | uint _, h, _ | longlong _, h, _ | ulonglong _, h, _
  | double _, h, _ | longDouble _, h, _ | string _, h, _ | foreign _, h, _ => h
  | array elements, h, hinside => by
    rw [everywhere, Bool.and_eq_true, everywhereElements_iff]
    refine ⟨h, fun value hvalue ↦ everywhere_of_inside value (hinside value (.element hvalue)) ?_⟩
    exact fun element helement ↦ hinside element (.deeper helement (.element hvalue))
  | hash entries, h, hinside => by
    rw [everywhere, Bool.and_eq_true, everywhereEntries_iff]
    refine ⟨h, fun entry hentry ↦ everywhere_of_inside entry.2 (hinside entry.2 (.entry hentry)) ?_⟩
    exact fun element helement ↦ hinside element (.deeper helement (.entry hentry))
decreasing_by
  · have hlt := List.sizeOf_lt_of_mem hvalue
    simp only [array.sizeOf_spec]
    omega
  · have hlt := List.sizeOf_lt_of_mem hentry
    have hsnd : sizeOf entry = 1 + sizeOf entry.1 + sizeOf entry.2 := rfl
    simp only [hash.sizeOf_spec]
    omega

/-- **A test that holds everywhere** is a test of the value and of all that is inside. -/
theorem everywhere_iff {p : Value → Bool} (value : Value) : value.everywhere p = true ↔
    p value = true ∧ ∀ element, Inside element value → p element = true :=
  ⟨fun h ↦ ⟨of_everywhere h, fun _ helement ↦ of_everywhere (helement.everywhere h)⟩,
    fun h ↦ everywhere_of_inside value h.1 h.2⟩

/-! ### Strings -/

/-- The control characters that the writer escapes. -/
def escapedControls : Bytes := [0x08, 0x09, 0x0A, 0x0C, 0x0D]

/-- Can the writer put the string into a JSON text? Up to its first NUL it must be well-formed UTF-8
without control characters other than those with an escape. -/
def jsonString (s : Bytes) : Bool :=
  decide (Utf8.WellFormed (cString s)) &&
    (cString s).all fun c ↦ decide (0x20 ≤ c.toNat) || decide (c ∈ escapedControls)

/-- A character is written as a short escape of JSON, or as it is. -/
theorem escapeChar_short (escapeSlashes : Bool) (b : UInt8) :
    (∃ c e, (c, e) ∈ Json.shortEscapes ∧ b.toNat = c.toNat ∧ b.toNat ≤ 0x7F ∧
      (0x20 ≤ b.toNat ∨ b ∈ escapedControls) ∧ escapeChar escapeSlashes b = [0x5C, e]) ∨
    (escapeChar escapeSlashes b = [b] ∧ b ≠ 0x22 ∧ b ≠ 0x5C ∧ b ∉ escapedControls) := by
  by_cases hspecial : b = 0x22 ∨ b = 0x5C ∨ b ∈ escapedControls
  · left
    simp only [escapedControls, List.mem_cons, List.not_mem_nil, or_false] at hspecial
    rcases hspecial with rfl | rfl | rfl | rfl | rfl | rfl | rfl
    · exact ⟨'"', 0x22, by decide, rfl, by decide, by decide, rfl⟩
    · exact ⟨'\\', 0x5C, by decide, rfl, by decide, by decide, rfl⟩
    · exact ⟨'\x08', 0x62, by decide, rfl, by decide, by decide, rfl⟩
    · exact ⟨'\t', 0x74, by decide, rfl, by decide, by decide, rfl⟩
    · exact ⟨'\n', 0x6E, by decide, rfl, by decide, by decide, rfl⟩
    · exact ⟨'\x0c', 0x66, by decide, rfl, by decide, by decide, rfl⟩
    · exact ⟨'\r', 0x72, by decide, rfl, by decide, by decide, rfl⟩
  · simp only [escapedControls, List.mem_cons, List.not_mem_nil, or_false, not_or] at hspecial
    obtain ⟨hquote, hbackslash, h08, h09, h0A, h0C, h0D⟩ := hspecial
    have hplain : b ∉ escapedControls := by simp [escapedControls, h08, h09, h0A, h0C, h0D]
    by_cases hslash : b = 0x2F ∧ escapeSlashes = true
    · obtain ⟨rfl, rfl⟩ := hslash
      exact .inl ⟨'/', 0x2F, by decide, rfl, by decide, by decide, rfl⟩
    · refine .inr ⟨?_, hquote, hbackslash, hplain⟩
      simp only [escapeChar, hquote, hbackslash, h08, h09, h0A, h0C, h0D, if_false]
      split_ifs with h2F hescape
      · exact absurd ⟨h2F, hescape⟩ hslash
      · rfl
      · rfl

/-- A character with its escape, if it has one. -/
theorem isChar_escaped (escapeSlashes : Bool) {c : Char}
    (h : ∀ b ∈ String.utf8EncodeChar c, 0x20 ≤ b.toNat ∨ b ∈ escapedControls) :
    IsChar ((String.utf8EncodeChar c).flatMap (escapeChar escapeSlashes)) := by
  by_cases hascii : c.toNat ≤ 0x7F
  · have hbyte : (UInt8.ofNat c.toNat).toNat = c.toNat := Utf8.toNat_ofNat (by omega)
    rw [Utf8.encode1 hascii] at h ⊢
    rw [List.flatMap_singleton]
    rcases escapeChar_short escapeSlashes (UInt8.ofNat c.toNat) with
      ⟨c', e, hmem, hc', -, -, hescaped⟩ | ⟨hsame, hquote, hbackslash, hplain⟩
    · obtain rfl : c = c' := Char.toNat_inj.1 (hbyte ▸ hc')
      rw [hescaped]
      exact .short hmem
    · have hcontrol := (h _ List.mem_cons_self).resolve_right hplain
      rw [hsame, ← Utf8.encode1 hascii]
      refine .raw (by omega) ?_ ?_ <;>
        · rintro rfl
          exact absurd rfl (by assumption)
  · have hsame : ∀ b ∈ String.utf8EncodeChar c, escapeChar escapeSlashes b = [b] := by
      intro b hb
      have hle := Utf8.le_of_mem_encode (Nat.not_le.1 hascii) hb
      rcases escapeChar_short escapeSlashes b with ⟨c', e, -, -, hlow, -⟩ | ⟨hsame, -⟩
      · omega
      · exact hsame
    rw [List.flatMap_congr hsame, List.flatMap_singleton']
    refine .raw (by omega) ?_ ?_ <;>
      · rintro rfl
        exact hascii (by decide)

/-- **A string of well-formed UTF-8 is written as a JSON string.** -/
theorem isString_quote (escapeSlashes : Bool) {s : Bytes} (h : jsonString s = true) :
    IsString (quote escapeSlashes s) := by
  simp only [jsonString, Bool.and_eq_true, decide_eq_true_eq, List.all_eq_true,
    Bool.or_eq_true] at h
  obtain ⟨⟨text, htext⟩, hcontrols⟩ := h
  rw [htext] at hcontrols
  have hchars : ∀ text : List Char, (∀ b ∈ text.flatMap String.utf8EncodeChar,
      0x20 ≤ b.toNat ∨ b ∈ escapedControls) →
      IsChars ((text.flatMap String.utf8EncodeChar).flatMap (escapeChar escapeSlashes)) := by
    intro text h
    induction text with
    | nil => exact .nil
    | cons c text ih =>
      rw [List.flatMap_cons, List.flatMap_append]
      rw [List.flatMap_cons] at h
      exact .cons (isChar_escaped escapeSlashes fun b hb ↦ h b (List.mem_append_left _ hb))
        (ih fun b hb ↦ h b (List.mem_append_right _ hb))
  rw [quote, htext]
  exact .quoted (hchars text hcontrols)

/-- The automaton gets through the characters of a string, and its quote, only if JSON can hold
them. -/
theorem scan_escaped (escapeSlashes : Bool) {rest : Bytes} {mode : Json.Mode} (s : Bytes)
    {state : Utf8.State}
    (h : scan (.string state) (s.flatMap (escapeChar escapeSlashes) ++ 0x22 :: rest) = some mode) :
    Utf8.run state s = some .start ∧ (∀ b ∈ s, 0x20 ≤ b.toNat ∨ b ∈ escapedControls) ∧
      scan .plain rest = some mode := by
  induction s generalizing state with
  | nil =>
    by_cases hstate : state = .start
    · subst hstate
      exact ⟨rfl, by simp, h⟩
    · have hstep : Json.scanStep (.string state) 0x22 = none := if_neg hstate
      rw [List.flatMap_nil, List.nil_append, Json.scan_cons, hstep] at h
      cases h
  | cons b s ih =>
    rw [List.flatMap_cons, List.append_assoc] at h
    rcases escapeChar_short escapeSlashes b with
      ⟨c, e, hmem, -, hascii, hcontrol, hescaped⟩ | ⟨hsame, hquote, hbackslash, hplain⟩
    · -- an escape stands between characters, as the ASCII character does that it is for
      rw [hescaped] at h
      by_cases hstate : state = .start
      · subst hstate
        have hnext : scan (.string .start) (s.flatMap (escapeChar escapeSlashes) ++ 0x22 :: rest) =
            some mode := (Json.scan_escape (Json.shortEscapes_byte hmem) _).symm.trans h
        obtain ⟨hrun, hcontrols, hrest⟩ := ih hnext
        refine ⟨?_, List.forall_mem_cons.2 ⟨hcontrol, hcontrols⟩, hrest⟩
        rw [Utf8.run_cons, Utf8.step_start_ascii hascii, Option.bind_some, hrun]
      · have hstep : Json.scanStep (.string state) 0x5C = none := if_neg hstate
        rw [List.cons_append, Json.scan_cons, hstep] at h
        cases h
    · rw [hsame, List.singleton_append] at h
      by_cases hcontrol : 0x20 ≤ b.toNat
      · rw [Json.scan_string_cons hquote hbackslash hcontrol, Option.bind_eq_some_iff] at h
        obtain ⟨state', hstep, hnext⟩ := h
        obtain ⟨hrun, hcontrols, hrest⟩ := ih hnext
        refine ⟨?_, List.forall_mem_cons.2 ⟨.inl hcontrol, hcontrols⟩, hrest⟩
        rw [Utf8.run_cons, hstep, Option.bind_some, hrun]
      · have hstep : Json.scanStep (.string state) b = none := by
          rw [Json.scanStep, if_neg hquote, if_neg hbackslash, if_pos (Nat.not_le.1 hcontrol)]
        rw [Json.scan_cons, hstep] at h
        cases h

theorem scan_quote (escapeSlashes : Bool) {s rest : Bytes} {mode : Json.Mode}
    (h : scan .plain (quote escapeSlashes s ++ rest) = some mode) :
    jsonString s = true ∧ scan .plain rest = some mode := by
  have hscan : scan (.string .start)
      ((cString s).flatMap (escapeChar escapeSlashes) ++ 0x22 :: rest) =
      some mode := by
    rw [← h, quote, List.cons_append, List.append_assoc]
    rfl
  obtain ⟨hrun, hcontrols, hrest⟩ := scan_escaped escapeSlashes (cString s) hscan
  refine ⟨?_, hrest⟩
  simp only [jsonString, Bool.and_eq_true, decide_eq_true_eq, List.all_eq_true, Bool.or_eq_true]
  exact ⟨Utf8.run_start_iff.1 hrun, hcontrols⟩

/-! ### Floating-point numbers -/

/-- Does the text name an infinity or a NaN? -/
def notANumber (text : Bytes) : Bool :=
  (["inf", "-inf", "nan", "-nan"] : List String).any fun name ↦ (ascii name).isPrefixOf text

/-- What is documented of `stream << value` for floating-point numbers in the classic locale: the
text is a number in decimal notation, or the name of an infinity or of a NaN. -/
structure ClassicLocale (floats : FloatText) : Prop where
  double : ∀ bits, IsNumber (floats.double bits) ∨ notANumber (floats.double bits) = true
  longDouble : ∀ bits,
    IsNumber (floats.longDouble bits) ∨ notANumber (floats.longDouble bits) = true

/-- The automaton stops at the name of an infinity or of a NaN. -/
theorem scan_notANumber {text : Bytes} (h : notANumber text = true) (rest : Bytes) :
    scan .plain (text ++ rest) = none := by
  simp only [notANumber, List.any_eq_true, List.isPrefixOf_iff_prefix] at h
  obtain ⟨name, hname, tail, rfl⟩ := h
  have hstop : ∀ name ∈ (["inf", "-inf", "nan", "-nan"] : List String),
      scan .plain (ascii name) = none := by decide
  rw [List.append_assoc, Json.scan_append, hstop name hname, Option.bind_none]

/-- A number that the automaton gets through is one of JSON's grammar. -/
theorem scan_float {text rest : Bytes} {mode : Json.Mode}
    (htext : IsNumber text ∨ notANumber text = true) (h : scan .plain (text ++ rest) = some mode) :
    notANumber text = false ∧ scan .plain rest = some mode := by
  cases hname : notANumber text with
  | true =>
    rw [scan_notANumber hname] at h
    cases h
  | false =>
    have hnumber : IsNumber text := htext.resolve_right (by simp [hname])
    rw [Json.scan_append_of (Json.scan_plain (Json.isPlain_number hnumber))] at h
    exact ⟨rfl, h⟩

/-! ### JSON texts -/

/-- Can the value itself, with its keys, be put into a JSON text? -/
def jsonType (floats : FloatText) : Value → Bool
  | string s => jsonString s
  | double bits => isNaN bits || !notANumber (floats.double bits)
  | longDouble bits => !notANumber (floats.longDouble bits)
  | hash entries => entries.all fun p ↦ jsonString p.1
  | foreign _ => false
  | _ => true

theorem whitespace_nil : Whitespace [] := by simp [Whitespace]

theorem whitespace_newline (indent : ℤ) : Whitespace (newline indent) := by
  intro c hc
  rcases List.mem_cons.1 hc with rfl | hc
  · exact .inr (.inr (.inl rfl))
  · exact .inl (List.eq_of_mem_replicate hc)

theorem whitespace_ite {c : Prop} [Decidable c] {text : Bytes} (h : Whitespace text) :
    Whitespace (if c then text else []) := by
  split_ifs
  · exact h
  · exact whitespace_nil

theorem whitespace_lead (indent : ℤ) : Whitespace (lead true indent) :=
  whitespace_ite (whitespace_newline indent)

/-- What stands before an element or a key. -/
theorem separates_lead (first : Bool) (indent : ℤ) :
    Separates first ((if first then [] else [0x2C]) ++ lead true indent) := by
  cases first with
  | true => exact .first (whitespace_lead indent)
  | false => exact .comma whitespace_nil (whitespace_lead indent)

/-- What stands between the colon and the value. -/
theorem whitespace_gap (indent : ℤ) :
    Whitespace ((if pretty true indent then [0x20] else []) ++ lead true (-(indent + 2))) := by
  intro c hc
  rcases List.mem_append.1 hc with hc | hc
  · exact whitespace_ite (show Whitespace [0x20] by simp [Whitespace]) c hc
  · exact whitespace_lead _ c hc

section Text

variable {floats : FloatText} (escapeSlashes : Bool)

mutual

/-- **A value that JSON can hold is written as a value of JSON's grammar.** -/
theorem isValue_writeBody (hfloats : ClassicLocale floats) :
    ∀ value : Value, value.everywhere (jsonType floats) = true →
    ∀ indent : ℤ, IsValue (writeBody floats true escapeSlashes value indent)
  | null, _, _ => .null
  | bool true, _, _ => .true
  | bool false, _, _ => .false
  | int n, _, _ => .number (Json.isNumber_decimalInt n.toInt)
  | longlong n, _, _ => .number (Json.isNumber_decimalInt n.toInt)
  | uint n, _, _ => by
    rw [writeBody, decimal_eq_decimalInt]
    exact .number (Json.isNumber_decimalInt _)
  | ulonglong n, _, _ => by
    rw [writeBody, decimal_eq_decimalInt]
    exact .number (Json.isNumber_decimalInt _)
  | double bits, h, indent => by
    rw [writeBody]
    split_ifs with hnan
    · exact .null
    · have hname : notANumber (floats.double bits) = false := by
        simpa [everywhere, jsonType, hnan] using h
      exact .number ((hfloats.double bits).resolve_right (by simp [hname]))
  | longDouble bits, h, indent => by
    have hname : notANumber (floats.longDouble bits) = false := by
      simpa [everywhere, jsonType] using h
    rw [writeBody]
    exact .number ((hfloats.longDouble bits).resolve_right (by simp [hname]))
  | string s, h, _ => .string (isString_quote escapeSlashes h)
  | array elements, h, indent => by
    rw [everywhere, Bool.and_eq_true] at h
    have helements := isElements_writeElements hfloats elements h.2 indent true
      (whitespace_ite (c := pretty true indent = true) (whitespace_newline indent))
    simpa only [writeBody, List.append_assoc, List.singleton_append, List.cons_append,
      List.nil_append] using IsValue.array helements
  | hash entries, h, indent => by
    rw [everywhere, Bool.and_eq_true] at h
    have hkeys : ∀ p ∈ entries, jsonString p.1 = true := by simpa [jsonType] using h.1
    have hmembers := isMembers_writeEntries hfloats entries h.2 hkeys indent true
      (whitespace_ite (c := (pretty true indent && indent ≥ 0) = true) (whitespace_newline indent))
    simpa only [writeBody, List.append_assoc, List.singleton_append, List.cons_append,
      List.nil_append] using IsValue.object hmembers
  | foreign _, h, _ => absurd h (by simp [everywhere, jsonType])

theorem isElements_writeElements (hfloats : ClassicLocale floats) : ∀ elements : List Value,
    everywhereElements (jsonType floats) elements = true → ∀ (indent : ℤ) (first : Bool)
      {blanks : Bytes}, Whitespace blanks →
      IsElements first (writeElements floats true escapeSlashes elements indent first ++ blanks)
  | [], _, _, _, _, hblanks => .nil hblanks
  | value :: elements, h, indent, first, blanks, hblanks => by
    rw [everywhereElements, Bool.and_eq_true] at h
    have hcons := IsElements.cons (separates_lead first (indent + 2))
      (isValue_writeBody hfloats value h.1 (settle true (indent + 2)))
      (isElements_writeElements hfloats elements h.2 indent false hblanks)
    simpa only [writeElements, List.append_assoc] using hcons

theorem isMembers_writeEntries (hfloats : ClassicLocale floats) : ∀ entries : List (Bytes × Value),
    everywhereEntries (jsonType floats) entries = true →
    (∀ p ∈ entries, jsonString p.1 = true) → ∀ (indent : ℤ) (first : Bool) {blanks : Bytes},
      Whitespace blanks →
      IsMembers first (writeEntries floats true escapeSlashes entries indent first ++ blanks)
  | [], _, _, _, _, _, hblanks => .nil hblanks
  | (key, value) :: entries, h, hkeys, indent, first, blanks, hblanks => by
    rw [everywhereEntries, Bool.and_eq_true] at h
    rw [List.forall_mem_cons] at hkeys
    have hcons := IsMembers.cons (separates_lead first (indent + 2))
      (isString_quote escapeSlashes hkeys.1) whitespace_nil (whitespace_gap indent)
      (isValue_writeBody hfloats value h.1 (settle true (-(indent + 2))))
      (isMembers_writeEntries hfloats entries h.2 hkeys.2 indent false hblanks)
    simpa only [writeEntries_cons, writeEntry, List.append_assoc, List.cons_append,
      List.nil_append] using hcons

end

theorem scan_decimalInt (n : ℤ) (rest : Bytes) :
    scan .plain (decimalInt n ++ rest) = scan .plain rest :=
  Json.scan_append_of (Json.scan_plain (Json.isPlain_number (Json.isNumber_decimalInt n)))

theorem scan_whitespace {blanks : Bytes} (h : Whitespace blanks) (rest : Bytes) :
    scan .plain (blanks ++ rest) = scan .plain rest :=
  Json.scan_append_of (Json.scan_plain (Json.isPlain_whitespace h))

theorem scan_separator (first : Bool) (indent : ℤ) (rest : Bytes) :
    scan .plain ((if first then [] else [0x2C]) ++ (lead true indent ++ rest)) =
      scan .plain rest := by
  rw [← List.append_assoc]
  exact Json.scan_append_of (Json.scan_plain (Json.isPlain_separates (separates_lead first indent)))

mutual

/-- **The automaton gets through the text of a value only if JSON can hold the value.** -/
theorem scan_writeBody (hfloats : ClassicLocale floats) : ∀ value : Value, value.ForeignFree →
    ∀ (indent : ℤ) {rest : Bytes} {mode : Json.Mode},
      scan .plain (writeBody floats true escapeSlashes value indent ++ rest) = some mode →
      value.everywhere (jsonType floats) = true ∧ scan .plain rest = some mode
  | null, _, _, _, _, h => ⟨rfl, h⟩
  | bool true, _, _, _, _, h => ⟨rfl, h⟩
  | bool false, _, _, _, _, h => ⟨rfl, h⟩
  | int n, _, _, _, _, h => ⟨rfl, by rwa [writeBody, scan_decimalInt] at h⟩
  | longlong n, _, _, _, _, h => ⟨rfl, by rwa [writeBody, scan_decimalInt] at h⟩
  | uint n, _, _, _, _, h =>
    ⟨rfl, by rwa [writeBody, decimal_eq_decimalInt, scan_decimalInt] at h⟩
  | ulonglong n, _, _, _, _, h =>
    ⟨rfl, by rwa [writeBody, decimal_eq_decimalInt, scan_decimalInt] at h⟩
  | double bits, _, _, _, _, h => by
    rw [writeBody] at h
    split_ifs at h with hnan
    · exact ⟨by simp [everywhere, jsonType, hnan], h⟩
    · obtain ⟨hname, hrest⟩ := scan_float (hfloats.double bits) h
      exact ⟨by simp [everywhere, jsonType, hname], hrest⟩
  | longDouble bits, _, _, _, _, h => by
    rw [writeBody] at h
    obtain ⟨hname, hrest⟩ := scan_float (hfloats.longDouble bits) h
    exact ⟨by simp [everywhere, jsonType, hname], hrest⟩
  | string s, _, _, _, _, h => scan_quote escapeSlashes h
  | array elements, hforeign, indent, rest, mode, h => by
    simp only [ForeignFree, everywhere, Bool.and_eq_true] at hforeign
    simp only [writeBody, List.append_assoc, List.singleton_append] at h
    obtain ⟨helements, hclose⟩ :=
      scan_writeElements hfloats elements hforeign.2 indent true h
    rw [scan_whitespace (whitespace_ite (whitespace_newline indent))] at hclose
    exact ⟨by rw [everywhere, helements]; rfl, hclose⟩
  | hash entries, hforeign, indent, rest, mode, h => by
    simp only [ForeignFree, everywhere, Bool.and_eq_true] at hforeign
    simp only [writeBody, List.append_assoc, List.singleton_append] at h
    obtain ⟨hentries, hkeys, hclose⟩ :=
      scan_writeEntries hfloats entries hforeign.2 indent true h
    rw [scan_whitespace (whitespace_ite (whitespace_newline indent))] at hclose
    refine ⟨?_, hclose⟩
    rw [everywhere, hentries, Bool.and_true]
    simpa [jsonType] using hkeys
  | foreign _, hforeign, _, _, _, _ =>
    absurd hforeign (by simp [ForeignFree, everywhere, foreignFreeType])

theorem scan_writeElements (hfloats : ClassicLocale floats) : ∀ elements : List Value,
    everywhereElements foreignFreeType elements = true → ∀ (indent : ℤ) (first : Bool)
      {rest : Bytes} {mode : Json.Mode},
      scan .plain (writeElements floats true escapeSlashes elements indent first ++ rest) =
        some mode →
      everywhereElements (jsonType floats) elements = true ∧ scan .plain rest = some mode
  | [], _, _, _, _, _, h => ⟨rfl, h⟩
  | value :: elements, hforeign, indent, first, rest, mode, h => by
    rw [everywhereElements, Bool.and_eq_true] at hforeign
    simp only [writeElements, List.append_assoc, scan_separator] at h
    obtain ⟨hvalue, hlater⟩ := scan_writeBody hfloats value hforeign.1 _ h
    obtain ⟨helements, hrest⟩ := scan_writeElements hfloats elements hforeign.2 indent false hlater
    exact ⟨by rw [everywhereElements, hvalue, helements]; rfl, hrest⟩

theorem scan_writeEntries (hfloats : ClassicLocale floats) : ∀ entries : List (Bytes × Value),
    everywhereEntries foreignFreeType entries = true → ∀ (indent : ℤ) (first : Bool)
      {rest : Bytes} {mode : Json.Mode},
      scan .plain (writeEntries floats true escapeSlashes entries indent first ++ rest) =
        some mode →
      everywhereEntries (jsonType floats) entries = true ∧ (∀ p ∈ entries, jsonString p.1 = true) ∧
        scan .plain rest = some mode
  | [], _, _, _, _, _, h => ⟨rfl, by simp, h⟩
  | (key, value) :: entries, hforeign, indent, first, rest, mode, h => by
    rw [everywhereEntries, Bool.and_eq_true] at hforeign
    rw [writeEntries_cons] at h
    simp only [writeEntry, List.append_assoc, scan_separator, List.cons_append] at h
    obtain ⟨hkey, hcolon⟩ := scan_quote escapeSlashes h
    rw [← List.append_assoc] at hcolon
    have hbody := (scan_whitespace (whitespace_gap indent) _).symm.trans hcolon
    obtain ⟨hvalue, hlater⟩ := scan_writeBody hfloats value hforeign.1 _ hbody
    obtain ⟨hentries, hkeys, hrest⟩ :=
      scan_writeEntries hfloats entries hforeign.2 indent false hlater
    exact ⟨by rw [everywhereEntries, hvalue, hentries]; rfl,
      List.forall_mem_cons.2 ⟨hkey, hkeys⟩, hrest⟩

end

end Text

/-! ### MessagePack -/

section Pack

variable {isLittleEndian : Bool} {toDouble : BitVec 80 → UInt64}

theorem lt_of_packLength {fix prefix16 prefix32 : UInt8} {limit length : ℕ} {header : Bytes}
    (hlimit : limit < 2 ^ 32)
    (h : packLength isLittleEndian fix limit prefix16 prefix32 length = some header) :
    length < 2 ^ 32 := by
  rw [packLength] at h
  split_ifs at h <;> omega

theorem lt_of_packString {s bytes : Bytes} (h : packString isLittleEndian s = some bytes) :
    s.length < 2 ^ 32 := by
  obtain ⟨header, hheader, -⟩ := Option.bind_eq_some_iff.1 h
  exact lt_of_packLength (by decide) hheader

mutual

/-- A length of 2³² or more makes the writer throw. -/
theorem short_of_toBinaryStream : ∀ (value : Value) {bytes : Bytes},
    toBinaryStream isLittleEndian toDouble value = some bytes → value.Short
  | null, _, _ | bool _, _, _ | int _, _, _ | uint _, _, _ | longlong _, _, _ | ulonglong _, _, _
  | double _, _, _ | longDouble _, _, _ | foreign _, _, _ => rfl
  | string s, _, h => by
    rw [toBinaryStream] at h
    simpa [Short, everywhere, shortData] using lt_of_packString h
  | array elements, bytes, h => by
    rw [toBinaryStream] at h
    obtain ⟨header, hheader, h⟩ := Option.bind_eq_some_iff.1 h
    obtain ⟨body, hbody, -⟩ := Option.bind_eq_some_iff.1 h
    have hlength := lt_of_packLength (by decide) hheader
    rw [Short, everywhere, short_of_toBinaryElements elements hbody]
    simpa [shortData] using hlength
  | hash entries, bytes, h => by
    rw [toBinaryStream] at h
    obtain ⟨header, hheader, h⟩ := Option.bind_eq_some_iff.1 h
    obtain ⟨body, hbody, -⟩ := Option.bind_eq_some_iff.1 h
    have hlength := lt_of_packLength (by decide) hheader
    obtain ⟨hentries, hkeys⟩ := short_of_toBinaryEntries entries hbody
    rw [Short, everywhere, hentries]
    simpa [shortData] using ⟨hlength, fun a b h ↦ hkeys (a, b) h⟩

theorem short_of_toBinaryElements : ∀ (elements : List Value) {bytes : Bytes},
    toBinaryElements isLittleEndian toDouble elements = some bytes →
    everywhereElements shortData elements = true
  | [], _, _ => rfl
  | value :: elements, bytes, h => by
    rw [toBinaryElements] at h
    obtain ⟨first, hfirst, h⟩ := Option.bind_eq_some_iff.1 h
    obtain ⟨later, hlater, -⟩ := Option.bind_eq_some_iff.1 h
    have hvalue : value.everywhere shortData = true := short_of_toBinaryStream value hfirst
    rw [everywhereElements, hvalue, short_of_toBinaryElements elements hlater]
    rfl

theorem short_of_toBinaryEntries : ∀ (entries : List (Bytes × Value)) {bytes : Bytes},
    toBinaryEntries isLittleEndian toDouble entries = some bytes →
    everywhereEntries shortData entries = true ∧ ∀ p ∈ entries, p.1.length < 2 ^ 32
  | [], _, _ => ⟨rfl, by simp⟩
  | (key, value) :: entries, bytes, h => by
    rw [toBinaryEntries] at h
    obtain ⟨first, hfirst, h⟩ := Option.bind_eq_some_iff.1 h
    obtain ⟨second, hsecond, h⟩ := Option.bind_eq_some_iff.1 h
    obtain ⟨later, hlater, -⟩ := Option.bind_eq_some_iff.1 h
    have hvalue : value.everywhere shortData = true := short_of_toBinaryStream value hsecond
    obtain ⟨hentries, hkeys⟩ := short_of_toBinaryEntries entries hlater
    exact ⟨by rw [everywhereEntries, hvalue, hentries]; rfl,
      List.forall_mem_cons.2 ⟨lt_of_packString hfirst, hkeys⟩⟩

end

end Pack

/-! ### What the writers return -/

/-- `toBinaryStream`: what it puts on the stream, and whether it knows the type of the value; `none`
where it throws. -/
def binaryStream (isLittleEndian : Bool) (toDouble : BitVec 80 → UInt64) (value : Value) :
    Option (Bytes × Bool) :=
  (toBinaryStream isLittleEndian toDouble value).map fun bytes ↦ (bytes, match value with
    | foreign _ => false
    | _ => true)

section Reports

variable (floats : FloatText) (isLittleEndian : Bool) (toDouble : BitVec 80 → UInt64)

/-- Every element of every array and hash in the value was written as JSON: the call for it returned
true. -/
def Written (escapeSlashes : Bool) (value : Value) : Prop :=
  ∀ element, Inside element value → ∀ indent,
    (element.toStream floats true escapeSlashes indent).2 = true

/-- Every element of every array and hash in the value was written as MessagePack. -/
def BinaryWritten (value : Value) : Prop :=
  ∀ element, Inside element value →
    ∃ bytes, element.binaryStream isLittleEndian toDouble = some (bytes, true)

/-- `toStream` returns true only if every element was written, and then its output is a JSON text.
-/
def Reports (escapeSlashes : Bool) (value : Value) (indent : ℤ) : Prop :=
  ((value.toStream floats true escapeSlashes indent).2 = true →
    value.Written floats escapeSlashes ∧
      IsText (value.toStream floats true escapeSlashes indent).1) ∧
  (¬ value.Written floats escapeSlashes →
    (value.toStream floats true escapeSlashes indent).2 = false)

/-- `toBinaryStream` returns, and returns true only if every element was written; then the decoder,
which takes as many elements as each header counts, takes exactly the output. -/
def BinaryReports (value : Value) : Prop :=
  ∃ bytes known, value.binaryStream isLittleEndian toDouble = some (bytes, known) ∧
    (known = true → value.BinaryWritten isLittleEndian toDouble ∧
      unpack bytes = some (value.unpacked toDouble, [])) ∧
    (¬ value.BinaryWritten isLittleEndian toDouble → known = false)

end Reports

theorem toStream_snd (floats : FloatText) (escapeSlashes : Bool) (value : Value) (indent : ℤ) :
    (value.toStream floats true escapeSlashes indent).2 = foreignFreeType value := by
  cases value <;> rfl

theorem binaryStream_eq {isLittleEndian : Bool} {toDouble : BitVec 80 → UInt64} {value : Value}
    {bytes : Bytes} (h : toBinaryStream isLittleEndian toDouble value = some bytes) :
    value.binaryStream isLittleEndian toDouble = some (bytes, foreignFreeType value) := by
  cases value <;> simp [binaryStream, h, foreignFreeType]

/-- A value that is not foreign, and in which there is nothing foreign. -/
theorem foreignFree_of_inside {value : Value} (h : foreignFreeType value = true)
    (hinside : ∀ element, Inside element value → foreignFreeType element = true) :
    value.ForeignFree :=
  (everywhere_iff value).2 ⟨h, hinside⟩

theorem foreignFree_of_jsonType {floats : FloatText} {value : Value}
    (h : value.everywhere (jsonType floats) = true) : value.ForeignFree := by
  have hmono : ∀ v : Value, jsonType floats v = true → foreignFreeType v = true := by
    intro v
    cases v <;> simp [jsonType, foreignFreeType]
  rw [everywhere_iff] at h
  exact foreignFree_of_inside (hmono value h.1) fun element helement ↦
    hmono element (h.2 element helement)

/-- **JSON is reported as it is written** exactly if the value is foreign itself, or there is
nothing in it that JSON cannot hold. -/
theorem reports_iff_jsonType {floats : FloatText} (hfloats : ClassicLocale floats)
    (escapeSlashes : Bool) (value : Value) (indent : ℤ) :
    value.Reports floats escapeSlashes indent ↔
      (∃ typeName, value = foreign typeName) ∨ value.everywhere (jsonType floats) = true := by
  rw [Reports, toStream_snd, ← foreignFreeType_eq_false_iff]
  constructor
  · rintro ⟨hwritten, -⟩
    cases hknown : foreignFreeType value with
    | false => exact .inl rfl
    | true =>
      obtain ⟨hinside, htext⟩ := hwritten hknown
      have hforeign : value.ForeignFree := foreignFree_of_inside hknown fun element helement ↦
        (toStream_snd floats escapeSlashes element 0).symm.trans (hinside element helement 0)
      have hscan : scan .plain (write floats true escapeSlashes value indent) = some .plain :=
        Json.scan_isText htext
      rw [write, scan_whitespace (whitespace_lead indent),
        ← List.append_nil (writeBody _ _ _ _ _)] at hscan
      exact .inr (scan_writeBody escapeSlashes hfloats value hforeign _ hscan).1
  · rintro (hforeign | hall)
    · exact ⟨fun h ↦ absurd h (by simp [hforeign]), fun _ ↦ hforeign⟩
    · have hfree := foreignFree_of_jsonType hall
      have hwritten : value.Written floats escapeSlashes := fun element helement indent ↦
        (toStream_snd floats escapeSlashes element indent).trans
          (of_everywhere (helement.everywhere hfree))
      refine ⟨fun _ ↦ ⟨hwritten, ?_⟩, fun h ↦ absurd hwritten h⟩
      have htext := IsText.text (whitespace_lead indent)
        (isValue_writeBody escapeSlashes hfloats value hall (settle true indent)) whitespace_nil
      rwa [List.append_nil] at htext

/-- **MessagePack is reported as it is written** exactly if the value is foreign itself, or there is
nothing foreign in it and no length is too long. -/
theorem binaryReports_iff_short (isLittleEndian : Bool) (toDouble : BitVec 80 → UInt64)
    (value : Value) :
    value.BinaryReports isLittleEndian toDouble ↔
      (∃ typeName, value = foreign typeName) ∨ (value.ForeignFree ∧ value.Short) := by
  rw [← foreignFreeType_eq_false_iff]
  constructor
  · rintro ⟨bytes, known, hbytes, hwritten, -⟩
    obtain ⟨bytes', hstream, -⟩ := Option.map_eq_some_iff.1 hbytes
    obtain ⟨rfl, rfl⟩ : bytes' = bytes ∧ foreignFreeType value = known := by
      simpa using (binaryStream_eq hstream).symm.trans hbytes
    cases hknown : foreignFreeType value with
    | false => exact .inl rfl
    | true =>
      refine .inr ⟨foreignFree_of_inside hknown fun element helement ↦ ?_,
        short_of_toBinaryStream value hstream⟩
      obtain ⟨bytes, helement⟩ := (hwritten hknown).1 element helement
      obtain ⟨bytes', hstream', -⟩ := Option.map_eq_some_iff.1 helement
      have hboth := (binaryStream_eq hstream').symm.trans helement
      exact (Prod.mk.inj (Option.some.inj hboth)).2
  · rintro (hforeign | ⟨hfree, hshort⟩)
    · obtain ⟨typeName, rfl⟩ := (foreignFreeType_eq_false_iff value).1 hforeign
      exact ⟨[], false, rfl, fun h ↦ absurd h (by decide), fun _ ↦ rfl⟩
    · have hstream : ∀ v : Value, v.ForeignFree → v.Short → ∃ bytes,
          v.binaryStream isLittleEndian toDouble = some (bytes, true) ∧
            Unpacks bytes (v.unpacked toDouble) := by
        intro v hfree hshort
        obtain ⟨bytes, hbytes, hunpacks⟩ :=
          @unpacks_toBinaryStream isLittleEndian toDouble v hfree hshort
        have hknown : foreignFreeType v = true := of_everywhere hfree
        exact ⟨bytes, hknown ▸ binaryStream_eq hbytes, hunpacks⟩
      have hwritten : value.BinaryWritten isLittleEndian toDouble := by
        intro element helement
        obtain ⟨bytes, hbytes, -⟩ :=
          hstream element (helement.everywhere hfree) (helement.everywhere hshort)
        exact ⟨bytes, hbytes⟩
      obtain ⟨bytes, hbytes, hunpacks⟩ := hstream value hfree hshort
      refine ⟨bytes, true, hbytes, fun _ ↦ ⟨hwritten, ?_⟩, fun h ↦ absurd hwritten h⟩
      have hunpack := hunpacks.unpack []
      rwa [List.append_nil] at hunpack

/-- **The writers report what they wrote** exactly on these values. -/
theorem reports_iff (floats : FloatText) (hfloats : ClassicLocale floats) (isLittleEndian : Bool)
    (toDouble : BitVec 80 → UInt64) (escapeSlashes : Bool) (indent : ℤ) (value : Value) :
    (value.Reports floats escapeSlashes indent ↔
      (∃ typeName, value = foreign typeName) ∨ value.everywhere (jsonType floats) = true) ∧
    (value.BinaryReports isLittleEndian toDouble ↔
      (∃ typeName, value = foreign typeName) ∨ (value.ForeignFree ∧ value.Short)) :=
  ⟨reports_iff_jsonType hfloats escapeSlashes value indent,
    binaryReports_iff_short isLittleEndian toDouble value⟩

/-- A float text that knows one number. -/
def sampleFloatText : FloatText :=
  ⟨fun _ ↦ ascii "1.5", fun _ ↦ ascii "1.5", fun _ ↦ 0x3FF8000000000000⟩

theorem classicLocale_sampleFloatText : ClassicLocale sampleFloatText := by
  have hdigits : ∀ c : UInt8, isDigit c = true → Json.Digits [c] := fun c hc ↦
    ⟨List.cons_ne_nil _ _, by simpa using hc⟩
  have hnumber : IsNumber ([] ++ [0x31] ++ [0x2E, 0x35] ++ []) :=
    .number (.inl rfl) ⟨hdigits 0x31 rfl, fun _ ↦ by contradiction⟩
      (.digits (hdigits 0x35 rfl)) .none
  exact ⟨fun _ ↦ .inl hnumber, fun _ ↦ .inl hnumber⟩

/-- The number, with an object of an unknown type beside it. -/
theorem reports_iff_sample :
    let value := array [double 0x3FF8000000000000, foreign "OSInteractionMode"]
    (value.Reports sampleFloatText true 1 ↔
      (∃ typeName, value = foreign typeName) ∨
        value.everywhere (jsonType sampleFloatText) = true) ∧
    (value.BinaryReports true (fun _ ↦ 0) ↔
      (∃ typeName, value = foreign typeName) ∨ (value.ForeignFree ∧ value.Short)) :=
  reports_iff sampleFloatText classicLocale_sampleFloatText true (fun _ ↦ 0) true 1
    (array [double 0x3FF8000000000000, foreign "OSInteractionMode"])

/-- The settings hold a mode whose type the writers do not know. They leave it out and return
true: there is no value behind the colon, and the map counts an entry that has none. -/
theorem not_reports :
    let settings := hash [(ascii "os_interaction_mode", foreign "GestureInteractionMode")]
    settings.toStream noFloatText true true 1 =
        (ascii "\x7b\"os_interaction_mode\":\x7d", true) ∧
      ¬ settings.Reports noFloatText true 1 ∧
      settings.binaryStream true (fun _ ↦ 0) =
        some (0x81 :: 0xB3 :: ascii "os_interaction_mode", true) ∧
      ¬ settings.BinaryReports true (fun _ ↦ 0) := by
  have hinside : Inside (foreign "GestureInteractionMode")
      (hash [(ascii "os_interaction_mode", foreign "GestureInteractionMode")]) :=
    .entry List.mem_cons_self
  refine ⟨by decide +kernel, ?_, by decide +kernel, ?_⟩
  · rintro ⟨hwritten, -⟩
    exact absurd ((hwritten rfl).1 _ hinside 0) (by decide)
  · rintro ⟨bytes, known, hbytes, hwritten, -⟩
    obtain ⟨_, _, hflag⟩ := Option.map_eq_some_iff.1 hbytes
    obtain ⟨_, helement⟩ := (hwritten (Prod.mk.inj hflag).2.symm).1 _ hinside
    cases helement

end Touchless.Value
