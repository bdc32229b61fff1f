import Mathlib.Data.List.TakeWhile
import Touchless.Utility.ValueLegible
import Touchless.Utility.ValueNumbers
import Touchless.Utility.ValueReader

/-!
# Reading back what was written

For every value without floating-point numbers and foreign objects, under every setting of the
writer, the reader returns `asRead value` on the text of the value (`fromJSON_toJSON`). `asRead`
says exactly what may change: an integer gets the C++ type the reader chooses for it, a string ends
at its first NUL, and a hash is rebuilt by inserting its entries in the order of their keys.

With foreign objects in it a value is read as what is `known` of it if it is `legible`, and else not
at all (`fromJSON_toJSON_of_floatFree`): the reader throws.

On values whose strings have no NUL and whose hashes are in key order, as every `std::map` is,
`asRead` changes only the C++ types of integers (`sameUpToKind_asRead`).

The reader is a recursive descent and the writer a recursion on the value, so the proof is an
induction on the value for an arbitrary continuation of the text. A continuation may follow a number
only if it does not prolong it (`Follows`).
-/

namespace Touchless.Value

/-! ### Blanks -/

/-- A run of characters that `skipWhitespace` skips. -/
def Blank (text : Bytes) : Prop :=
  ∀ c ∈ text, c = 0x20 ∨ c = 0x0A ∨ c = 0x0D ∨ c = 0x09 ∨ c = 0x0C

theorem blank_nil : Blank [] := by simp [Blank]

theorem blank_newline (indent : ℤ) : Blank (newline indent) := by
  intro c hc
  rcases List.mem_cons.1 hc with rfl | hc
  · exact Or.inr (Or.inl rfl)
  · exact Or.inl (List.eq_of_mem_replicate hc)

theorem blank_ite {c : Prop} [Decidable c] {text : Bytes} (h : Blank text) :
    Blank (if c then text else []) := by
  split_ifs
  · exact h
  · exact blank_nil

theorem blank_lead (asJSON : Bool) (indent : ℤ) : Blank (lead asJSON indent) :=
  blank_ite (blank_newline indent)

theorem skipWhitespace_blank {blanks : Bytes} (h : Blank blanks) (stream : Bytes) :
    skipWhitespace (blanks ++ stream) = skipWhitespace stream := by
  induction blanks with
  | nil => rfl
  | cons c blanks ih =>
    rw [List.cons_append, skipWhitespace, if_pos (h c List.mem_cons_self)]
    exact ih fun d hd ↦ h d (List.mem_cons_of_mem c hd)

/-- A character that begins a value: no blank, no separator and no closing bracket. -/
def Starts (c : UInt8) : Prop :=
  ¬(c = 0x20 ∨ c = 0x0A ∨ c = 0x0D ∨ c = 0x09 ∨ c = 0x0C) ∧ c ≠ 0x2C ∧ c ≠ 0x5D ∧ c ≠ 0x7D

instance (c : UInt8) : Decidable (Starts c) := inferInstanceAs (Decidable (_ ∧ _))

theorem skipWhitespace_cons {c : UInt8}
    (h : ¬(c = 0x20 ∨ c = 0x0A ∨ c = 0x0D ∨ c = 0x09 ∨ c = 0x0C)) (stream : Bytes) :
    skipWhitespace (c :: stream) = .ok (c :: stream) := by
  rw [skipWhitespace, if_neg h]

/-! ### Strings -/

/-- A character is escaped by a letter that the reader takes for it, or stands for itself. -/
theorem escapeChar_cases (escapeSlashes : Bool) (c : UInt8) :
    (∃ letter, escapeChar escapeSlashes c = [0x5C, letter] ∧
      ∀ stream, parseEscape (letter :: stream) = .ok ([c], stream)) ∨
    (escapeChar escapeSlashes c = [c] ∧ c ≠ 0x22 ∧ c ≠ 0x5C) := by
  by_cases hquote : c = 0x22
  · subst hquote
    exact .inl ⟨_, rfl, fun _ ↦ rfl⟩
  by_cases hbackslash : c = 0x5C
  · subst hbackslash
    exact .inl ⟨_, rfl, fun _ ↦ rfl⟩
  by_cases hslash : c = 0x2F
  · subst hslash
    cases escapeSlashes with
    | false => exact .inr ⟨rfl, by decide, by decide⟩
    | true => exact .inl ⟨_, rfl, fun _ ↦ rfl⟩
  by_cases hletter : c = 0x08 ∨ c = 0x0C ∨ c = 0x0A ∨ c = 0x0D ∨ c = 0x09
  · rcases hletter with rfl | rfl | rfl | rfl | rfl <;> exact .inl ⟨_, rfl, fun _ ↦ rfl⟩
  · simp only [not_or] at hletter
    refine .inr ⟨?_, hquote, hbackslash⟩
    simp only [escapeChar, hquote, hbackslash, hslash, hletter, if_false]

/-- Each escaped character is read as the character it stands for. -/
theorem parseStringLoop_escapeChar (escapeSlashes : Bool) (c : UInt8) (fuel : ℕ)
    (value stream : Bytes) :
    parseStringLoop (fuel + 1) value (escapeChar escapeSlashes c ++ stream) =
      parseStringLoop fuel (value ++ [c]) stream := by
  rcases escapeChar_cases escapeSlashes c with
    ⟨letter, hescaped, hread⟩ | ⟨hsame, hquote, hbackslash⟩
  · rw [hescaped]
    show (parseEscape (letter :: stream) >>= fun p ↦ parseStringLoop fuel (value ++ p.1) p.2) = _
    rw [hread]
    rfl
  · rw [hsame]
    show (if c = 0x22 then _ else if c = 0x5C then _
      else parseStringLoop fuel (value ++ [c]) stream) = _
    rw [if_neg hquote, if_neg hbackslash]

theorem parseStringLoop_escaped (escapeSlashes : Bool) (s stream : Bytes) :
    ∀ (fuel : ℕ) (value : Bytes), s.length < fuel →
      parseStringLoop fuel value (s.flatMap (escapeChar escapeSlashes) ++ 0x22 :: stream) =
        .ok (value ++ s, stream) := by
  induction s with
  | nil =>
    intro fuel value hfuel
    obtain ⟨fuel, rfl⟩ : ∃ k, fuel = k + 1 := ⟨fuel - 1, by omega⟩
    simp [parseStringLoop, getChar, bind, Except.bind, pure, Except.pure]
  | cons c s ih =>
    intro fuel value hfuel
    obtain ⟨fuel, rfl⟩ : ∃ k, fuel = k + 1 := ⟨fuel - 1, by omega⟩
    rw [List.flatMap_cons, List.append_assoc, parseStringLoop_escapeChar,
      ih fuel (value ++ [c]) (by simpa using hfuel), List.append_assoc]
    rfl

theorem length_le_length_escaped (escapeSlashes : Bool) (s : Bytes) :
    s.length ≤ (s.flatMap (escapeChar escapeSlashes)).length := by
  induction s with
  | nil => exact le_refl _
  | cons c s ih =>
    have hc : 1 ≤ (escapeChar escapeSlashes c).length := by
      rcases escapeChar_cases escapeSlashes c with ⟨letter, hescaped, -⟩ | ⟨hsame, -⟩
      · rw [hescaped]
        exact Nat.le_add_left 1 1
      · rw [hsame]
        rfl
    rw [List.flatMap_cons, List.length_append, List.length_cons]
    omega

/-- **Strings** are read up to their first NUL. -/
theorem parseString_quote (escapeSlashes : Bool) (s stream : Bytes) :
    parseString (quote escapeSlashes s ++ stream) = .ok (cString s, stream) := by
  have hlength := length_le_length_escaped escapeSlashes (cString s)
  have htext : quote escapeSlashes s ++ stream =
      0x22 :: ((cString s).flatMap (escapeChar escapeSlashes) ++ 0x22 :: stream) := by
    simp [quote]
  have hloop := parseStringLoop_escaped escapeSlashes (cString s) stream
    (((cString s).flatMap (escapeChar escapeSlashes) ++ 0x22 :: stream).length + 1) []
    (by rw [List.length_append]; omega)
  rw [htext]
  exact hloop

/-! ### Numbers -/

variable {floats : FloatText}

theorem parseNumber_decimal (n : ℕ) {rest : Bytes} (hrest : Follows rest) :
    parseNumber floats (decimal n ++ rest) = .ok (readInteger true n, rest) := by
  have hread := @parseNumber_append floats rest [] _ _ _ (.inl rfl) (Json.isInt_decimal n) .none
    .none hrest
  simpa [valueOfParts, ofDecimal_decimal] using hread

theorem parseNumber_minus (n : ℕ) {rest : Bytes} (hrest : Follows rest) :
    parseNumber floats (0x2D :: (decimal n ++ rest)) = .ok (readInteger false n, rest) := by
  have hread := @parseNumber_append floats rest [0x2D] _ _ _ (.inr rfl) (Json.isInt_decimal n) .none
    .none hrest
  simpa [valueOfParts, ofDecimal_decimal] using hread

/-- **Integers** are read with their value. -/
theorem parseNumber_decimalInt (n : ℤ) {rest : Bytes} (hrest : Follows rest) :
    parseNumber floats (decimalInt n ++ rest) = .ok (ofInteger n, rest) := by
  rw [decimalInt, ofInteger]
  split_ifs with hn
  · have hsign : decide (0 ≤ n) = false := decide_eq_false (by omega)
    rw [List.cons_append, parseNumber_minus _ hrest, hsign]
  · have hsign : decide (0 ≤ n) = true := decide_eq_true (by omega)
    rw [parseNumber_decimal _ hrest, hsign]

/-! ### What a value begins with -/

theorem starts_isDigit {c : UInt8} (h : isDigit c = true) : Starts c := by
  refine ⟨?_, ?_, ?_, ?_⟩
  · rintro (rfl | rfl | rfl | rfl | rfl) <;> exact absurd h (by decide)
  all_goals
    rintro rfl
    exact absurd h (by decide)

theorem decimalInt_head (n : ℤ) : ∃ c tail, decimalInt n = c :: tail ∧
    (c = 0x2D ∨ isDigit c = true) := by
  rw [decimalInt]
  split_ifs
  · exact ⟨0x2D, _, rfl, Or.inl rfl⟩
  · obtain ⟨c, digits, hc⟩ := List.exists_cons_of_ne_nil (decimal_ne_nil n.natAbs)
    exact ⟨c, digits, hc, Or.inr (isDigit_of_mem_decimal (hc ▸ List.mem_cons_self))⟩

/-- The text of a value begins with a character that is no blank, separator or bracket. -/
theorem writeBody_head (floats : FloatText) {value : Value} (h : value.FloatFree)
    (hknown : foreignFreeType value = true) (escapeSlashes : Bool) (indent : ℤ) :
    ∃ c tail, writeBody floats true escapeSlashes value indent = c :: tail ∧ Starts c := by
  have hint : ∀ n : ℤ, ∃ c tail, decimalInt n = c :: tail ∧ Starts c := by
    intro n
    rcases decimalInt_head n with ⟨c, tail, hc, rfl | hdigit⟩
    · exact ⟨_, tail, hc, by decide⟩
    · exact ⟨c, tail, hc, starts_isDigit hdigit⟩
  have hnat : ∀ n : ℕ, ∃ c tail, decimal n = c :: tail ∧ Starts c := by
    intro n
    obtain ⟨c, digits, hc⟩ := List.exists_cons_of_ne_nil (decimal_ne_nil n)
    exact ⟨c, digits, hc, starts_isDigit (isDigit_of_mem_decimal (hc ▸ List.mem_cons_self))⟩
  cases value with
  | null => exact ⟨0x6E, _, by simp only [writeBody]; rfl, by decide⟩
  | bool b =>
    cases b
    · exact ⟨0x66, _, by simp only [writeBody]; rfl, by decide⟩
    · exact ⟨0x74, _, by simp only [writeBody]; rfl, by decide⟩
  | int n => simpa only [writeBody] using hint n.toInt
  | uint n => simpa only [writeBody] using hnat n.toNat
  | longlong n => simpa only [writeBody] using hint n.toInt
  | ulonglong n => simpa only [writeBody] using hnat n.toNat
  | double bits => exact absurd h (by simp [FloatFree, everywhere, floatFreeType])
  | longDouble bits => exact absurd h (by simp [FloatFree, everywhere, floatFreeType])
  | foreign typeName => exact absurd hknown (by simp [foreignFreeType])
  | string s => exact ⟨0x22, _, by simp only [writeBody]; rfl, by decide⟩
  | array elements => exact ⟨0x5B, _, by simp only [writeBody]; rfl, by decide⟩
  | hash entries => exact ⟨0x7B, _, by simp only [writeBody]; rfl, by decide⟩

/-! ### The steps of the loops -/

theorem parseValue_blank {blanks : Bytes} (h : Blank blanks) (fuel : ℕ) (stream : Bytes) :
    parseValue floats fuel (blanks ++ stream) = parseValue floats fuel stream := by
  cases fuel with
  | zero => rfl
  | succ fuel => rw [parseValue, parseValue, skipWhitespace_blank h]

theorem parseArrayLoop_comma {elements : List Value} (h : elements ≠ []) (fuel : ℕ)
    (stream : Bytes) : parseArrayLoop floats (fuel + 1) elements (0x2C :: stream) =
      parseArrayLoop floats fuel elements stream := by
  rw [parseArrayLoop, skipWhitespace_cons (by decide)]
  simp [ok_bind, peekChar, getChar, h]

theorem parseArrayLoop_close {blanks : Bytes} (h : Blank blanks) (fuel : ℕ)
    (elements : List Value) (stream : Bytes) :
    parseArrayLoop floats (fuel + 1) elements (blanks ++ 0x5D :: stream) =
      .ok (array elements, stream) := by
  rw [parseArrayLoop, skipWhitespace_blank h, skipWhitespace_cons (by decide)]
  rfl

theorem parseArrayLoop_blank {blanks : Bytes} (h : Blank blanks) (fuel : ℕ) (elements : List Value)
    (stream : Bytes) : parseArrayLoop floats fuel elements (blanks ++ stream) =
      parseArrayLoop floats fuel elements stream := by
  cases fuel with
  | zero => rfl
  | succ fuel => rw [parseArrayLoop, parseArrayLoop, skipWhitespace_blank h]

/-- Up to the next element. -/
theorem parseArrayLoop_value {blanks : Bytes} (h : Blank blanks) {c : UInt8} (hc : Starts c)
    (fuel : ℕ) (elements : List Value) (tail : Bytes) :
    parseArrayLoop floats (fuel + 1) elements (blanks ++ c :: tail) =
      (parseValue floats fuel (c :: tail) >>= fun r ↦
        parseArrayLoop floats fuel (elements ++ [r.1]) r.2) := by
  rw [parseArrayLoop, skipWhitespace_blank h, skipWhitespace_cons hc.1]
  simp only [ok_bind, peekChar, if_neg hc.2.1, if_neg hc.2.2.1]

theorem parseArrayLoop_element {blanks : Bytes} (h : Blank blanks) {c : UInt8} (hc : Starts c)
    (fuel : ℕ) (elements : List Value) {tail : Bytes} {value : Value} {rest : Bytes}
    (hvalue : parseValue floats fuel (c :: tail) = .ok (value, rest)) :
    parseArrayLoop floats (fuel + 1) elements (blanks ++ c :: tail) =
      parseArrayLoop floats fuel (elements ++ [value]) rest := by
  rw [parseArrayLoop_value h hc, hvalue]
  rfl

theorem parseObjectLoop_comma {entries : List (Bytes × Value)} (h : entries ≠ []) (fuel : ℕ)
    (stream : Bytes) : parseObjectLoop floats (fuel + 1) entries (0x2C :: stream) =
      parseObjectLoop floats fuel entries stream := by
  rw [parseObjectLoop, skipWhitespace_cons (by decide)]
  simp [ok_bind, peekChar, getChar, h]

theorem parseObjectLoop_close {blanks : Bytes} (h : Blank blanks) (fuel : ℕ)
    (entries : List (Bytes × Value)) (stream : Bytes) :
    parseObjectLoop floats (fuel + 1) entries (blanks ++ 0x7D :: stream) =
      .ok (hash entries, stream) := by
  rw [parseObjectLoop, skipWhitespace_blank h, skipWhitespace_cons (by decide)]
  rfl

/-- Up to the value behind a key. -/
theorem parseObjectLoop_key {blanks : Bytes} (h : Blank blanks) (escapeSlashes : Bool) (fuel : ℕ)
    (entries : List (Bytes × Value)) (key stream : Bytes) :
    parseObjectLoop floats (fuel + 1) entries
        (blanks ++ (quote escapeSlashes key ++ 0x3A :: stream)) =
      (parseValue floats fuel stream >>= fun r ↦
        parseObjectLoop floats fuel (SortedAssoc.insert (cString key) r.1 entries) r.2) := by
  have hquote : ∃ tail, quote escapeSlashes key ++ 0x3A :: stream = 0x22 :: tail := ⟨_, rfl⟩
  obtain ⟨tail, htail⟩ := hquote
  have hstring := parseString_quote escapeSlashes key (0x3A :: stream)
  rw [parseObjectLoop, skipWhitespace_blank h, htail, skipWhitespace_cons (by decide)]
  rw [htail] at hstring
  simp only [ok_bind, peekChar, hstring, skipWhitespace_cons (by decide : ¬((0x3A : UInt8) = 0x20 ∨
    (0x3A : UInt8) = 0x0A ∨ (0x3A : UInt8) = 0x0D ∨ (0x3A : UInt8) = 0x09 ∨ (0x3A : UInt8) = 0x0C))]
  rfl

/-! ### Values -/

theorem follows_blank {blanks : Bytes} (h : Blank blanks) {rest : Bytes} (hrest : Follows rest) :
    Follows (blanks ++ rest) := by
  cases blanks with
  | nil => exact hrest
  | cons c blanks =>
    refine follows_cons ?_
    rcases h c List.mem_cons_self with rfl | rfl | rfl | rfl | rfl <;> decide

theorem follows_writeElements (escapeSlashes : Bool) (elements : List Value) (indent : ℤ)
    {rest : Bytes} (hrest : Follows rest) :
    Follows (writeElements floats true escapeSlashes elements indent false ++ rest) := by
  cases elements with
  | nil => exact hrest
  | cons value elements =>
    simp only [writeElements]
    exact follows_cons (by decide)

theorem follows_writeEntries (escapeSlashes : Bool) (entries : List (Bytes × Value)) (indent : ℤ)
    {rest : Bytes} (hrest : Follows rest) :
    Follows (writeEntries floats true escapeSlashes entries indent false ++ rest) := by
  cases entries with
  | nil => exact hrest
  | cons entry entries =>
    obtain ⟨key, value⟩ := entry
    simp only [writeEntries]
    exact follows_cons (by decide)

/-- A text that begins with a digit or a minus is read as a number. -/
theorem parseValue_number {c : UInt8} (hc : c = 0x2D ∨ isDigit c = true) (fuel : ℕ)
    (tail : Bytes) :
    parseValue floats (fuel + 1) (c :: tail) = parseNumber floats (c :: tail) := by
  have hstarts : Starts c := by
    rcases hc with rfl | hdigit
    · decide
    · exact starts_isDigit hdigit
  have hother : c ≠ 0x7B ∧ c ≠ 0x5B ∧ c ≠ 0x74 ∧ c ≠ 0x66 ∧ c ≠ 0x6E ∧ c ≠ 0x22 := by
    rcases hc with rfl | hdigit
    · decide
    · refine ⟨?_, ?_, ?_, ?_, ?_, ?_⟩ <;>
        · rintro rfl
          exact absurd hdigit (by decide)
  rw [parseValue, skipWhitespace_cons hstarts.1]
  simp only [ok_bind, peekChar, hother, if_false]

theorem parseValue_decimalInt (n : ℤ) (fuel : ℕ) {rest : Bytes} (hrest : Follows rest) :
    parseValue floats (fuel + 1) (decimalInt n ++ rest) = .ok (ofInteger n, rest) := by
  obtain ⟨c, tail, hc, hnumber⟩ := decimalInt_head n
  rw [← parseNumber_decimalInt n hrest, hc]
  exact parseValue_number hnumber fuel (tail ++ rest)

theorem decimal_eq_decimalInt (n : ℕ) : decimal n = decimalInt n := by
  simp [decimalInt]

theorem parseValue_quote (escapeSlashes : Bool) (s : Bytes) (fuel : ℕ) (rest : Bytes) :
    parseValue floats (fuel + 1) (quote escapeSlashes s ++ rest) =
      .ok (string (cString s), rest) := by
  have hstring := parseString_quote escapeSlashes s rest
  obtain ⟨tail, htail⟩ : ∃ tail, quote escapeSlashes s ++ rest = 0x22 :: tail := ⟨_, rfl⟩
  rw [htail] at hstring ⊢
  rw [parseValue, skipWhitespace_cons (by decide)]
  simp only [ok_bind, peekChar, hstring]
  rfl

/-- One entry of `writeEntries`, with its separator. -/
def writeEntry (floats : FloatText) (escapeSlashes : Bool) (key : Bytes) (value : Value)
    (indent : ℤ) (first : Bool) : Bytes :=
  (if first then [] else [0x2C]) ++ (lead true (indent + 2) ++ (quote escapeSlashes key ++
    0x3A :: (((if pretty true indent then [0x20] else []) ++ lead true (-(indent + 2))) ++
      writeBody floats true escapeSlashes value (settle true (-(indent + 2))))))

theorem writeEntries_cons (escapeSlashes : Bool) (key : Bytes) (value : Value)
    (entries : List (Bytes × Value)) (indent : ℤ) (first : Bool) :
    writeEntries floats true escapeSlashes ((key, value) :: entries) indent first =
      writeEntry floats escapeSlashes key value indent first ++
        writeEntries floats true escapeSlashes entries indent false := by
  simp [writeEntries, writeEntry, writeString]

theorem insert_ne_nil (key : Bytes) (value : Value) (done : List (Bytes × Value)) :
    SortedAssoc.insert key value done ≠ [] := by
  intro hnil
  have hfind := SortedAssoc.find?_insert_self key value done
  simp [hnil] at hfind

/-- One entry is read up to its value, whatever the value is. -/
theorem parseObjectLoop_entry (escapeSlashes : Bool) (key : Bytes) (value : Value) (indent : ℤ)
    {first : Bool} {done : List (Bytes × Value)} (hdone : first = false → done ≠ []) {fuel : ℕ}
    {after : Bytes}
    (hfuel : 2 * (writeEntry floats escapeSlashes key value indent first ++ after).length + 1 ≤
      fuel) :
    ∃ fuel', 2 * (writeBody floats true escapeSlashes value (settle true (-(indent + 2))) ++
        after).length + 1 ≤ fuel' ∧
      parseObjectLoop floats fuel done
          (writeEntry floats escapeSlashes key value indent first ++ after) =
        (parseValue floats fuel'
            (writeBody floats true escapeSlashes value (settle true (-(indent + 2))) ++ after) >>=
          fun r ↦ parseObjectLoop floats fuel'
            (SortedAssoc.insert (cString key) r.1 done) r.2) := by
  set body := writeBody floats true escapeSlashes value (settle true (-(indent + 2))) with hbody
  set gap := (if pretty true indent then [0x20] else []) ++ lead true (-(indent + 2)) with hgap
  have hblankGap : Blank gap := by
    intro c hc
    rcases List.mem_append.1 hc with hc | hc
    · exact blank_ite (show Blank [0x20] by simp [Blank]) c hc
    · exact blank_lead true _ c hc
  have htext : writeEntry floats escapeSlashes key value indent first ++ after =
      (if first then [] else [0x2C]) ++ (lead true (indent + 2) ++ (quote escapeSlashes key ++
        0x3A :: (gap ++ (body ++ after)))) := by
    simp [writeEntry, hbody, hgap]
  -- the entry behind its separator
  have hentry : ∀ k, parseObjectLoop floats (k + 1) done (lead true (indent + 2) ++
        (quote escapeSlashes key ++ 0x3A :: (gap ++ (body ++ after)))) =
      (parseValue floats k (body ++ after) >>= fun r ↦
        parseObjectLoop floats k (SortedAssoc.insert (cString key) r.1 done) r.2) := by
    intro k
    rw [parseObjectLoop_key (blank_lead true _), parseValue_blank hblankGap]
  have hquote : 0 < (quote escapeSlashes key).length := Nat.succ_pos _
  rw [htext] at hfuel ⊢
  cases first with
  | true =>
    obtain ⟨fuel, rfl⟩ : ∃ k, fuel = k + 1 := ⟨fuel - 1, by omega⟩
    refine ⟨fuel, ?_, hentry fuel⟩
    simp only [List.length_append, List.length_cons] at hfuel ⊢
    omega
  | false =>
    -- the separator takes one more turn of the loop
    obtain ⟨fuel, rfl⟩ : ∃ k, fuel = k + 2 := ⟨fuel - 2, by
      simp only [Bool.false_eq_true, if_false, List.length_append, List.length_cons] at hfuel
      omega⟩
    refine ⟨fuel, ?_, ?_⟩
    · simp only [List.length_append, List.length_cons] at hfuel ⊢
      omega
    · simp only [Bool.false_eq_true, if_false, List.singleton_append]
      rw [parseObjectLoop_comma (hdone rfl)]
      exact hentry fuel

theorem parseValue_bracket (fuel : ℕ) (stream : Bytes) :
    parseValue floats (fuel + 1) (0x5B :: stream) = parseArrayLoop floats fuel [] stream := by
  rw [parseValue, skipWhitespace_cons (by decide)]
  rfl

theorem parseValue_brace (fuel : ℕ) (stream : Bytes) :
    parseValue floats (fuel + 1) (0x7B :: stream) = parseObjectLoop floats fuel [] stream := by
  rw [parseValue, skipWhitespace_cons (by decide)]
  rfl

/-- The reader throws where a value should begin with a separator or a closing brace. -/
theorem parseValue_throws {blanks : Bytes} (hblanks : Blank blanks) {c : UInt8}
    (hc : c = 0x2C ∨ c = 0x7D) (fuel : ℕ) (rest : Bytes) :
    parseValue floats (fuel + 1) (blanks ++ c :: rest) = .error .thrown := by
  rw [parseValue_blank hblanks, parseValue,
    skipWhitespace_cons (by rcases hc with rfl | rfl <;> decide)]
  rcases hc with rfl | rfl <;> rfl

/-- The reader throws at a comma behind the opening bracket. -/
theorem parseArrayLoop_throws {blanks : Bytes} (h : Blank blanks) (fuel : ℕ) (rest : Bytes) :
    parseArrayLoop floats (fuel + 1) [] (blanks ++ 0x2C :: rest) = .error .thrown := by
  rw [parseArrayLoop, skipWhitespace_blank h, skipWhitespace_cons (by decide)]
  rfl

/-- An element of a known type is read and the loop goes on, or it throws. -/
theorem parseArrayLoop_known {value : Value} (hknown : foreignFreeType value = true)
    {elements done : List Value} {blanks tail after rest : Bytes} {c : UInt8} {fuel : ℕ}
    (hblanks : Blank blanks) (hstarts : Starts c)
    (hvalue : parseValue floats fuel (c :: tail) =
      if value.legible then .ok (value.known.asRead, after) else .error .thrown)
    (hlater : parseArrayLoop floats fuel (done ++ [value.known.asRead]) after =
      if legibleElements elements then
        .ok (array (done ++ [value.known.asRead] ++ asReadElements (knownElements elements)), rest)
      else .error .thrown) :
    parseArrayLoop floats (fuel + 1) done (blanks ++ c :: tail) =
      if legibleElements (value :: elements) then
        .ok (array (done ++ asReadElements (knownElements (value :: elements))), rest)
      else .error .thrown := by
  rw [parseArrayLoop_value hblanks hstarts, hvalue, legibleElements, knownElements, hknown,
    if_pos rfl, Bool.not_true, Bool.false_or, asReadElements]
  cases value.legible with
  | false => rfl
  | true =>
    rw [if_pos rfl, ok_bind, Bool.true_and, hlater]
    simp

/-- The text of elements the first of which is foreign, up to the first comma. -/
theorem writeElements_emptyFirst (floats : FloatText) (escapeSlashes : Bool)
    {elements : List Value} (h : emptyFirst elements = true) (indent : ℤ) :
    ∃ rest, writeElements floats true escapeSlashes elements indent true =
      lead true (indent + 2) ++ 0x2C :: rest := by
  match elements, h with
  | value :: next :: elements, h =>
    obtain ⟨typeName, rfl⟩ := (foreignFreeType_eq_false_iff value).1 (by simpa [emptyFirst] using h)
    exact ⟨lead true (indent + 2) ++ (writeBody floats true escapeSlashes next
      (settle true (indent + 2)) ++ writeElements floats true escapeSlashes elements indent false),
      by simp [writeElements, writeBody]⟩

mutual

/-- **A written value is read back** as far as it is known, whatever follows it. -/
theorem parseValue_writeBody (escapeSlashes : Bool) : ∀ value : Value, value.FloatFree →
    foreignFreeType value = true →
    ∀ (indent : ℤ) (fuel : ℕ) (rest : Bytes), Follows rest →
      2 * (writeBody floats true escapeSlashes value indent ++ rest).length ≤ fuel →
      parseValue floats fuel (writeBody floats true escapeSlashes value indent ++ rest) =
        if value.legible then .ok (value.known.asRead, rest) else .error .thrown
  -- a value is written with at least one character, so there is fuel
  | value, h, hknown, indent, 0, rest, _, hfuel => by
    obtain ⟨c, tail, hc, -⟩ := writeBody_head floats h hknown escapeSlashes indent
    simp [hc] at hfuel
  | null, _, _, _, fuel + 1, rest, _, _ => by simp only [writeBody, legible]; rfl
  | bool true, _, _, _, fuel + 1, rest, _, _ => by simp only [writeBody, legible]; rfl
  | bool false, _, _, _, fuel + 1, rest, _, _ => by simp only [writeBody, legible]; rfl
  | int n, _, _, _, fuel + 1, rest, hrest, _ => by
    simp only [writeBody, legible, if_true, known, asRead]
    exact parseValue_decimalInt n.toInt fuel hrest
  | uint n, _, _, _, fuel + 1, rest, hrest, _ => by
    simp only [writeBody, legible, if_true, known, asRead, decimal_eq_decimalInt]
    exact parseValue_decimalInt n.toNat fuel hrest
  | longlong n, _, _, _, fuel + 1, rest, hrest, _ => by
    simp only [writeBody, legible, if_true, known, asRead]
    exact parseValue_decimalInt n.toInt fuel hrest
  | ulonglong n, _, _, _, fuel + 1, rest, hrest, _ => by
    simp only [writeBody, legible, if_true, known, asRead, decimal_eq_decimalInt]
    exact parseValue_decimalInt n.toNat fuel hrest
  | double bits, h, _, _, _ + 1, _, _, _ =>
    absurd h (by simp [FloatFree, everywhere, floatFreeType])
  | longDouble bits, h, _, _, _ + 1, _, _, _ =>
    absurd h (by simp [FloatFree, everywhere, floatFreeType])
  | foreign typeName, _, hknown, _, _ + 1, _, _, _ => absurd hknown (by simp [foreignFreeType])
  | string s, _, _, _, fuel + 1, rest, _, _ => by
    simp only [writeBody, writeString, if_true, legible, known, asRead]
    exact parseValue_quote escapeSlashes s fuel rest
  | array elements, h, _, indent, fuel + 1, rest, _, hfuel => by
    have hall : everywhereElements floatFreeType elements = true := by
      simpa [FloatFree, everywhere, floatFreeType] using h
    have hclose : Blank (if pretty true indent then newline indent else []) :=
      blank_ite (blank_newline indent)
    simp only [writeBody, List.append_assoc, List.singleton_append, legible, known, asRead]
    rw [List.cons_append, parseValue_bracket]
    cases hfirst : emptyFirst elements with
    | true =>
      obtain ⟨tail, htail⟩ := writeElements_emptyFirst floats escapeSlashes hfirst indent
      obtain ⟨fuel, rfl⟩ : ∃ k, fuel = k + 1 := ⟨fuel - 1, by simp [writeBody] at hfuel; omega⟩
      rw [htail, List.append_assoc, List.cons_append, parseArrayLoop_throws (blank_lead true _)]
      rfl
    | false =>
      have hloop := parseArrayLoop_writeElements escapeSlashes elements hall indent true [] fuel _
        rest hclose (by simp) (fun _ ↦ hfirst) (by simp [writeBody] at hfuel ⊢; omega)
      simpa using hloop
  | hash entries, h, _, indent, fuel + 1, rest, _, hfuel => by
    have hall : everywhereEntries floatFreeType entries = true := by
      simpa [FloatFree, everywhere, floatFreeType] using h
    have hclose : Blank (if pretty true indent && indent ≥ 0 then newline indent else []) :=
      blank_ite (blank_newline indent)
    have hloop := parseObjectLoop_writeEntries escapeSlashes entries hall indent true [] fuel _
      rest hclose (by simp) (by simp [writeBody] at hfuel ⊢; omega)
    simp only [writeBody, List.append_assoc, List.singleton_append, legible, known, asRead]
    rw [List.cons_append, parseValue_brace]
    simpa using hloop

/-- The loop of `parseArray` on the elements that are left. -/
theorem parseArrayLoop_writeElements (escapeSlashes : Bool) : ∀ elements : List Value,
    everywhereElements floatFreeType elements = true →
    ∀ (indent : ℤ) (first : Bool) (done : List Value) (fuel : ℕ) (blanks rest : Bytes),
      Blank blanks → (first = false → done ≠ []) → (first = true → emptyFirst elements = false) →
      2 * (writeElements floats true escapeSlashes elements indent first ++
        (blanks ++ 0x5D :: rest)).length + 1 ≤ fuel →
      parseArrayLoop floats fuel done
          (writeElements floats true escapeSlashes elements indent first ++
            (blanks ++ 0x5D :: rest)) =
        if legibleElements elements then
          .ok (array (done ++ asReadElements (knownElements elements)), rest)
        else .error .thrown
  | [], _, indent, first, done, fuel, blanks, rest, hblanks, _, _, hfuel => by
    obtain ⟨fuel, rfl⟩ : ∃ k, fuel = k + 1 := ⟨fuel - 1, by omega⟩
    simp only [writeElements, List.nil_append, legibleElements, if_true, knownElements,
      asReadElements, List.append_nil]
    exact parseArrayLoop_close hblanks fuel done rest
  | value :: elements, h, indent, first, done, fuel, blanks, rest, hblanks, hdone, hfirst,
      hfuel => by
    rw [everywhereElements, Bool.and_eq_true] at h
    set after := writeElements floats true escapeSlashes elements indent false ++
      (blanks ++ 0x5D :: rest) with hafter
    set body := writeBody floats true escapeSlashes value (settle true (indent + 2)) with hbody
    have hfollows : Follows after :=
      follows_writeElements escapeSlashes elements indent
        (follows_blank hblanks (follows_cons (by decide)))
    -- the element itself, once the separator is read
    have helement : ∀ fuel, 2 * (lead true (indent + 2) ++ (body ++ after)).length + 1 ≤ fuel →
        parseArrayLoop floats fuel done (lead true (indent + 2) ++ (body ++ after)) =
          if legibleElements (value :: elements) then
            .ok (array (done ++ asReadElements (knownElements (value :: elements))), rest)
          else .error .thrown := by
      intro fuel hle
      obtain ⟨fuel, rfl⟩ : ∃ k, fuel = k + 1 := ⟨fuel - 1, by omega⟩
      cases hknown : foreignFreeType value with
      | false =>
        -- nothing is written for it: the loop goes on behind the blanks
        obtain ⟨typeName, rfl⟩ := (foreignFreeType_eq_false_iff value).1 hknown
        have hnothing : body = [] := by rw [hbody, writeBody]
        rw [legibleElements, knownElements, hknown, if_neg Bool.false_ne_true, Bool.not_false,
          Bool.true_or, Bool.true_and]
        rw [hnothing, List.nil_append] at hle ⊢
        cases first with
        | true =>
          obtain rfl : elements = [] := by
            cases elements with
            | nil => rfl
            | cons _ _ => simp [emptyFirst, hknown] at hfirst
          have hclose : Blank (lead true (indent + 2) ++ blanks) := by
            intro c hc
            rcases List.mem_append.1 hc with hc | hc
            · exact blank_lead true _ c hc
            · exact hblanks c hc
          rw [hafter, writeElements, List.nil_append, ← List.append_assoc,
            parseArrayLoop_close hclose]
          simp [legibleElements, knownElements, asReadElements]
        | false =>
          rw [parseArrayLoop_blank (blank_lead true _), hafter]
          exact parseArrayLoop_writeElements escapeSlashes elements h.2 indent false done _ blanks
            rest hblanks hdone (by simp) (by
              rw [← hafter]
              rw [List.length_append] at hle
              omega)
      | true =>
        obtain ⟨c, tail, hc, hstarts⟩ := writeBody_head floats h.1 hknown escapeSlashes
          (settle true (indent + 2))
        rw [← hbody] at hc
        simp only [List.length_append] at hle
        have hpos : 0 < body.length := by rw [hc]; exact Nat.succ_pos _
        have hvalue := parseValue_writeBody escapeSlashes value h.1 hknown
          (settle true (indent + 2)) fuel after hfollows
          (by rw [← hbody, List.length_append]; omega)
        rw [← hbody, hc, List.cons_append] at hvalue
        rw [hc, List.cons_append]
        exact parseArrayLoop_known hknown (blank_lead true _) hstarts hvalue
          (parseArrayLoop_writeElements escapeSlashes elements h.2 indent false _ fuel blanks rest
            hblanks (by simp) (by simp) (by rw [← hafter]; omega))
    have htext : writeElements floats true escapeSlashes (value :: elements) indent first ++
        (blanks ++ 0x5D :: rest) =
          (if first then [] else [0x2C]) ++ (lead true (indent + 2) ++ (body ++ after)) := by
      simp [writeElements, hafter, hbody]
    rw [htext] at hfuel ⊢
    cases first with
    | true => exact helement fuel hfuel
    | false =>
      obtain ⟨fuel, rfl⟩ : ∃ k, fuel = k + 1 := ⟨fuel - 1, by omega⟩
      simp only [Bool.false_eq_true, if_false, List.singleton_append, List.length_cons] at hfuel ⊢
      rw [parseArrayLoop_comma (hdone rfl)]
      exact helement fuel (by omega)

/-- The loop of `parseObject` on the entries that are left. -/
theorem parseObjectLoop_writeEntries (escapeSlashes : Bool) : ∀ entries : List (Bytes × Value),
    everywhereEntries floatFreeType entries = true →
    ∀ (indent : ℤ) (first : Bool) (done : List (Bytes × Value)) (fuel : ℕ) (blanks rest : Bytes),
      Blank blanks → (first = false → done ≠ []) →
      2 * (writeEntries floats true escapeSlashes entries indent first ++
        (blanks ++ 0x7D :: rest)).length + 1 ≤ fuel →
      parseObjectLoop floats fuel done
          (writeEntries floats true escapeSlashes entries indent first ++
            (blanks ++ 0x7D :: rest)) =
        if legibleEntries entries then .ok (hash (asReadEntries (knownEntries entries) done), rest)
        else .error .thrown
  | [], _, indent, first, done, fuel, blanks, rest, hblanks, _, hfuel => by
    obtain ⟨fuel, rfl⟩ : ∃ k, fuel = k + 1 := ⟨fuel - 1, by omega⟩
    simp only [writeEntries, List.nil_append, legibleEntries, if_true, knownEntries, asReadEntries]
    exact parseObjectLoop_close hblanks fuel done rest
  | (key, value) :: entries, h, indent, first, done, fuel, blanks, rest, hblanks, hdone, hfuel => by
    rw [everywhereEntries, Bool.and_eq_true] at h
    set after := writeEntries floats true escapeSlashes entries indent false ++
      (blanks ++ 0x7D :: rest) with hafter
    have hfollows : Follows after :=
      follows_writeEntries escapeSlashes entries indent
        (follows_blank hblanks (follows_cons (by decide)))
    have htext : writeEntries floats true escapeSlashes ((key, value) :: entries) indent first ++
        (blanks ++ 0x7D :: rest) =
          writeEntry floats escapeSlashes key value indent first ++ after := by
      simp [writeEntries_cons, hafter]
    rw [htext] at hfuel ⊢
    obtain ⟨fuel, hle, hstep⟩ := parseObjectLoop_entry escapeSlashes key value indent hdone hfuel
    rw [hstep, legibleEntries, knownEntries, asReadEntries]
    cases hknown : foreignFreeType value with
    | false =>
      -- nothing is written for it: the reader sees what follows it
      obtain ⟨typeName, rfl⟩ := (foreignFreeType_eq_false_iff value).1 hknown
      obtain ⟨fuel, rfl⟩ : ∃ k, fuel = k + 1 := ⟨fuel - 1, by omega⟩
      have hthrows : parseValue floats (fuel + 1) after = .error .thrown := by
        rw [hafter]
        cases entries with
        | nil => exact parseValue_throws hblanks (Or.inr rfl) fuel rest
        | cons e entries =>
          rw [writeEntries_cons]
          exact parseValue_throws blank_nil (Or.inl rfl) fuel _
      rw [writeBody, List.nil_append, hthrows, legible, Bool.false_and]
      rfl
    | true =>
      rw [parseValue_writeBody escapeSlashes value h.1 hknown _ fuel after hfollows (by omega)]
      cases hlegible : value.legible with
      | false => rfl
      | true =>
        rw [if_pos rfl, ok_bind, Bool.true_and, hafter,
          parseObjectLoop_writeEntries escapeSlashes entries h.2 indent false _ fuel blanks rest
            hblanks (fun _ ↦ insert_ne_nil _ _ _) (by
              rw [← hafter]
              rw [List.length_append] at hle
              omega)]

end

/-! ### Whole texts -/

/-- **The text of a value without floating-point numbers** reads as what is known of it, or not at
all, under every setting of the writer. -/
theorem fromJSON_toJSON_of_floatFree {value : Value} (h : value.FloatFree)
    (escapeSlashes prettify : Bool) :
    fromJSON floats (value.toJSON floats escapeSlashes prettify) =
      if value.legible then value.known.asRead else null := by
  set indent : ℤ := if prettify then 0 else 1
  set body := writeBody floats true escapeSlashes value (settle true indent) with hbody
  have htext : value.toJSON floats escapeSlashes prettify = lead true indent ++ body := rfl
  have hvalue : parseValue floats (2 * (lead true indent ++ body).length + 1) (body ++ []) =
      if value.legible then .ok (value.known.asRead, []) else .error .thrown := by
    cases hknown : foreignFreeType value with
    | true =>
      exact parseValue_writeBody escapeSlashes value h hknown (settle true indent) _ [] follows_nil
        (by rw [← hbody, List.append_nil, List.length_append]; omega)
    | false =>
      obtain ⟨typeName, rfl⟩ := (foreignFreeType_eq_false_iff value).1 hknown
      rw [hbody, writeBody, legible]
      rfl
  rw [List.append_nil] at hvalue
  rw [fromJSON, readFrom, htext, parseValue_blank (blank_lead true indent), hvalue]
  cases value.legible <;> rfl

/-- **The text of a value reads as `asRead`**, under every setting of the writer. -/
theorem fromJSON_toJSON {value : Value} (h : value.Exact) (escapeSlashes prettify : Bool) :
    fromJSON floats (value.toJSON floats escapeSlashes prettify) = value.asRead := by
  obtain ⟨hfloat, hforeign⟩ := (exact_iff value).1 h
  rw [fromJSON_toJSON_of_floatFree hfloat, legible_of_foreignFree value hforeign, if_pos rfl,
    known_of_foreignFree value hforeign]

mutual

/-- Equality up to the C++ types of integers. -/
def SameUpToKind : Value → Value → Prop
  | null, null => True
  | bool b, bool b' => b = b'
  | string s, string s' => s = s'
  | array elements, array elements' => SameElements elements elements'
  | hash entries, hash entries' => SameEntries entries entries'
  | int n, value => integer? value = some n.toInt
  | uint n, value => integer? value = some (n.toNat : ℤ)
  | longlong n, value => integer? value = some n.toInt
  | ulonglong n, value => integer? value = some (n.toNat : ℤ)
  | _, _ => False

/-- The elements agree one by one. -/
def SameElements : List Value → List Value → Prop
  | [], [] => True
  | value :: elements, value' :: elements' =>
    SameUpToKind value value' ∧ SameElements elements elements'
  | _, _ => False

/-- The entries agree one by one, the keys exactly. -/
def SameEntries : List (Bytes × Value) → List (Bytes × Value) → Prop
  | [], [] => True
  | (key, value) :: entries, (key', value') :: entries' =>
    key = key' ∧ SameUpToKind value value' ∧ SameEntries entries entries'
  | _, _ => False

end

/-- The reader's type for an integer of at most 64 bits holds its value. -/
theorem integer?_ofInteger {n : ℤ} (hlow : -2 ^ 63 ≤ n) (hhigh : n < 2 ^ 64) :
    integer? (ofInteger n) = some n := by
  rw [ofInteger, readInteger]
  by_cases hn : 0 ≤ n
  · obtain ⟨k, rfl⟩ := Int.eq_ofNat_of_zero_le hn
    have hk : min k (2 ^ 64 - 1) = k := by omega
    simp only [hn, decide_true, if_true, Int.natAbs_natCast, hk]
    split_ifs with huint hint
    · rw [integer?, Int32.toInt_ofNat_of_lt (by omega)]
    · rw [integer?, UInt32.toNat_ofNat', Nat.mod_eq_of_lt (by omega)]
    · rw [integer?, UInt64.toNat_ofNat', Nat.mod_eq_of_lt (by omega)]
  · have hmax : max (-(n.natAbs : ℤ)) (-2 ^ 63) = n := by omega
    simp only [hn, decide_false, Bool.false_eq_true, if_false, hmax]
    split_ifs with hint
    · rw [integer?, Int32.toInt_ofInt_of_le hint.1 (by omega)]
    · rw [integer?, Int64.toInt_ofInt_of_le hlow (by omega)]

theorem cString_of_nulFree {s : Bytes} (h : 0 ∉ s) : cString s = s := by
  rw [cString, List.takeWhile_eq_self_iff]
  intro c hc
  simpa using fun heq : c = 0 ↦ h (heq ▸ hc)

theorem asReadEntries_eq_foldl (entries : List (Bytes × Value)) :
    ∀ done, asReadEntries entries done =
      (entries.map fun p ↦ (cString p.1, p.2.asRead)).foldl
        (fun map p ↦ SortedAssoc.insert p.1 p.2 map) done := by
  induction entries with
  | nil => exact fun done ↦ rfl
  | cons entry entries ih =>
    intro done
    obtain ⟨key, value⟩ := entry
    rw [asReadEntries, ih, List.map_cons, List.foldl_cons]

/-- An ordered hash whose keys have no NUL is read entry by entry. -/
theorem asReadEntries_of_ordered {entries : List (Bytes × Value)}
    (hsorted : SortedAssoc.Sorted entries) (hkeys : ∀ p ∈ entries, 0 ∉ p.1) :
    asReadEntries entries [] = entries.map fun p ↦ (p.1, p.2.asRead) := by
  have hmap : (entries.map fun p ↦ (cString p.1, p.2.asRead)) =
      entries.map fun p ↦ (p.1, p.2.asRead) :=
    List.map_congr_left fun p hp ↦ by rw [cString_of_nulFree (hkeys p hp)]
  have hsorted' : SortedAssoc.Sorted (entries.map fun p ↦ (p.1, p.2.asRead)) :=
    (SortedAssoc.sorted_map (f := fun p ↦ (p.1, p.2.asRead)) fun _ ↦ rfl).2 hsorted
  rw [asReadEntries_eq_foldl, hmap, SortedAssoc.foldl_insert_self hsorted']

mutual

/-- **What the reader makes of a value** differs from it only in the C++ types of integers. -/
theorem sameUpToKind_asRead : ∀ value : Value, value.Exact → value.NulFree → value.Ordered →
    SameUpToKind value value.asRead
  | null, _, _, _ => by simp [asRead, SameUpToKind]
  | bool _, _, _, _ => by simp [asRead, SameUpToKind]
  | int n, _, _, _ => by
    have hlow := n.le_toInt
    have hhigh := n.toInt_lt
    simpa only [asRead, SameUpToKind] using integer?_ofInteger (by omega) (by omega)
  | uint n, _, _, _ => by
    have hhigh := n.toNat_lt
    simpa only [asRead, SameUpToKind] using integer?_ofInteger (by omega) (by omega)
  | longlong n, _, _, _ => by
    have hlow := n.le_toInt
    have hhigh := n.toInt_lt
    simpa only [asRead, SameUpToKind] using integer?_ofInteger (by omega) (by omega)
  | ulonglong n, _, _, _ => by
    have hhigh := n.toNat_lt
    simpa only [asRead, SameUpToKind] using integer?_ofInteger (by omega) (by omega)
  | double _, h, _, _ => absurd h (by simp [Exact, everywhere, exactType])
  | longDouble _, h, _, _ => absurd h (by simp [Exact, everywhere, exactType])
  | foreign _, h, _, _ => absurd h (by simp [Exact, everywhere, exactType])
  | string s, _, hnul, _ => by
    have hs : 0 ∉ s := by simpa [NulFree, everywhere, nulFreeText] using hnul
    simp [asRead, SameUpToKind, cString_of_nulFree hs]
  | array elements, h, hnul, hord => by
    simp only [Exact, NulFree, Ordered, everywhere, Bool.and_eq_true] at h hnul hord
    simpa only [asRead, SameUpToKind] using
      sameElements_asRead elements h.2 hnul.2 hord.2
  | hash entries, h, hnul, hord => by
    simp only [Exact, NulFree, Ordered, everywhere, Bool.and_eq_true] at h hnul hord
    have hkeys : ∀ p ∈ entries, 0 ∉ p.1 := by simpa [nulFreeText] using hnul.1
    have hsorted : SortedAssoc.Sorted entries := by simpa [orderedEntries] using hord.1
    simp only [asRead, SameUpToKind, asReadEntries_of_ordered hsorted hkeys]
    exact sameEntries_asRead entries h.2 hnul.2 hord.2

theorem sameElements_asRead : ∀ elements : List Value,
    everywhereElements exactType elements = true →
    everywhereElements nulFreeText elements = true →
    everywhereElements orderedEntries elements = true →
    SameElements elements (asReadElements elements)
  | [], _, _, _ => by simp [asReadElements, SameElements]
  | value :: elements, h, hnul, hord => by
    simp only [everywhereElements, Bool.and_eq_true] at h hnul hord
    simp only [asReadElements, SameElements]
    exact ⟨sameUpToKind_asRead value h.1 hnul.1 hord.1,
      sameElements_asRead elements h.2 hnul.2 hord.2⟩

theorem sameEntries_asRead : ∀ entries : List (Bytes × Value),
    everywhereEntries exactType entries = true →
    everywhereEntries nulFreeText entries = true →
    everywhereEntries orderedEntries entries = true →
    SameEntries entries (entries.map fun p ↦ (p.1, p.2.asRead))
  | [], _, _, _ => by simp [SameEntries]
  | (key, value) :: entries, h, hnul, hord => by
    simp only [everywhereEntries, Bool.and_eq_true] at h hnul hord
    simp only [List.map_cons, SameEntries, true_and]
    exact ⟨sameUpToKind_asRead value h.1 hnul.1 hord.1,
      sameEntries_asRead entries h.2 hnul.2 hord.2⟩

end

/-- **The JSON round trip.** -/
theorem roundTrip {value : Value} (hexact : value.Exact) (hnul : value.NulFree)
    (hordered : value.Ordered) (escapeSlashes prettify : Bool) :
    SameUpToKind value (fromJSON floats (value.toJSON floats escapeSlashes prettify)) := by
  rw [fromJSON_toJSON hexact]
  exact sameUpToKind_asRead value hexact hnul hordered

/-- A value with every kind of content, and the bounds of both 64-bit types. -/
def sampleValue : Value :=
  hash [([0x22, 0x5C, 0x0A], longlong (-9223372036854775808)),
    (ascii "a", array [null, bool true, int (-7), uint 4000000000, array [], hash []]),
    (ascii "b/c", string (ascii "x/y")), (ascii "z", hash [([], ulonglong 18446744073709551615)])]

/-- A float text for values without floating-point numbers. -/
def noFloatText : FloatText := ⟨fun _ ↦ [], fun _ ↦ [], fun _ ↦ 0⟩

theorem roundTrip_sampleValue :
    SameUpToKind sampleValue (fromJSON noFloatText (sampleValue.toJSON noFloatText true true)) := by
  have hexact : sampleValue.Exact := by decide +kernel
  have hnul : sampleValue.NulFree := by decide +kernel
  have hordered : sampleValue.Ordered := by decide +kernel
  exact roundTrip hexact hnul hordered true true

end Touchless.Value
