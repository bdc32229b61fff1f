import Touchless.Utility.ValueReadBack

/-!
# Equality of values

`operator==` compares the packed JSON texts of two values. On values made of strings, arrays and
hashes, the text determines everything but what stands behind a NUL in a string or a key: there the
writer stops (`equal_iff_cut`).
-/

namespace Touchless.Value

mutual

/-- The value with its strings and keys up to their first NUL. -/
def cut : Value → Value
  | string s => string (cString s)
  | array elements => array (cutElements elements)
  | hash entries => hash (cutEntries entries)
  | value => value

/-- The elements, each of them cut. -/
def cutElements : List Value → List Value
  | [] => []
  | value :: elements => cut value :: cutElements elements

/-- The entries in their order, keys and values cut. -/
def cutEntries : List (Bytes × Value) → List (Bytes × Value)
  | [] => []
  | (key, value) :: entries => (cString key, cut value) :: cutEntries entries

end

/-- Is the value a string, an array or a hash? -/
def textType : Value → Bool
  | string _ => true
  | array _ => true
  | hash _ => true
  | _ => false

/-- The value is built from strings, arrays and hashes. -/
def Textual (value : Value) : Prop := value.everywhere textType = true

instance (value : Value) : Decidable value.Textual := inferInstanceAs (Decidable (_ = _))

variable {floats : FloatText}

/-! ### What is cut is not written -/

theorem quote_cString (escapeSlashes : Bool) (s : Bytes) :
    quote escapeSlashes (cString s) = quote escapeSlashes s := by
  have hcut : cString (cString s) = cString s :=
    cString_of_nulFree fun hmem ↦ by simpa using List.mem_takeWhile_imp hmem
  rw [quote, hcut, quote]

mutual

theorem writeBody_cut (escapeSlashes : Bool) : ∀ (value : Value) (indent : ℤ),
    writeBody floats true escapeSlashes value.cut indent =
      writeBody floats true escapeSlashes value indent
  | null, _ | bool _, _ | int _, _ | uint _, _ | longlong _, _ | ulonglong _, _ | double _, _
  | longDouble _, _ | foreign _, _ => rfl
  | string s, _ => quote_cString escapeSlashes s
  | array elements, indent => by
    rw [cut, writeBody, writeBody, writeElements_cut escapeSlashes elements]
  | hash entries, indent => by
    rw [cut, writeBody, writeBody, writeEntries_cut escapeSlashes entries]

theorem writeElements_cut (escapeSlashes : Bool) : ∀ (elements : List Value) (indent : ℤ)
    (first : Bool), writeElements floats true escapeSlashes (cutElements elements) indent first =
      writeElements floats true escapeSlashes elements indent first
  | [], _, _ => rfl
  | value :: elements, indent, first => by
    rw [cutElements, writeElements, writeElements, writeBody_cut escapeSlashes value,
      writeElements_cut escapeSlashes elements]

theorem writeEntries_cut (escapeSlashes : Bool) : ∀ (entries : List (Bytes × Value)) (indent : ℤ)
    (first : Bool), writeEntries floats true escapeSlashes (cutEntries entries) indent first =
      writeEntries floats true escapeSlashes entries indent first
  | [], _, _ => rfl
  | (key, value) :: entries, indent, first => by
    rw [cutEntries, writeEntries_cons, writeEntries_cons, writeEntry, writeEntry, quote_cString,
      writeBody_cut escapeSlashes value, writeEntries_cut escapeSlashes entries]

end

/-! ### The rest can be read off the text -/

/-- In a packed text there are no line breaks. -/
theorem lead_odd {indent : ℤ} (h : indent % 2 = 1) : lead true indent = [] := by
  simp [lead, pretty, h]

theorem settle_odd {indent : ℤ} (h : indent % 2 = 1) : settle true indent = indent := by
  simp [settle, pretty, h]

theorem quote_injective (escapeSlashes : Bool) {s s' rest rest' : Bytes}
    (h : quote escapeSlashes s ++ rest = quote escapeSlashes s' ++ rest') :
    cString s = cString s' ∧ rest = rest' := by
  have hread := (parseString_quote escapeSlashes s rest).symm.trans
    ((congrArg parseString h).trans (parseString_quote escapeSlashes s' rest'))
  simpa using hread

/-- What a value made of texts begins with. -/
theorem writeBody_textual {value : Value} (h : value.Textual) (escapeSlashes : Bool) (indent : ℤ) :
    ∃ c tail, writeBody floats true escapeSlashes value indent = c :: tail ∧
      c ≠ 0x2C ∧ c ≠ 0x5D := by
  cases value with
  | string s => exact ⟨0x22, _, rfl, by decide, by decide⟩
  | array elements => exact ⟨0x5B, _, by simp only [writeBody]; rfl, by decide, by decide⟩
  | hash entries => exact ⟨0x7B, _, by simp only [writeBody]; rfl, by decide, by decide⟩
  | _ => exact absurd h (by simp [Textual, everywhere, textType])

/-- An element and the elements behind it. -/
theorem writeElements_odd {indent : ℤ} (h : indent % 2 = 1) (value : Value) (elements : List Value)
    (first : Bool) (rest : Bytes) :
    writeElements floats true true (value :: elements) indent first ++ rest =
      (if first then [] else [0x2C]) ++ (writeBody floats true true value (indent + 2) ++
        (writeElements floats true true elements indent false ++ rest)) := by
  have hodd : (indent + 2) % 2 = 1 := by omega
  simp only [writeElements, lead_odd hodd, settle_odd hodd, List.nil_append, List.append_assoc]

/-- An entry and the entries behind it. -/
theorem writeEntries_odd {indent : ℤ} (h : indent % 2 = 1) (key : Bytes) (value : Value)
    (entries : List (Bytes × Value)) (first : Bool) (rest : Bytes) :
    writeEntries floats true true ((key, value) :: entries) indent first ++ rest =
      (if first then [] else [0x2C]) ++ (quote true key ++ 0x3A ::
        (writeBody floats true true value (-(indent + 2)) ++
          (writeEntries floats true true entries indent false ++ rest))) := by
  have hodd : (indent + 2) % 2 = 1 := by omega
  have hodd' : -(indent + 2) % 2 = 1 := by omega
  have hpretty : pretty true indent = false := by simp [pretty, h]
  simp only [writeEntries_cons, writeEntry, lead_odd hodd, lead_odd hodd', settle_odd hodd',
    hpretty, Bool.false_eq_true, if_false, List.nil_append, List.append_assoc, List.cons_append]

/-- The elements do not end where there is one more. -/
theorem writeElements_ne_close {indent : ℤ} (h : indent % 2 = 1) {value : Value}
    (htext : value.Textual) (elements : List Value) (first : Bool) (rest rest' : Bytes) :
    writeElements floats true true (value :: elements) indent first ++ rest ≠ 0x5D :: rest' := by
  obtain ⟨c, tail, hc, -, hclose⟩ := writeBody_textual htext true (indent + 2)
  rw [writeElements_odd h, hc]
  cases first with
  | true => exact fun heq ↦ hclose (List.cons.inj heq).1
  | false => exact fun heq ↦ absurd (List.cons.inj heq).1 (by decide)

theorem writeEntries_ne_close {indent : ℤ} (h : indent % 2 = 1) (key : Bytes) (value : Value)
    (entries : List (Bytes × Value)) (first : Bool) (rest rest' : Bytes) :
    writeEntries floats true true ((key, value) :: entries) indent first ++ rest ≠
      0x7D :: rest' := by
  rw [writeEntries_odd h]
  cases first <;> exact fun heq ↦ absurd (List.cons.inj heq).1 (by decide)

mutual

/-- **The packed text determines the value** up to what is cut, whatever follows it. -/
theorem cut_eq_of_writeBody : ∀ (value value' : Value), value.Textual → value'.Textual →
    ∀ {indent : ℤ} {rest rest' : Bytes}, indent % 2 = 1 →
      writeBody floats true true value indent ++ rest =
        writeBody floats true true value' indent ++ rest' →
      value.cut = value'.cut ∧ rest = rest'
  | string s, value', _, htext', indent, rest, rest', _, h => by
    cases value' with
    | string s' =>
      obtain ⟨hs, hrest⟩ := quote_injective true h
      exact ⟨by rw [cut, cut, hs], hrest⟩
    | array elements => simp [writeBody, writeString, quote] at h
    | hash entries => simp [writeBody, writeString, quote] at h
    | _ => exact absurd htext' (by simp [Textual, everywhere, textType])
  | array elements, value', htext, htext', indent, rest, rest', hodd, h => by
    cases value' with
    | string s' => simp [writeBody, writeString, quote] at h
    | array elements' =>
      simp only [Textual, everywhere, Bool.and_eq_true] at htext htext'
      have hpretty : pretty true indent = false := by simp [pretty, hodd]
      simp only [writeBody, hpretty, Bool.false_eq_true, if_false, List.append_nil,
        List.append_assoc, List.singleton_append] at h
      obtain ⟨helements, hrest⟩ :=
        cutElements_eq_of_writeElements elements elements' htext.2 htext'.2 hodd (List.cons.inj h).2
      exact ⟨by rw [cut, cut, helements], hrest⟩
    | hash entries => simp [writeBody] at h
    | _ => exact absurd htext' (by simp [Textual, everywhere, textType])
  | hash entries, value', htext, htext', indent, rest, rest', hodd, h => by
    cases value' with
    | string s' => simp [writeBody, writeString, quote] at h
    | array elements' => simp [writeBody] at h
    | hash entries' =>
      simp only [Textual, everywhere, Bool.and_eq_true] at htext htext'
      have hpretty : pretty true indent = false := by simp [pretty, hodd]
      simp only [writeBody, hpretty, Bool.false_and, Bool.false_eq_true, if_false, List.append_nil,
        List.append_assoc, List.singleton_append] at h
      obtain ⟨hentries, hrest⟩ :=
        cutEntries_eq_of_writeEntries entries entries' htext.2 htext'.2 hodd (List.cons.inj h).2
      exact ⟨by rw [cut, cut, hentries], hrest⟩
    | _ => exact absurd htext' (by simp [Textual, everywhere, textType])
  | null, _, htext, _, _, _, _, _, _ | bool _, _, htext, _, _, _, _, _, _
  | int _, _, htext, _, _, _, _, _, _ | uint _, _, htext, _, _, _, _, _, _
  | longlong _, _, htext, _, _, _, _, _, _ | ulonglong _, _, htext, _, _, _, _, _, _
  | double _, _, htext, _, _, _, _, _, _ | longDouble _, _, htext, _, _, _, _, _, _
  | foreign _, _, htext, _, _, _, _, _, _ =>
    absurd htext (by simp [Textual, everywhere, textType])

theorem cutElements_eq_of_writeElements : ∀ (elements elements' : List Value),
    everywhereElements textType elements = true → everywhereElements textType elements' = true →
    ∀ {indent : ℤ} {first : Bool} {rest rest' : Bytes}, indent % 2 = 1 →
      writeElements floats true true elements indent first ++ 0x5D :: rest =
        writeElements floats true true elements' indent first ++ 0x5D :: rest' →
      cutElements elements = cutElements elements' ∧ rest = rest'
  | [], [], _, _, _, _, _, _, _, h => ⟨rfl, (List.cons.inj h).2⟩
  | [], value' :: elements', _, htext', _, first, _, _, hodd, h => by
    rw [everywhereElements, Bool.and_eq_true] at htext'
    exact absurd h.symm (writeElements_ne_close hodd htext'.1 elements' first _ _)
  | value :: elements, [], htext, _, _, first, _, _, hodd, h => by
    rw [everywhereElements, Bool.and_eq_true] at htext
    exact absurd h (writeElements_ne_close hodd htext.1 elements first _ _)
  | value :: elements, value' :: elements', htext, htext', indent, first, rest, rest', hodd, h => by
    rw [everywhereElements, Bool.and_eq_true] at htext htext'
    rw [writeElements_odd hodd, writeElements_odd hodd] at h
    obtain ⟨hvalue, hlater⟩ := cut_eq_of_writeBody value value' htext.1 htext'.1
      (by omega) (List.append_cancel_left h)
    obtain ⟨helements, hrest⟩ :=
      cutElements_eq_of_writeElements elements elements' htext.2 htext'.2 hodd hlater
    exact ⟨by rw [cutElements, cutElements, hvalue, helements], hrest⟩

theorem cutEntries_eq_of_writeEntries : ∀ (entries entries' : List (Bytes × Value)),
    everywhereEntries textType entries = true → everywhereEntries textType entries' = true →
    ∀ {indent : ℤ} {first : Bool} {rest rest' : Bytes}, indent % 2 = 1 →
      writeEntries floats true true entries indent first ++ 0x7D :: rest =
        writeEntries floats true true entries' indent first ++ 0x7D :: rest' →
      cutEntries entries = cutEntries entries' ∧ rest = rest'
  | [], [], _, _, _, _, _, _, _, h => ⟨rfl, (List.cons.inj h).2⟩
  | [], (key', value') :: entries', _, _, _, first, _, _, hodd, h =>
    absurd h.symm (writeEntries_ne_close hodd key' value' entries' first _ _)
  | (key, value) :: entries, [], _, _, _, first, _, _, hodd, h =>
    absurd h (writeEntries_ne_close hodd key value entries first _ _)
  | (key, value) :: entries, (key', value') :: entries', htext, htext', indent, first, rest, rest',
      hodd, h => by
    rw [everywhereEntries, Bool.and_eq_true] at htext htext'
    rw [writeEntries_odd hodd, writeEntries_odd hodd] at h
    obtain ⟨hkey, hcolon⟩ := quote_injective true (List.append_cancel_left h)
    obtain ⟨hvalue, hlater⟩ := cut_eq_of_writeBody value value' htext.1 htext'.1
      (by omega) (List.cons.inj hcolon).2
    obtain ⟨hentries, hrest⟩ :=
      cutEntries_eq_of_writeEntries entries entries' htext.2 htext'.2 hodd hlater
    exact ⟨by rw [cutEntries, cutEntries, hkey, hvalue, hentries], hrest⟩

end

/-- **Equality by text**: values made of strings, arrays and hashes are equal for the class exactly
if they agree up to what stands behind a NUL in a string or a key. -/
theorem equal_iff_cut {value other : Value} (htext : value.Textual) (htext' : other.Textual) :
    value.equal floats other = true ↔ value.cut = other.cut := by
  have htexts : value.equal floats other = true ↔
      writeBody floats true true value 1 = writeBody floats true true other 1 := by
    rw [equal, beq_iff_eq]
    rfl
  rw [htexts]
  constructor
  · intro h
    exact (cut_eq_of_writeBody value other htext htext' (by decide)
      (congrArg (· ++ ([] : Bytes)) h)).1
  · intro h
    rw [← writeBody_cut true value, h, writeBody_cut]

end Touchless.Value
