import Touchless.Utility.ValueDocuments

/-!
# What the reader takes for a document

The reader is more liberal than the grammar of JSON: any number of commas may stand where one
should, none where there should be one, and a string may hold any byte but a quote and a backslash.
A `Tree` is a text as the reader takes it, with all that it passes over. The file shows that
`parseValue` reads exactly the texts of trees, and what it makes of them (`parseValue_eq_ok_iff`).
-/

namespace Touchless.Value

/-! ### Trees -/

/-- A character of a string: a byte as it is, an escape of one letter `e`, the escape of a code unit
that is no first half of a pair, or the escapes of both halves. -/
inductive Piece where
  | plain (c : UInt8)
  | short (c : Char) (e : UInt8)
  | unit (u : ℕ) (escape : Bytes)
  | pair (high low : ℕ) (escape escape' : Bytes)

namespace Piece

def text : Piece → Bytes
  | plain c => [c]
  | short _ e => [0x5C, e]
  | unit _ escape => escape
  | pair _ _ escape escape' => escape ++ escape'

/-- What the character adds to the string. -/
def bytes : Piece → Bytes
  | plain c => [c]
  | short c _ => String.utf8EncodeChar c
  | unit u _ => (utf8 u).getD []
  | pair high low _ _ => (utf8 (combineSurrogates high low)).getD []

/-- The character can be read. -/
def Valid : Piece → Prop
  | plain c => c ≠ 0x22 ∧ c ≠ 0x5C
  | short c e => (c, e) ∈ Json.shortEscapes
  | unit u escape => Json.UnicodeEscape u escape ∧ ¬(0xD800 ≤ u ∧ u ≤ 0xDBFF)
  | pair high low escape escape' =>
    Json.UnicodeEscape high escape ∧ Json.UnicodeEscape low escape' ∧
      (0xD800 ≤ high ∧ high ≤ 0xDBFF) ∧ 0xDC00 ≤ low ∧ low ≤ 0xDFFF

end Piece

/-- A string between its quotes. -/
abbrev Literal := List Piece

/-- A value as it stands in the text. Each element and each member has what stands before it, and
the last field of a bracket or a brace is what stands before it; between the name of a member and
its value there is a colon, with blanks before and after it. -/
inductive Tree where
  | null
  | bool (b : Bool)
  | number (text : Bytes) (value : Value)
  | string (literal : Literal)
  | array (elements : List (Bytes × Tree)) (close : Bytes)
  | object (members : List (Bytes × Literal × Bytes × Bytes × Tree)) (close : Bytes)

namespace Tree

/-- The string with its quotes. -/
def quoted (literal : Literal) : Bytes := 0x22 :: (literal.flatMap Piece.text ++ [0x22])

mutual

def text : Tree → Bytes
  | null => ascii "null"
  | bool b => if b then ascii "true" else ascii "false"
  | number text _ => text
  | string literal => quoted literal
  | array elements close => 0x5B :: (textElements elements ++ (close ++ [0x5D]))
  | object members close => 0x7B :: (textMembers members ++ (close ++ [0x7D]))

/-- The elements with what stands before them. -/
def textElements : List (Bytes × Tree) → Bytes
  | [] => []
  | (gap, element) :: elements => gap ++ (text element ++ textElements elements)

/-- The members with what stands before them. -/
def textMembers : List (Bytes × Literal × Bytes × Bytes × Tree) → Bytes
  | [] => []
  | (gap, key, before, after, element) :: members =>
    gap ++ (quoted key ++ (before ++ 0x3A :: (after ++ (text element ++ textMembers members))))

end

mutual

/-- The value that is read. -/
def value : Tree → Value
  | null => .null
  | bool b => .bool b
  | number _ value => value
  | string literal => .string (literal.flatMap Piece.bytes)
  | array elements _ => .array (valueElements elements)
  | object members _ => .hash (valueMembers members [])

/-- The values of the elements. -/
def valueElements : List (Bytes × Tree) → List Value
  | [] => []
  | (_, element) :: elements => value element :: valueElements elements

/-- The entries that the members make of those before them. -/
def valueMembers : List (Bytes × Literal × Bytes × Bytes × Tree) → List (Bytes × Value) →
    List (Bytes × Value)
  | [], entries => entries
  | (_, key, _, _, element) :: members, entries =>
    valueMembers members
      (SortedAssoc.insert (key.flatMap Piece.bytes) (value element) entries)

end

end Tree

/-- All characters of the string can be read. -/
def Literal.Valid (literal : Literal) : Prop := ∀ piece ∈ literal, piece.Valid

mutual

/-- The reader takes the text of the tree in front of `rest`. For a number it depends on `rest`
where it ends. -/
inductive Takes (floats : FloatText) : Tree → Bytes → Prop where
  | null {rest : Bytes} : Takes floats .null rest
  | bool {b : Bool} {rest : Bytes} : Takes floats (.bool b) rest
  | number {text : Bytes} {value : Value} {rest : Bytes}
      (htext : Json.IsNumber text) (h : parseNumber floats (text ++ rest) = .ok (value, rest)) :
      Takes floats (.number text value) rest
  | string {literal : Literal} {rest : Bytes} (h : literal.Valid) :
      Takes floats (.string literal) rest
  | array {elements : List (Bytes × Tree)} {close rest : Bytes}
      (h : TakesElements floats true elements (close ++ 0x5D :: rest))
      (hclose : Gap elements.isEmpty close) : Takes floats (.array elements close) rest
  | object {members : List (Bytes × Literal × Bytes × Bytes × Tree)} {close rest : Bytes}
      (h : TakesMembers floats true members (close ++ 0x7D :: rest))
      (hclose : Gap members.isEmpty close) : Takes floats (.object members close) rest

/-- The elements one after the other. -/
inductive TakesElements (floats : FloatText) : Bool → List (Bytes × Tree) → Bytes → Prop where
  | nil {first : Bool} {rest : Bytes} : TakesElements floats first [] rest
  | cons {first : Bool} {gap : Bytes} {element : Tree} {elements : List (Bytes × Tree)}
      {rest : Bytes} (hgap : Gap first gap)
      (h : Takes floats element (Tree.textElements elements ++ rest))
      (hs : TakesElements floats false elements rest) :
      TakesElements floats first ((gap, element) :: elements) rest

/-- The members one after the other. -/
inductive TakesMembers (floats : FloatText) :
    Bool → List (Bytes × Literal × Bytes × Bytes × Tree) → Bytes → Prop where
  | nil {first : Bool} {rest : Bytes} : TakesMembers floats first [] rest
  | cons {first : Bool} {gap before after : Bytes} {key : Literal} {element : Tree}
      {members : List (Bytes × Literal × Bytes × Bytes × Tree)} {rest : Bytes}
      (hgap : Gap first gap) (hkey : key.Valid) (hbefore : Blank before) (hafter : Blank after)
      (h : Takes floats element (Tree.textMembers members ++ rest))
      (hs : TakesMembers floats false members rest) :
      TakesMembers floats first ((gap, key, before, after, element) :: members) rest

end

/-! ### What has been read: characters -/

variable {α β : Type} {floats : FloatText} {stream rest : Bytes}

theorem requireChar_eq_ok {required : UInt8} (h : requireChar stream required = .ok rest) :
    stream = required :: rest := by
  obtain ⟨c, hc, hreturn⟩ := exists_of_bind_eq_ok h
  obtain ⟨tail, rfl⟩ := peekChar_eq_ok hc
  split_ifs at hreturn with hrequired
  cases hreturn
  rw [hrequired, List.tail_cons]

theorem requireChars_eq_ok {word : Bytes} (h : requireChars stream word = .ok rest) :
    stream = word ++ rest := by
  induction word generalizing stream with
  | nil =>
    cases h
    rfl
  | cons c word ih =>
    obtain ⟨tail, hc, hword⟩ := exists_of_bind_eq_ok h
    rw [requireChar_eq_ok hc, ih hword, List.cons_append]

theorem skipWhitespace_eq_ok (h : skipWhitespace stream = .ok rest) :
    ∃ blanks, Blank blanks ∧ stream = blanks ++ rest := by
  induction stream with
  | nil => cases h
  | cons c stream ih =>
    rw [skipWhitespace] at h
    split_ifs at h with hc
    · obtain ⟨blanks, hblanks, rfl⟩ := ih h
      exact ⟨c :: blanks, List.forall_mem_cons.2 ⟨hc, hblanks⟩, rfl⟩
    · cases h
      exact ⟨[], blank_nil, rfl⟩

/-! ### What has been read: strings -/

theorem getHexDigitAsNibble_eq_ok {k : ℕ} (h : getHexDigitAsNibble stream = .ok (k, rest)) :
    ∃ d, stream = d :: rest ∧ Json.HexDigit d k := by
  cases stream with
  | nil => cases h
  | cons d stream =>
    refine ⟨d, ?_⟩
    obtain ⟨n, hn⟩ : ∃ n, d.toNat = n := ⟨_, rfl⟩
    obtain rfl : d = UInt8.ofNat n := by rw [← hn, UInt8.ofNat_toNat]
    simp only [getHexDigitAsNibble, isDigit, Bool.and_eq_true, decide_eq_true_eq,
      UInt8.le_iff_toNat_le] at h
    rw [hn] at h
    split_ifs at h with hdigit hupper hlower <;> cases h
    · obtain ⟨hlow, hhigh⟩ : 48 ≤ n ∧ n ≤ 57 := hdigit
      exact ⟨rfl, .inl (by interval_cases n <;> rfl)⟩
    · obtain ⟨hlow, hhigh⟩ : 65 ≤ n ∧ n ≤ 70 := hupper
      exact ⟨rfl, .inl (by interval_cases n <;> rfl)⟩
    · obtain ⟨hlow, hhigh⟩ : 97 ≤ n ∧ n ≤ 102 := hlower
      exact ⟨rfl, .inr (by interval_cases n <;> rfl)⟩

theorem getUnicode_eq_ok {u : ℕ} (h : getUnicode stream = .ok (u, rest)) :
    ∃ digits, stream = digits ++ rest ∧ Json.UnicodeEscape u (0x5C :: 0x75 :: digits) := by
  obtain ⟨⟨k₀, stream₁⟩, h₀, hrest₀⟩ := exists_of_bind_eq_ok h
  obtain ⟨⟨k₁, stream₂⟩, h₁, hrest₁⟩ := exists_of_bind_eq_ok hrest₀
  obtain ⟨⟨k₂, stream₃⟩, h₂, hrest₂⟩ := exists_of_bind_eq_ok hrest₁
  obtain ⟨⟨k₃, stream₄⟩, h₃, hreturn⟩ := exists_of_bind_eq_ok hrest₂
  obtain ⟨d₀, hstream, hd₀⟩ := getHexDigitAsNibble_eq_ok h₀
  obtain ⟨d₁, hstream₁, hd₁⟩ := getHexDigitAsNibble_eq_ok h₁
  obtain ⟨d₂, hstream₂, hd₂⟩ := getHexDigitAsNibble_eq_ok h₂
  obtain ⟨d₃, hstream₃, hd₃⟩ := getHexDigitAsNibble_eq_ok h₃
  cases hreturn
  refine ⟨[d₀, d₁, d₂, d₃], by rw [hstream, hstream₁, hstream₂, hstream₃]; rfl, ?_⟩
  rw [nibbles hd₁.lt hd₂.lt hd₃.lt]
  exact .digits hd₀ hd₁ hd₂ hd₃

theorem parseSurrogate_high {u : ℕ} (hhigh : 0xD800 ≤ u ∧ u ≤ 0xDBFF) (stream : Bytes) :
    parseSurrogate u stream = (requireChar stream 0x5C >>= fun stream ↦
      requireChar stream 0x75 >>= fun stream ↦ getUnicode stream >>= fun r ↦
        if r.1 < 0xDC00 ∨ 0xDFFF < r.1 then throw .thrown
        else pure (combineSurrogates u r.1, r.2)) := by
  rw [parseSurrogate, if_pos hhigh]
  rfl

/-- What stands behind the first half of a pair. -/
theorem parseSurrogate_eq_ok {u unicode : ℕ} (hhigh : 0xD800 ≤ u ∧ u ≤ 0xDBFF)
    (h : parseSurrogate u stream = .ok (unicode, rest)) :
    ∃ low escape, stream = escape ++ rest ∧ Json.UnicodeEscape low escape ∧
      (0xDC00 ≤ low ∧ low ≤ 0xDFFF) ∧ unicode = combineSurrogates u low := by
  rw [parseSurrogate_high hhigh] at h
  obtain ⟨stream₁, hbackslash, h₁⟩ := exists_of_bind_eq_ok h
  obtain ⟨stream₂, hletter, h₂⟩ := exists_of_bind_eq_ok h₁
  obtain ⟨⟨low, stream₃⟩, hlow, hreturn⟩ := exists_of_bind_eq_ok h₂
  obtain ⟨digits, hdigits, hescape⟩ := getUnicode_eq_ok hlow
  dsimp only at hreturn
  split_ifs at hreturn with hrange
  simp only [pure, Except.pure, Except.ok.injEq, Prod.mk.injEq] at hreturn
  obtain ⟨hcombine, rfl⟩ := hreturn
  refine ⟨low, 0x5C :: 0x75 :: digits, ?_, hescape, by omega, hcombine.symm⟩
  rw [requireChar_eq_ok hbackslash, requireChar_eq_ok hletter, hdigits]
  rfl

/-- The escape of a code unit, or of a pair of them. -/
theorem parseUnicodeEscape_eq_ok {bytes : Bytes}
    (h : parseUnicodeEscape stream = .ok (bytes, rest)) :
    ∃ piece : Piece, piece.Valid ∧ 0x5C :: 0x75 :: stream = piece.text ++ rest ∧
      bytes = piece.bytes := by
  obtain ⟨⟨u, stream₁⟩, hu, h₁⟩ := exists_of_bind_eq_ok h
  obtain ⟨⟨unicode, stream₂⟩, hunicode, hreturn⟩ := exists_of_bind_eq_ok h₁
  obtain ⟨digits, hstream, hdigits⟩ := getUnicode_eq_ok hu
  dsimp only at hunicode hreturn
  obtain ⟨hbytes, rfl⟩ : utf8 unicode = some bytes ∧ stream₂ = rest := by
    cases hutf8 : utf8 unicode with
    | none =>
      rw [hutf8] at hreturn
      cases hreturn
    | some _ =>
      rw [hutf8] at hreturn
      cases hreturn
      exact ⟨rfl, rfl⟩
  by_cases hhigh : 0xD800 ≤ u ∧ u ≤ 0xDBFF
  · obtain ⟨low, escape, hstream₁, hescape, hlow, hcombine⟩ := parseSurrogate_eq_ok hhigh hunicode
    refine ⟨.pair u low (0x5C :: 0x75 :: digits) escape, ⟨hdigits, hescape, hhigh, hlow⟩, ?_, ?_⟩
    · rw [hstream, hstream₁, Piece.text, List.append_assoc]
      rfl
    · rw [Piece.bytes, ← hcombine, hbytes, Option.getD_some]
  · rw [parseSurrogate, if_neg hhigh] at hunicode
    cases hunicode
    refine ⟨.unit u (0x5C :: 0x75 :: digits), ⟨hdigits, hhigh⟩, by rw [hstream]; rfl, ?_⟩
    rw [Piece.bytes, hbytes, Option.getD_some]

theorem parseEscape_eq_ok {bytes : Bytes} (h : parseEscape stream = .ok (bytes, rest)) :
    ∃ piece : Piece, piece.Valid ∧ 0x5C :: stream = piece.text ++ rest ∧ bytes = piece.bytes := by
  obtain ⟨⟨e, stream₁⟩, he, hswitch⟩ := exists_of_bind_eq_ok h
  have hshort : ∀ c : Char, (c, e) ∈ Json.shortEscapes →
      Except.ok (String.utf8EncodeChar c, stream₁) =
        (Except.ok (bytes, rest) : Except Fault (Bytes × Bytes)) →
      ∃ piece : Piece, piece.Valid ∧ 0x5C :: e :: stream₁ = piece.text ++ rest ∧
        bytes = piece.bytes := by
    rintro c hmem ⟨⟩
    exact ⟨.short c e, hmem, rfl, rfl⟩
  rw [getChar_eq_ok he]
  dsimp only at hswitch
  split_ifs at hswitch with hself hb hf hn hr ht hu
  · rcases hself with rfl | rfl | rfl
    · exact hshort '"' (by decide) hswitch
    · exact hshort '\\' (by decide) hswitch
    · exact hshort '/' (by decide) hswitch
  · exact hshort (Char.ofNat 0x08) (by rw [hb]; decide) hswitch
  · exact hshort (Char.ofNat 0x0C) (by rw [hf]; decide) hswitch
  · exact hshort '\n' (by rw [hn]; decide) hswitch
  · exact hshort '\r' (by rw [hr]; decide) hswitch
  · exact hshort '\t' (by rw [ht]; decide) hswitch
  · rw [hu]
    exact parseUnicodeEscape_eq_ok hswitch

theorem parseStringLoop_eq_ok {fuel : ℕ} {value result : Bytes}
    (h : parseStringLoop fuel value stream = .ok (result, rest)) :
    ∃ literal : Literal, literal.Valid ∧ stream = literal.flatMap Piece.text ++ 0x22 :: rest ∧
      result = value ++ literal.flatMap Piece.bytes := by
  induction fuel generalizing value stream with
  | zero => cases h
  | succ fuel ih =>
    rw [parseStringLoop] at h
    obtain ⟨⟨c, stream₁⟩, hc, hturn⟩ := exists_of_bind_eq_ok h
    -- a piece, and what the next turns read
    have hcons : ∀ (piece : Piece) (stream₂ : Bytes), piece.Valid →
        c :: stream₁ = piece.text ++ stream₂ →
        parseStringLoop fuel (value ++ piece.bytes) stream₂ = .ok (result, rest) →
        ∃ literal : Literal, literal.Valid ∧
          c :: stream₁ = literal.flatMap Piece.text ++ 0x22 :: rest ∧
          result = value ++ literal.flatMap Piece.bytes := by
      intro piece stream₂ hvalid htext hloop
      obtain ⟨literal, hliteral, rfl, hresult⟩ := ih hloop
      refine ⟨piece :: literal, List.forall_mem_cons.2 ⟨hvalid, hliteral⟩, ?_, ?_⟩
      · rw [htext, List.flatMap_cons, List.append_assoc]
      · rw [hresult, List.flatMap_cons, List.append_assoc]
    rw [getChar_eq_ok hc]
    dsimp only at hturn
    split_ifs at hturn with hquote hbackslash
    · cases hturn
      exact ⟨[], by simp [Literal.Valid], by rw [hquote]; rfl, (List.append_nil _).symm⟩
    · obtain ⟨⟨escaped, stream₂⟩, hescape, hloop⟩ := exists_of_bind_eq_ok hturn
      obtain ⟨piece, hvalid, htext, rfl⟩ := parseEscape_eq_ok hescape
      exact hcons piece stream₂ hvalid (by rw [hbackslash, htext]) hloop
    · exact hcons (.plain c) stream₁ ⟨hquote, hbackslash⟩ rfl hturn

theorem parseString_eq_ok {result : Bytes} (h : parseString stream = .ok (result, rest)) :
    ∃ literal : Literal, literal.Valid ∧ stream = Tree.quoted literal ++ rest ∧
      result = literal.flatMap Piece.bytes := by
  obtain ⟨stream₁, hquote, hloop⟩ := exists_of_bind_eq_ok h
  obtain ⟨literal, hvalid, rfl, hresult⟩ := parseStringLoop_eq_ok hloop
  refine ⟨literal, hvalid, ?_, hresult⟩
  rw [requireChar_eq_ok hquote, Tree.quoted, List.cons_append, List.append_assoc]
  rfl

/-! ### What has been read: values -/

/-- The text of the elements that are left of an array, with their values and what stands behind the
bracket. -/
def ReadsElements (floats : FloatText) (first : Bool) (stream : Bytes) (values : List Value)
    (rest : Bytes) : Prop :=
  ∃ elements close, stream = Tree.textElements elements ++ (close ++ 0x5D :: rest) ∧
    values = Tree.valueElements elements ∧
    TakesElements floats first elements (close ++ 0x5D :: rest) ∧
    Gap (first && elements.isEmpty) close

/-- The text of the members that are left of an object, with what they make of the entries and what
stands behind the brace. -/
def ReadsMembers (floats : FloatText) (first : Bool) (stream : Bytes)
    (entries entries' : List (Bytes × Value)) (rest : Bytes) : Prop :=
  ∃ members close, stream = Tree.textMembers members ++ (close ++ 0x7D :: rest) ∧
    entries' = Tree.valueMembers members entries ∧
    TakesMembers floats first members (close ++ 0x7D :: rest) ∧
    Gap (first && members.isEmpty) close

section Loops

variable {first : Bool} {gap : Bytes} {values : List Value}
  {entries entries' : List (Bytes × Value)}

theorem readsElements_close : ReadsElements floats first (0x5D :: rest) [] rest :=
  ⟨[], [], rfl, rfl, .nil, gap_blank blank_nil⟩

theorem readsMembers_close : ReadsMembers floats first (0x7D :: rest) entries entries rest :=
  ⟨[], [], rfl, rfl, .nil, gap_blank blank_nil⟩

/-- A gap stands before the first element, or before the bracket. -/
theorem ReadsElements.prepend (hgap : Gap first gap)
    (h : ReadsElements floats first stream values rest) :
    ReadsElements floats first (gap ++ stream) values rest := by
  obtain ⟨elements, close, rfl, rfl, htakes, hclose⟩ := h
  cases htakes with
  | nil =>
    rw [List.isEmpty_nil, Bool.and_true] at hclose
    refine ⟨[], gap ++ close, ?_, rfl, .nil, ?_⟩
    · rw [Tree.textElements, List.nil_append, List.nil_append, List.append_assoc]
    · rw [List.isEmpty_nil, Bool.and_true]
      exact hgap.append hclose
  | @cons _ gap' element elements _ hgap' helement helements =>
    refine ⟨(gap ++ gap', element) :: elements, close, ?_, rfl,
      .cons (hgap.append hgap') helement helements, hclose⟩
    simp only [Tree.textElements, List.append_assoc]

theorem ReadsMembers.prepend (hgap : Gap first gap)
    (h : ReadsMembers floats first stream entries entries' rest) :
    ReadsMembers floats first (gap ++ stream) entries entries' rest := by
  obtain ⟨members, close, rfl, rfl, htakes, hclose⟩ := h
  cases htakes with
  | nil =>
    rw [List.isEmpty_nil, Bool.and_true] at hclose
    refine ⟨[], gap ++ close, ?_, rfl, .nil, ?_⟩
    · rw [Tree.textMembers, List.nil_append, List.nil_append, List.append_assoc]
    · rw [List.isEmpty_nil, Bool.and_true]
      exact hgap.append hclose
  | @cons _ gap' before after key element members _ hgap' hkey hbefore hafter helement hmembers =>
    refine ⟨(gap ++ gap', key, before, after, element) :: members, close, ?_, rfl,
      .cons (hgap.append hgap') hkey hbefore hafter helement hmembers, hclose⟩
    simp only [Tree.textMembers, List.append_assoc]

theorem ReadsElements.cons {element : Tree} (helement : Takes floats element stream)
    (h : ReadsElements floats false stream values rest) :
    ReadsElements floats first (element.text ++ stream) (element.value :: values) rest := by
  obtain ⟨elements, close, rfl, rfl, htakes, hclose⟩ := h
  refine ⟨([], element) :: elements, close, ?_, rfl,
    .cons (gap_blank blank_nil) helement htakes, ?_⟩
  · rw [Tree.textElements, List.nil_append, List.append_assoc]
  · rwa [List.isEmpty_cons, Bool.and_false]

theorem ReadsMembers.cons {key : Literal} {before after : Bytes} {element : Tree}
    (hkey : key.Valid) (hbefore : Blank before) (hafter : Blank after)
    (helement : Takes floats element stream)
    (h : ReadsMembers floats false stream
      (SortedAssoc.insert (key.flatMap Piece.bytes) element.value entries) entries' rest) :
    ReadsMembers floats first
      (Tree.quoted key ++ (before ++ 0x3A :: (after ++ (element.text ++ stream)))) entries entries'
      rest := by
  obtain ⟨members, close, rfl, rfl, htakes, hclose⟩ := h
  refine ⟨([], key, before, after, element) :: members, close, ?_, rfl,
    .cons (gap_blank blank_nil) hkey hbefore hafter helement htakes, ?_⟩
  · simp only [Tree.textMembers, List.nil_append, List.append_assoc, List.cons_append]
  · rwa [List.isEmpty_cons, Bool.and_false]

end Loops

/-- A word of the language. -/
theorem word_eq_ok {value result : Value} {word : Bytes}
    (h : (requireChars stream word >>= fun rest ↦ pure (value, rest)) = .ok (result, rest)) :
    stream = word ++ rest ∧ result = value := by
  obtain ⟨stream₁, hword, hreturn⟩ := exists_of_bind_eq_ok h
  cases hreturn
  exact ⟨requireChars_eq_ok hword, rfl⟩

/-- What `parseValue` has read: blanks and the text of a tree. -/
def ReadsValue (floats : FloatText) (stream : Bytes) (value : Value) (rest : Bytes) : Prop :=
  ∃ before tree, Blank before ∧ stream = before ++ (Tree.text tree ++ rest) ∧
    value = tree.value ∧ Takes floats tree rest

section Steps

variable {fuel : ℕ}

theorem parseValue_succ_eq_ok {value : Value}
    (hobject : ∀ {stream value rest}, parseObjectLoop floats fuel [] stream = .ok (value, rest) →
      ∃ entries, value = hash entries ∧ ReadsMembers floats true stream [] entries rest)
    (harray : ∀ {stream value rest}, parseArrayLoop floats fuel [] stream = .ok (value, rest) →
      ∃ values, value = array values ∧ ReadsElements floats true stream values rest)
    (h : parseValue floats (fuel + 1) stream = .ok (value, rest)) :
    ReadsValue floats stream value rest := by
  rw [parseValue] at h
  obtain ⟨stream₁, hblank, h₁⟩ := exists_of_bind_eq_ok h
  obtain ⟨c, hc, hswitch⟩ := exists_of_bind_eq_ok h₁
  obtain ⟨before, hbefore, rfl⟩ := skipWhitespace_eq_ok hblank
  suffices htree : ∃ tree : Tree, stream₁ = tree.text ++ rest ∧ value = tree.value ∧
      Takes floats tree rest by
    obtain ⟨tree, rfl, hvalue, htakes⟩ := htree
    exact ⟨before, tree, hbefore, rfl, hvalue, htakes⟩
  split_ifs at hswitch with hbrace hbracket ht hf hn hquote
  · -- an object
    obtain ⟨stream₂, hopen, hloop⟩ := exists_of_bind_eq_ok hswitch
    obtain ⟨entries, rfl, members, close, rfl, rfl, htakes, hclose⟩ := hobject hloop
    refine ⟨.object members close, ?_, rfl, .object htakes hclose⟩
    rw [requireChar_eq_ok hopen, Tree.text]
    simp only [List.cons_append, List.append_assoc, List.nil_append]
  · -- an array
    obtain ⟨stream₂, hopen, hloop⟩ := exists_of_bind_eq_ok hswitch
    obtain ⟨values, rfl, elements, close, rfl, rfl, htakes, hclose⟩ := harray hloop
    refine ⟨.array elements close, ?_, rfl, .array htakes hclose⟩
    rw [requireChar_eq_ok hopen, Tree.text]
    simp only [List.cons_append, List.append_assoc, List.nil_append]
  · obtain ⟨hstream, rfl⟩ := word_eq_ok hswitch
    exact ⟨.bool true, hstream, rfl, .bool⟩
  · obtain ⟨hstream, rfl⟩ := word_eq_ok hswitch
    exact ⟨.bool false, hstream, rfl, .bool⟩
  · obtain ⟨hstream, rfl⟩ := word_eq_ok hswitch
    exact ⟨.null, hstream, rfl, .null⟩
  · obtain ⟨⟨s, stream₂⟩, hstring, hreturn⟩ := exists_of_bind_eq_ok hswitch
    obtain ⟨literal, hvalid, hstream, rfl⟩ := parseString_eq_ok hstring
    cases hreturn
    exact ⟨.string literal, hstream, rfl, .string hvalid⟩
  · obtain ⟨text, rfl, htext⟩ := parseNumber_eq_ok hswitch
    exact ⟨.number text value, rfl, rfl, .number htext hswitch⟩

theorem parseObjectLoop_succ_eq_ok {entries : List (Bytes × Value)} {value : Value}
    (hvalue : ∀ {stream value rest}, parseValue floats fuel stream = .ok (value, rest) →
      ReadsValue floats stream value rest)
    (hobject : ∀ {entries stream value rest},
      parseObjectLoop floats fuel entries stream = .ok (value, rest) →
      ∃ entries', value = hash entries' ∧
        ReadsMembers floats entries.isEmpty stream entries entries' rest)
    (h : parseObjectLoop floats (fuel + 1) entries stream = .ok (value, rest)) :
    ∃ entries', value = hash entries' ∧
      ReadsMembers floats entries.isEmpty stream entries entries' rest := by
  rw [parseObjectLoop] at h
  obtain ⟨stream₁, hblank, h₁⟩ := exists_of_bind_eq_ok h
  obtain ⟨c, hc, hswitch⟩ := exists_of_bind_eq_ok h₁
  obtain ⟨before, hbefore, rfl⟩ := skipWhitespace_eq_ok hblank
  obtain ⟨tail, rfl⟩ := peekChar_eq_ok hc
  suffices hloop : ∃ entries', value = hash entries' ∧
      ReadsMembers floats entries.isEmpty (c :: tail) entries entries' rest by
    obtain ⟨entries', hresult, hmembers⟩ := hloop
    exact ⟨entries', hresult, hmembers.prepend (gap_blank hbefore)⟩
  split_ifs at hswitch with hcomma hempty hclose
  · -- a comma, behind a member
    obtain ⟨⟨_, stream₂⟩, hchar, hloop⟩ := exists_of_bind_eq_ok hswitch
    obtain ⟨entries', hresult, hmembers⟩ := hobject hloop
    cases hchar
    rw [Bool.eq_false_iff.2 hempty] at hmembers ⊢
    refine ⟨entries', hresult, ?_⟩
    rw [hcomma]
    exact hmembers.prepend gap_comma
  · cases hswitch
    rw [hclose]
    exact ⟨entries, rfl, readsMembers_close⟩
  · -- a member
    obtain ⟨⟨key, stream₂⟩, hstring, h₂⟩ := exists_of_bind_eq_ok hswitch
    obtain ⟨stream₃, hblank₃, h₃⟩ := exists_of_bind_eq_ok h₂
    obtain ⟨stream₄, hcolon, h₄⟩ := exists_of_bind_eq_ok h₃
    obtain ⟨⟨element, stream₅⟩, helement, hloop⟩ := exists_of_bind_eq_ok h₄
    obtain ⟨literal, hvalid, hkey, rfl⟩ := parseString_eq_ok hstring
    obtain ⟨between, hbetween, rfl⟩ := skipWhitespace_eq_ok hblank₃
    obtain ⟨after, tree, hafter, rfl, rfl, htakes⟩ := hvalue helement
    obtain ⟨entries', hresult, hmembers⟩ := hobject hloop
    rw [List.isEmpty_eq_false_iff.2 (insert_ne_nil _ _ entries)] at hmembers
    rw [hkey, requireChar_eq_ok hcolon]
    exact ⟨entries', hresult, hmembers.cons hvalid hbetween hafter htakes⟩

theorem parseArrayLoop_succ_eq_ok {elements : List Value} {value : Value}
    (hvalue : ∀ {stream value rest}, parseValue floats fuel stream = .ok (value, rest) →
      ReadsValue floats stream value rest)
    (harray : ∀ {elements stream value rest},
      parseArrayLoop floats fuel elements stream = .ok (value, rest) →
      ∃ values, value = array (elements ++ values) ∧
        ReadsElements floats elements.isEmpty stream values rest)
    (h : parseArrayLoop floats (fuel + 1) elements stream = .ok (value, rest)) :
    ∃ values, value = array (elements ++ values) ∧
      ReadsElements floats elements.isEmpty stream values rest := by
  rw [parseArrayLoop] at h
  obtain ⟨stream₁, hblank, h₁⟩ := exists_of_bind_eq_ok h
  obtain ⟨c, hc, hswitch⟩ := exists_of_bind_eq_ok h₁
  obtain ⟨before, hbefore, rfl⟩ := skipWhitespace_eq_ok hblank
  obtain ⟨tail, rfl⟩ := peekChar_eq_ok hc
  suffices hloop : ∃ values, value = array (elements ++ values) ∧
      ReadsElements floats elements.isEmpty (c :: tail) values rest by
    obtain ⟨values, hresult, helements⟩ := hloop
    exact ⟨values, hresult, helements.prepend (gap_blank hbefore)⟩
  split_ifs at hswitch with hcomma hempty hclose
  · -- a comma, behind an element
    obtain ⟨⟨_, stream₂⟩, hchar, hloop⟩ := exists_of_bind_eq_ok hswitch
    obtain ⟨values, hresult, helements⟩ := harray hloop
    cases hchar
    rw [Bool.eq_false_iff.2 hempty] at helements ⊢
    refine ⟨values, hresult, ?_⟩
    rw [hcomma]
    exact helements.prepend gap_comma
  · cases hswitch
    rw [hclose]
    exact ⟨[], by rw [List.append_nil], readsElements_close⟩
  · -- an element
    obtain ⟨⟨element, stream₂⟩, helement, hloop⟩ := exists_of_bind_eq_ok hswitch
    obtain ⟨after, tree, hafter, hstream, rfl, htakes⟩ := hvalue helement
    obtain ⟨values, hresult, helements⟩ := harray hloop
    rw [List.isEmpty_eq_false_iff.2 (List.append_ne_nil_of_right_ne_nil elements
      (List.cons_ne_nil _ _))] at helements
    refine ⟨tree.value :: values, by rw [hresult, List.append_assoc]; rfl, ?_⟩
    rw [hstream]
    exact (helements.cons htakes).prepend (gap_blank hafter)

end Steps

/-- **What has been read is the text of a tree**, and the result its value. -/
theorem parseValue_eq_ok (floats : FloatText) : ∀ fuel : ℕ,
    (∀ {stream value rest}, parseValue floats fuel stream = .ok (value, rest) →
      ReadsValue floats stream value rest) ∧
    (∀ {entries stream value rest},
      parseObjectLoop floats fuel entries stream = .ok (value, rest) →
      ∃ entries', value = hash entries' ∧
        ReadsMembers floats entries.isEmpty stream entries entries' rest) ∧
    (∀ {elements stream value rest},
      parseArrayLoop floats fuel elements stream = .ok (value, rest) →
      ∃ values, value = array (elements ++ values) ∧
        ReadsElements floats elements.isEmpty stream values rest) := by
  intro fuel
  induction fuel with
  | zero =>
    refine ⟨fun h ↦ ?_, fun h ↦ ?_, fun h ↦ ?_⟩
    · rw [parseValue] at h
      cases h
    · rw [parseObjectLoop] at h
      cases h
    · rw [parseArrayLoop] at h
      cases h
  | succ fuel ih =>
    obtain ⟨ihValue, ihObject, ihArray⟩ := ih
    exact ⟨parseValue_succ_eq_ok ihObject ihArray, parseObjectLoop_succ_eq_ok ihValue ihObject,
      parseArrayLoop_succ_eq_ok ihValue ihArray⟩

/-! ### What is read: characters -/

/-- The bytes of a number up to the last code point. -/
theorem utf8_getD {u : ℕ} (h : u ≤ 0x10FFFF) : utf8 u = some ((utf8 u).getD []) := by
  rw [utf8]
  split_ifs <;> rfl

/-- A pair stands for a code point behind the first plane. -/
theorem combineSurrogates_le {high low : ℕ} (hhigh : 0xD800 ≤ high ∧ high ≤ 0xDBFF)
    (hlow : 0xDC00 ≤ low ∧ low ≤ 0xDFFF) :
    0x10000 ≤ combineSurrogates high low ∧ combineSurrogates high low ≤ 0x10FFFF := by
  unfold combineSurrogates
  simp only [Nat.shiftLeft_eq]
  omega

theorem Piece.adds {piece : Piece} (h : piece.Valid) : Adds piece.text piece.bytes := by
  cases piece with
  | plain c => exact adds_byte h
  | short c e => exact adds_short h
  | unit u escape =>
    obtain ⟨hescape, hhigh⟩ := h
    have hlt := hescape.lt
    exact adds_unit hhigh hescape (utf8_getD (by omega))
  | pair high low escape escape' =>
    obtain ⟨hescape, hescape', hhigh, hlow⟩ := h
    have hle := (combineSurrogates_le hhigh hlow).2
    exact adds_pair hhigh hlow hescape hescape' (utf8_getD hle)

theorem Literal.Valid.adds {literal : Literal} (h : literal.Valid) :
    Adds (literal.flatMap Piece.text) (literal.flatMap Piece.bytes) := by
  induction literal with
  | nil => exact adds_nil
  | cons piece literal ih =>
    obtain ⟨hpiece, hliteral⟩ := List.forall_mem_cons.1 h
    rw [List.flatMap_cons, List.flatMap_cons]
    exact (Piece.adds hpiece).append (ih hliteral)

/-! ### What is read: values -/

theorem Takes.head {tree : Tree} (h : Takes floats tree rest) :
    ∃ c tail, tree.text = c :: tail ∧ Starts c := by
  cases h with
  | null => exact ⟨0x6E, _, rfl, by decide⟩
  | @bool b =>
    cases b with
    | false => exact ⟨0x66, _, rfl, by decide⟩
    | true => exact ⟨0x74, _, rfl, by decide⟩
  | number htext _ =>
    obtain ⟨c, tail, rfl, rfl | hdigit⟩ := isNumber_head htext
    · exact ⟨0x2D, tail, rfl, by decide⟩
    · exact ⟨c, tail, rfl, starts_isDigit hdigit⟩
  | string _ => exact ⟨0x22, _, rfl, by decide⟩
  | array _ _ => exact ⟨0x5B, _, rfl, by decide⟩
  | object _ _ => exact ⟨0x7B, _, rfl, by decide⟩

mutual

/-- **The text of a tree is read**, and the result is its value. -/
theorem parseValue_takes : ∀ (tree : Tree) {rest : Bytes}, Takes floats tree rest →
    ∀ fuel : ℕ, 2 * (tree.text ++ rest).length ≤ fuel →
      parseValue floats fuel (tree.text ++ rest) = .ok (tree.value, rest)
  | tree, rest, h, 0, hfuel => by
    obtain ⟨c, tail, htext, -⟩ := h.head
    rw [htext] at hfuel
    exact absurd hfuel (Nat.not_succ_le_zero _)
  | .null, rest, .null, fuel + 1, _ => by
    rw [Tree.text, Tree.value]
    rfl
  | .bool true, rest, .bool, fuel + 1, _ => by
    rw [Tree.text, Tree.value]
    rfl
  | .bool false, rest, .bool, fuel + 1, _ => by
    rw [Tree.text, Tree.value]
    rfl
  | .number text value, rest, .number htext h, fuel + 1, _ => by
    rw [Tree.text, Tree.value, ← h]
    obtain ⟨c, tail, rfl, hc⟩ := isNumber_head htext
    exact parseValue_number hc fuel (tail ++ rest)
  | .string literal, rest, .string h, fuel + 1, _ => by
    rw [Tree.text, Tree.value, Tree.quoted, List.cons_append, List.append_assoc]
    exact parseValue_string h.adds fuel rest
  | .array elements close, rest, .array h hclose, fuel + 1, hfuel => by
    rw [Tree.text, List.cons_append, List.append_assoc, List.append_assoc,
      List.singleton_append] at hfuel ⊢
    rw [List.length_cons] at hfuel
    rw [parseValue_bracket, Tree.value]
    exact parseArrayLoop_takes elements h [] hclose fuel (by simp) (by omega)
  | .object members close, rest, .object h hclose, fuel + 1, hfuel => by
    rw [Tree.text, List.cons_append, List.append_assoc, List.append_assoc,
      List.singleton_append] at hfuel ⊢
    rw [List.length_cons] at hfuel
    rw [parseValue_brace, Tree.value]
    exact parseObjectLoop_takes members h [] hclose fuel (by simp) (by omega)

/-- The loop of `parseArray` on the elements that are left. -/
theorem parseArrayLoop_takes : ∀ (elements : List (Bytes × Tree)) {first : Bool}
    {close rest : Bytes}, TakesElements floats first elements (close ++ 0x5D :: rest) →
    ∀ done : List Value, Gap (first && elements.isEmpty) close →
    ∀ fuel : ℕ, (first = false → done ≠ []) →
      2 * (Tree.textElements elements ++ (close ++ 0x5D :: rest)).length + 1 ≤ fuel →
      parseArrayLoop floats fuel done (Tree.textElements elements ++ (close ++ 0x5D :: rest)) =
        .ok (array (done ++ Tree.valueElements elements), rest)
  | [], first, close, rest, .nil, done, hclose, fuel, hdone, hfuel => by
    rw [List.isEmpty_nil, Bool.and_true] at hclose
    rw [Tree.textElements, List.nil_append] at hfuel ⊢
    obtain ⟨fuel, -, hgap⟩ := parseArrayLoop_gap hdone hclose hfuel
    have hreturn := @parseArrayLoop_close floats [] blank_nil fuel done rest
    rw [List.nil_append] at hreturn
    rw [hgap, hreturn, Tree.valueElements, List.append_nil]
  | (gap, element) :: elements, first, close, rest, .cons hgap h hs, done, hclose, fuel, hdone,
      hfuel => by
    rw [List.isEmpty_cons, Bool.and_false] at hclose
    rw [Tree.textElements, List.append_assoc, List.append_assoc] at hfuel ⊢
    obtain ⟨fuel, hle, hstep⟩ := parseArrayLoop_gap hdone hgap hfuel
    have hvalue := parseValue_takes element h fuel hle
    obtain ⟨c, tail, htext, hc⟩ := h.head
    rw [htext, List.cons_append] at hvalue hle hstep ⊢
    have helement := parseArrayLoop_element blank_nil hc fuel done hvalue
    rw [List.nil_append] at helement
    rw [List.length_cons, List.length_append] at hle
    have hloop := parseArrayLoop_takes elements hs (done ++ [element.value]) hclose fuel (by simp)
      (by omega)
    rw [hstep, helement, hloop, Tree.valueElements, List.append_assoc, List.singleton_append]

/-- The loop of `parseObject` on the members that are left. -/
theorem parseObjectLoop_takes : ∀ (members : List (Bytes × Literal × Bytes × Bytes × Tree))
    {first : Bool} {close rest : Bytes},
    TakesMembers floats first members (close ++ 0x7D :: rest) →
    ∀ done : List (Bytes × Value), Gap (first && members.isEmpty) close →
    ∀ fuel : ℕ, (first = false → done ≠ []) →
      2 * (Tree.textMembers members ++ (close ++ 0x7D :: rest)).length + 1 ≤ fuel →
      parseObjectLoop floats fuel done (Tree.textMembers members ++ (close ++ 0x7D :: rest)) =
        .ok (hash (Tree.valueMembers members done), rest)
  | [], first, close, rest, .nil, done, hclose, fuel, hdone, hfuel => by
    rw [List.isEmpty_nil, Bool.and_true] at hclose
    rw [Tree.textMembers, List.nil_append] at hfuel ⊢
    obtain ⟨fuel, -, hgap⟩ := parseObjectLoop_gap hdone hclose hfuel
    have hreturn := @parseObjectLoop_close floats [] blank_nil fuel done rest
    rw [List.nil_append] at hreturn
    rw [hgap, hreturn, Tree.valueMembers]
  | (gap, key, before, after, element) :: members, first, close, rest,
      .cons hgap hkey hbefore hafter h hs, done, hclose, fuel, hdone, hfuel => by
    rw [List.isEmpty_cons, Bool.and_false] at hclose
    simp only [Tree.textMembers, Tree.quoted, List.append_assoc, List.cons_append,
      List.nil_append] at hfuel ⊢
    obtain ⟨fuel, hle, hstep⟩ := parseObjectLoop_gap hdone hgap hfuel
    simp only [List.length_cons, List.length_append] at hle
    have hvalue := parseValue_takes element h fuel
      (by simp only [List.length_cons, List.length_append]; omega)
    have hloop := parseObjectLoop_takes members hs
      (SortedAssoc.insert (key.flatMap Piece.bytes) element.value done) hclose fuel
      (fun _ ↦ insert_ne_nil _ _ _) (by simp only [List.length_cons, List.length_append]; omega)
    rw [hstep, parseObjectLoop_name hkey.adds hbefore, parseValue_blank hafter, hvalue, ok_bind,
      hloop, Tree.valueMembers]

end

/-- **What the reader takes for a document**: blanks and a tree. -/
theorem parseValue_eq_ok_iff {value : Value} {fuel : ℕ} (hfuel : 2 * stream.length ≤ fuel) :
    parseValue floats fuel stream = .ok (value, rest) ↔ ReadsValue floats stream value rest := by
  refine ⟨(parseValue_eq_ok floats fuel).1, ?_⟩
  rintro ⟨before, tree, hbefore, rfl, rfl, h⟩
  rw [parseValue_blank hbefore]
  rw [List.length_append] at hfuel
  exact parseValue_takes tree h fuel (by omega)

end Touchless.Value
