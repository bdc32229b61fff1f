import Touchless.Foundations.Utf8

/-!
# JSON documents and their texts

The grammar of RFC 8259, for documents whose numbers are integers of at most 64 bits. A document
does not say how it is written: `Renders` relates it to each of its texts, which differ in the white
space around the tokens and in the way the characters of strings are written. A text is a list of
bytes, in UTF-8.
-/

namespace Touchless.Json

/-- An integer in the range of one of the two 64-bit types. -/
structure Integer where
  value : ℤ
  low : -2 ^ 63 ≤ value
  high : value < 2 ^ 64

/-- A document. The members of an object are in the order of the text, and keys may repeat. -/
inductive Document where
  | null
  | bool (b : Bool)
  | integer (n : Integer)
  | string (text : List Char)
  | array (elements : List Document)
  | object (members : List (List Char × Document))

/-! ### Tokens -/

/-- Insignificant white space. -/
def Whitespace (text : Bytes) : Prop := ∀ c ∈ text, c = 0x20 ∨ c = 0x09 ∨ c = 0x0A ∨ c = 0x0D

/-- The texts of an integer. Zero may have a sign. -/
inductive RendersInteger : ℤ → Bytes → Prop where
  | decimal (n : ℤ) : RendersInteger n (decimalInt n)
  | minusZero : RendersInteger 0 [0x2D, 0x30]

/-- A hexadecimal digit with its value, in either case. -/
def HexDigit (d : UInt8) (k : ℕ) : Prop :=
  (ascii "0123456789ABCDEF")[k]? = some d ∨ (ascii "0123456789abcdef")[k]? = some d

/-- `\uXXXX`. -/
inductive UnicodeEscape : ℕ → Bytes → Prop where
  | digits {d₀ d₁ d₂ d₃ : UInt8} {k₀ k₁ k₂ k₃ : ℕ} (h₀ : HexDigit d₀ k₀) (h₁ : HexDigit d₁ k₁)
      (h₂ : HexDigit d₂ k₂) (h₃ : HexDigit d₃ k₃) :
      UnicodeEscape (((k₀ * 16 + k₁) * 16 + k₂) * 16 + k₃) [0x5C, 0x75, d₀, d₁, d₂, d₃]

/-- The characters that have an escape of two characters, with the second of these. -/
def shortEscapes : List (Char × UInt8) :=
  [('"', 0x22), ('\\', 0x5C), ('/', 0x2F), ('\x08', 0x62), ('\x0c', 0x66), ('\n', 0x6E),
    ('\r', 0x72), ('\t', 0x74)]

/-- The texts of a character in a string: the character itself, a short escape, or the escapes of
its UTF-16 code units. -/
inductive RendersChar : Char → Bytes → Prop where
  | raw {c : Char} (hcontrol : 0x20 ≤ c.toNat) (hquote : c ≠ '"') (hbackslash : c ≠ '\\') :
      RendersChar c (String.utf8EncodeChar c)
  | short {c : Char} {e : UInt8} (h : (c, e) ∈ shortEscapes) : RendersChar c [0x5C, e]
  | unit {c : Char} {u : ℕ} {text : Bytes} (hunits : Utf8.utf16EncodeChar c = [u])
      (h : UnicodeEscape u text) : RendersChar c text
  | pair {c : Char} {high low : ℕ} {text text' : Bytes}
      (hunits : Utf8.utf16EncodeChar c = [high, low]) (h : UnicodeEscape high text)
      (h' : UnicodeEscape low text') : RendersChar c (text ++ text')

/-- The texts of the characters of a string. -/
inductive RendersChars : List Char → Bytes → Prop where
  | nil : RendersChars [] []
  | cons {c : Char} {s : List Char} {text texts : Bytes} (h : RendersChar c text)
      (hs : RendersChars s texts) : RendersChars (c :: s) (text ++ texts)

/-- The texts of a string, with its quotes. -/
inductive RendersString : List Char → Bytes → Prop where
  | quoted {s : List Char} {text : Bytes} (h : RendersChars s text) :
      RendersString s (0x22 :: (text ++ [0x22]))

/-! ### Documents -/

/-- What stands before an element or a member: nothing but white space before the first, a comma
before each of the others. -/
inductive Separates : Bool → Bytes → Prop where
  | first {text : Bytes} (h : Whitespace text) : Separates true text
  | comma {before after : Bytes} (h : Whitespace before) (h' : Whitespace after) :
      Separates false (before ++ 0x2C :: after)

mutual

/-- The texts of a document, without the white space around it. -/
inductive Renders : Document → Bytes → Prop where
  | null : Renders .null (ascii "null")
  | true : Renders (.bool true) (ascii "true")
  | false : Renders (.bool false) (ascii "false")
  | integer {n : Integer} {text : Bytes} (h : RendersInteger n.value text) :
      Renders (.integer n) text
  | string {s : List Char} {text : Bytes} (h : RendersString s text) : Renders (.string s) text
  | array {elements : List Document} {text : Bytes} (h : RendersElements true elements text) :
      Renders (.array elements) (0x5B :: (text ++ [0x5D]))
  | object {members : List (List Char × Document)} {text : Bytes}
      (h : RendersMembers true members text) : Renders (.object members) (0x7B :: (text ++ [0x7D]))

/-- The texts of the elements that are left, up to the bracket. -/
inductive RendersElements : Bool → List Document → Bytes → Prop where
  | nil {first : Bool} {text : Bytes} (h : Whitespace text) : RendersElements first [] text
  | cons {first : Bool} {element : Document} {elements : List Document}
      {separator text texts : Bytes} (hseparator : Separates first separator)
      (h : Renders element text) (hs : RendersElements false elements texts) :
      RendersElements first (element :: elements) (separator ++ (text ++ texts))

/-- The texts of the members that are left, up to the brace. -/
inductive RendersMembers : Bool → List (List Char × Document) → Bytes → Prop where
  | nil {first : Bool} {text : Bytes} (h : Whitespace text) : RendersMembers first [] text
  | cons {first : Bool} {key : List Char} {element : Document}
      {members : List (List Char × Document)} {separator name before after text texts : Bytes}
      (hseparator : Separates first separator) (hkey : RendersString key name)
      (hbefore : Whitespace before) (hafter : Whitespace after) (h : Renders element text)
      (hs : RendersMembers false members texts) :
      RendersMembers first ((key, element) :: members)
        (separator ++ (name ++ (before ++ 0x3A :: (after ++ (text ++ texts)))))

end

/-- The texts of a document, with the white space around it. -/
inductive RendersText : Document → Bytes → Prop where
  | text {document : Document} {before text after : Bytes} (hbefore : Whitespace before)
      (h : Renders document text) (hafter : Whitespace after) :
      RendersText document (before ++ (text ++ after))

/-! ### The bytes of a string -/

theorem HexDigit.lt {d : UInt8} {k : ℕ} (h : HexDigit d k) : k < 16 := by
  rcases h with h | h <;> exact (List.getElem?_eq_some_iff.1 h).1

/-- Four digits hold sixteen bits. -/
theorem UnicodeEscape.lt {u : ℕ} {text : Bytes} (h : UnicodeEscape u text) : u < 0x10000 := by
  cases h with
  | digits h₀ h₁ h₂ h₃ =>
    have hk₀ := h₀.lt
    have hk₁ := h₁.lt
    have hk₂ := h₂.lt
    have hk₃ := h₃.lt
    omega

/-- A character that is written as it is brings no quote and no backslash. -/
theorem ne_of_mem_raw {c : Char} (hquote : c ≠ '"') (hbackslash : c ≠ '\\') {b : UInt8}
    (hb : b ∈ String.utf8EncodeChar c) : b ≠ 0x22 ∧ b ≠ 0x5C := by
  by_cases h : c.toNat ≤ 0x7F
  · rw [Utf8.encode1 h, List.mem_singleton] at hb
    have hbyte : b.toNat = c.toNat := by
      rw [hb]
      exact UInt8.toNat_ofNat_of_lt' (show c.toNat < 2 ^ 8 by omega)
    refine ⟨?_, ?_⟩
    · rintro rfl
      exact hquote (Char.toNat_inj.1 hbyte.symm)
    · rintro rfl
      exact hbackslash (Char.toNat_inj.1 hbyte.symm)
  · have hle := Utf8.le_of_mem_encode (Nat.not_le.1 h) hb
    refine ⟨?_, ?_⟩ <;>
      · rintro rfl
        exact absurd hle (by decide)

end Touchless.Json
