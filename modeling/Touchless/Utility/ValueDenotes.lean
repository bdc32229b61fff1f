import Touchless.Foundations.Binary64
import Touchless.Foundations.JsonNumber
import Touchless.Utility.ValueDocuments

/-!
# The value that a text of JSON denotes

A number that is written as an integer denotes a value of one of the integer types, whichever has
room for it; one with a fraction or an exponent denotes the nearest double. A number that no value
of these types stands for denotes none, and neither does a string with half a surrogate pair. Arrays
and objects denote what their elements and members do, and the last of several equal keys wins.

Every text that denotes a value is one of the grammar (`Denotes.isValue`), and a document, whose
numbers are integers of at most 64 bits, is denoted by each of its texts (`denotes_renders`).
-/

namespace Touchless.Value

open Json

/-- The value of a number. -/
inductive DenotesNumber (text : Bytes) : Value → Prop where
  | integer {value : Value} {n : ℤ} (h : ¬IsReal text) (hvalue : integer? value = some n)
      (hn : (n : ℚ) = numberValue text) : DenotesNumber text value
  | real {bits : UInt64} (h : IsReal text) (hrange : |numberValue text| < Binary64.overflow)
      (hnearest : Binary64.Nearest bits (numberValue text)) : DenotesNumber text (double bits)

mutual

/-- The value of a text, without the white space around it. -/
inductive Denotes : Bytes → Value → Prop where
  | null : Denotes (ascii "null") null
  | true : Denotes (ascii "true") (bool true)
  | false : Denotes (ascii "false") (bool false)
  | number {text : Bytes} {value : Value} (htext : IsNumber text) (h : DenotesNumber text value) :
      Denotes text value
  | string {s : List Char} {text : Bytes} (h : RendersString s text) :
      Denotes text (string (utf8Text s))
  | array {text : Bytes} {elements : List Value} (h : DenotesElements true text elements) :
      Denotes (0x5B :: (text ++ [0x5D])) (array elements)
  | object {text : Bytes} {entries : List (Bytes × Value)}
      (h : DenotesMembers true text [] entries) : Denotes (0x7B :: (text ++ [0x7D])) (hash entries)

/-- The values of the elements that are left, up to the bracket. -/
inductive DenotesElements : Bool → Bytes → List Value → Prop where
  | nil {first : Bool} {text : Bytes} (h : Whitespace text) : DenotesElements first text []
  | cons {first : Bool} {separator text texts : Bytes} {element : Value} {elements : List Value}
      (hseparator : Separates first separator) (h : Denotes text element)
      (hs : DenotesElements false texts elements) :
      DenotesElements first (separator ++ (text ++ texts)) (element :: elements)

/-- The entries that the members that are left, up to the brace, make of those before them. -/
inductive DenotesMembers : Bool → Bytes → List (Bytes × Value) → List (Bytes × Value) → Prop where
  | nil {first : Bool} {text : Bytes} {entries : List (Bytes × Value)} (h : Whitespace text) :
      DenotesMembers first text entries entries
  | cons {first : Bool} {key : List Char} {element : Value}
      {separator name before after text texts : Bytes} {entries entries' : List (Bytes × Value)}
      (hseparator : Separates first separator) (hkey : RendersString key name)
      (hbefore : Whitespace before) (hafter : Whitespace after) (h : Denotes text element)
      (hs : DenotesMembers false texts (SortedAssoc.insert (utf8Text key) element entries)
        entries') :
      DenotesMembers first (separator ++ (name ++ (before ++ 0x3A :: (after ++ (text ++ texts)))))
        entries entries'

end

/-! ### Texts of the grammar -/

theorem isChars_rendersChars {s : List Char} {text : Bytes} (h : RendersChars s text) :
    IsChars text := by
  induction h with
  | nil => exact .nil
  | cons h _ ih =>
    cases h with
    | raw hcontrol hquote hbackslash => exact .cons (.raw hcontrol hquote hbackslash) ih
    | short h => exact .cons (.short h) ih
    | unit _ h => exact .cons (.unit h) ih
    | pair _ h h' =>
      rw [List.append_assoc]
      exact .cons (.unit h) (.cons (.unit h') ih)

theorem isString_rendersString {s : List Char} {text : Bytes} (h : RendersString s text) :
    IsString text := by
  cases h with
  | quoted h => exact .quoted (isChars_rendersChars h)

mutual

/-- **A text that denotes a value** is one of the grammar. -/
theorem Denotes.isValue : ∀ {text : Bytes} {value : Value}, Denotes text value → IsValue text
  | _, _, .null => .null
  | _, _, .true => .true
  | _, _, .false => .false
  | _, _, .number htext _ => .number htext
  | _, _, .string h => .string (isString_rendersString h)
  | _, _, .array h => .array (DenotesElements.isElements h)
  | _, _, .object h => .object (DenotesMembers.isMembers h)

theorem DenotesElements.isElements : ∀ {first : Bool} {text : Bytes} {elements : List Value},
    DenotesElements first text elements → IsElements first text
  | _, _, _, .nil h => .nil h
  | _, _, _, .cons hseparator h hs => .cons hseparator h.isValue hs.isElements

theorem DenotesMembers.isMembers : ∀ {first : Bool} {text : Bytes}
    {entries entries' : List (Bytes × Value)}, DenotesMembers first text entries entries' →
    IsMembers first text
  | _, _, _, _, .nil h => .nil h
  | _, _, _, _, .cons hseparator hkey hbefore hafter h hs =>
    .cons hseparator (isString_rendersString hkey) hbefore hafter h.isValue hs.isMembers

end

/-! ### Texts of documents -/

/-- An integer in its decimal notation. -/
theorem denotesNumber_rendersInteger {n : ℤ} {text : Bytes} (hlow : -2 ^ 63 ≤ n)
    (hhigh : n < 2 ^ 64) (h : RendersInteger n text) :
    IsNumber text ∧ DenotesNumber text (ofInteger n) := by
  have hinteger := integer?_ofInteger hlow hhigh
  have hminus : ([0x2D] : Bytes) = [] ∨ ([0x2D] : Bytes) = [0x2D] := .inr rfl
  cases h with
  | decimal n =>
    refine ⟨isNumber_decimalInt n, ?_⟩
    rw [decimalInt]
    split_ifs with hn
    · refine .integer (not_isReal_integer hminus (isInt_decimal _)) hinteger ?_
      have hvalue := numberValue_integer hminus (isInt_decimal n.natAbs)
      rw [if_neg (List.cons_ne_nil _ _), ofDecimal_decimal] at hvalue
      rw [← List.singleton_append, hvalue]
      exact congrArg Int.cast (by omega)
    · have hempty : ([] : Bytes) = [] ∨ ([] : Bytes) = [0x2D] := .inl rfl
      refine .integer (not_isReal_integer hempty (isInt_decimal _)) hinteger ?_
      have hvalue := numberValue_integer hempty (isInt_decimal n.natAbs)
      rw [if_pos rfl, ofDecimal_decimal, List.nil_append] at hvalue
      rw [hvalue]
      exact congrArg Int.cast (by omega)
  | minusZero =>
    have hint : IsInt [0x30] := decimal_zero ▸ isInt_decimal 0
    refine ⟨by simpa using IsNumber.number hminus hint .none .none, ?_⟩
    refine .integer (not_isReal_integer hminus hint) hinteger ?_
    have hvalue := numberValue_integer hminus hint
    rw [show ofDecimal [0x30] = 0 from rfl] at hvalue
    rw [← List.singleton_append, hvalue]
    rfl

mutual

/-- **A document is denoted by each of its texts**; its integers are read by their size. -/
theorem denotes_renders : ∀ {document : Document} {text : Bytes}, Renders document text →
    Denotes text (ofDocument ofInteger document)
  | _, _, .null => .null
  | _, _, .true => .true
  | _, _, .false => .false
  | _, _, @Renders.integer n _ h =>
    .number (denotesNumber_rendersInteger n.low n.high h).1
      (denotesNumber_rendersInteger n.low n.high h).2
  | _, _, .string h => .string h
  | _, _, .array h => .array (denotesElements_renders h)
  | _, _, .object h => .object (denotesMembers_renders h [])

theorem denotesElements_renders : ∀ {first : Bool} {elements : List Document} {text : Bytes},
    RendersElements first elements text →
    DenotesElements first text (ofElements ofInteger elements)
  | _, _, _, .nil h => .nil h
  | _, _, _, .cons hseparator h hs =>
    .cons hseparator (denotes_renders h) (denotesElements_renders hs)

theorem denotesMembers_renders : ∀ {first : Bool} {members : List (List Char × Document)}
    {text : Bytes}, RendersMembers first members text → ∀ entries,
    DenotesMembers first text entries (ofMembers ofInteger members entries)
  | _, _, _, .nil h, _ => .nil h
  | _, _, _, .cons hseparator hkey hbefore hafter h hs, _ =>
    .cons hseparator hkey hbefore hafter (denotes_renders h) (denotesMembers_renders hs _)

end

end Touchless.Value
