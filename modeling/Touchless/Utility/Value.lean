import Touchless.Foundations.Bytes
import Touchless.Foundations.SortedAssoc

/-!
# Values of dynamic type, and their JSON text

`class Value` of `Utility/Value.h` and `Utility/Value.cpp`: a `boost::any` that knows how to print
and to read the basic types, arrays and hashes. The printer `toStream` threads one signed argument,
`indent`, through the recursion: an odd one packs the output, an even one breaks lines, and a
negative one marks the value of a hash entry, which stays on the line of its key. The reader takes
characters from a stream, modelled by the bytes that are left, and throws on what it cannot read;
`operator>>` swallows the exception, so `fromJSON` of an unreadable text is the null value.

How iostreams print and read floating-point numbers is a parameter (`FloatText`). The recursion of
the reader is bounded by `fuel`; `readFrom` gives it two units a byte, which `ValueReader` shows to
be enough for every text.
-/

namespace Touchless

/-- What iostreams do with floating-point numbers, given by their bit patterns. -/
structure FloatText where
  /-- `stream << double` -/
  double : UInt64 → Bytes
  /-- `stream << long double` -/
  longDouble : BitVec 80 → Bytes
  /-- `iss >> double` -/
  readDouble : Bytes → UInt64

/-- A value. `foreign` is an object of a type the class has no case for, which its template
constructor accepts all the same. A hash lists its entries in the order of their keys. -/
inductive Value where
  | null
  | bool (value : Bool)
  | int (value : Int32)
  | uint (value : UInt32)
  | longlong (value : Int64)
  | ulonglong (value : UInt64)
  | double (bits : UInt64)
  | longDouble (bits : BitVec 80)
  | string (value : Bytes)
  | array (elements : List Value)
  | hash (entries : List (Bytes × Value))
  | foreign (typeName : String)

namespace Value

/-! ### Writing -/

/-- `!(indent & 1)`. -/
def pretty (asJSON : Bool) (indent : ℤ) : Bool := asJSON && indent % 2 == 0

/-- `std::endl` and a line of `indent` blanks. -/
def newline (indent : ℤ) : Bytes := 0x0A :: List.replicate indent.toNat 0x20

/-- What `toStream` writes before the value: a new line, unless the value belongs to a key. -/
def lead (asJSON : Bool) (indent : ℤ) : Bytes :=
  if pretty asJSON indent && indent > 0 then newline indent else []

/-- The indent `toStream` goes on with. -/
def settle (asJSON : Bool) (indent : ℤ) : ℤ :=
  if pretty asJSON indent && !(indent > 0) then -indent else indent

/-- The part of a `std::string` that its `c_str()` shows. -/
def cString (s : Bytes) : Bytes := s.takeWhile (· ≠ 0)

/-- One character of a JSON string. -/
def escapeChar (escapeSlashes : Bool) (c : UInt8) : Bytes :=
  if c = 0x22 then [0x5C, 0x22]
  else if c = 0x5C then [0x5C, 0x5C]
  else if c = 0x2F then if escapeSlashes then [0x5C, 0x2F] else [c]
  else if c = 0x08 then [0x5C, 0x62]
  else if c = 0x0C then [0x5C, 0x66]
  else if c = 0x0A then [0x5C, 0x6E]
  else if c = 0x0D then [0x5C, 0x72]
  else if c = 0x09 then [0x5C, 0x74]
  else [c]

/-- A JSON string in its quotes. -/
def quote (escapeSlashes : Bool) (s : Bytes) : Bytes :=
  0x22 :: ((cString s).flatMap (escapeChar escapeSlashes) ++ [0x22])

/-- `isnan`. -/
def isNaN (bits : UInt64) : Bool :=
  bits.toNat / 2 ^ 52 % 2 ^ 11 == 2 ^ 11 - 1 && bits.toNat % 2 ^ 52 != 0

/-- The string case of `toStream`. -/
def writeString (asJSON escapeSlashes : Bool) (s : Bytes) : Bytes :=
  if asJSON then quote escapeSlashes s else s

mutual

/-- What `toStream` puts on the stream behind the new line, for the indent it goes on with. -/
def writeBody (floats : FloatText) (asJSON escapeSlashes : Bool) : Value → ℤ → Bytes
  | string s, _ => writeString asJSON escapeSlashes s
  | int n, _ => decimalInt n.toInt
  | longlong n, _ => decimalInt n.toInt
  | double bits, _ => if isNaN bits then ascii "null" else floats.double bits
  | bool b, _ => if b then ascii "true" else ascii "false"
  | null, _ => ascii "null"
  | uint n, _ => decimal n.toNat
  | ulonglong n, _ => decimal n.toNat
  | longDouble bits, _ => floats.longDouble bits
  | array elements, indent =>
    [0x5B] ++ writeElements floats asJSON escapeSlashes elements indent true ++
      (if pretty asJSON indent then newline indent else []) ++ [0x5D]
  | hash entries, indent =>
    [0x7B] ++ writeEntries floats asJSON escapeSlashes entries indent true ++
      (if pretty asJSON indent && indent ≥ 0 then newline indent else []) ++ [0x7D]
  | foreign _, _ => []

/-- The elements of an array, separated by commas: `toStream(.., indent + 2)` for each. -/
def writeElements (floats : FloatText) (asJSON escapeSlashes : Bool) :
    List Value → ℤ → Bool → Bytes
  | [], _, _ => []
  | value :: elements, indent, first =>
    (if first then [] else [0x2C]) ++
      (lead asJSON (indent + 2) ++
        writeBody floats asJSON escapeSlashes value (settle asJSON (indent + 2))) ++
      writeElements floats asJSON escapeSlashes elements indent false

/-- The entries of a hash, separated by commas: `toStream(.., indent + 2)` for the key and
`toStream(.., -(indent + 2))` for the value. -/
def writeEntries (floats : FloatText) (asJSON escapeSlashes : Bool) :
    List (Bytes × Value) → ℤ → Bool → Bytes
  | [], _, _ => []
  | (key, value) :: entries, indent, first =>
    (if first then [] else [0x2C]) ++
      (if asJSON then lead asJSON (indent + 2) ++ writeString asJSON escapeSlashes key else key) ++
      [0x3A] ++ (if pretty asJSON indent then [0x20] else []) ++
      (lead asJSON (-(indent + 2)) ++
        writeBody floats asJSON escapeSlashes value (settle asJSON (-(indent + 2)))) ++
      writeEntries floats asJSON escapeSlashes entries indent false

end

/-- What `toStream` puts on the stream. -/
def write (floats : FloatText) (asJSON escapeSlashes : Bool) (value : Value) (indent : ℤ) : Bytes :=
  lead asJSON indent ++ writeBody floats asJSON escapeSlashes value (settle asJSON indent)

/-- `toStream`: what it puts on the stream, and whether it knows the type of the value. -/
def toStream (floats : FloatText) (asJSON escapeSlashes : Bool) (value : Value) (indent : ℤ) :
    Bytes × Bool :=
  (write floats asJSON escapeSlashes value indent, match value with
    | foreign _ => false
    | _ => true)

/-- `ToJSON`. -/
def toJSON (floats : FloatText) (value : Value) (escapeSlashes prettify : Bool) : Bytes :=
  (toStream floats true escapeSlashes value (if prettify then 0 else 1)).1

/-- `operator==`, which compares the packed texts with escaped slashes. -/
def equal (floats : FloatText) (value other : Value) : Bool :=
  value.toJSON floats true false == other.toJSON floats true false

/-! ### The stream

A reading function takes the bytes that are left and returns what it has read with the bytes that
are left then. -/

/-- Why a read does not return: an exception, or the end of the model's fuel. -/
inductive Fault where
  | thrown
  | outOfFuel
  deriving DecidableEq, Repr

/-- `getChar`. -/
def getChar : Bytes → Except Fault (UInt8 × Bytes)
  | [] => .error .thrown
  | c :: stream => .ok (c, stream)

/-- `peekChar(stream)`. -/
def peekChar : Bytes → Except Fault UInt8
  | [] => .error .thrown
  | c :: _ => .ok c

/-- `peekChar(stream, true)`. -/
def peekCharOptional : Bytes → UInt8
  | [] => 0
  | c :: _ => c

/-- `requireChar`. -/
def requireChar (stream : Bytes) (required : UInt8) : Except Fault Bytes := do
  let c ← peekChar stream
  if c = required then return stream.tail else throw .thrown

/-- `getDigit`. -/
def getDigit (stream : Bytes) : Except Fault (UInt8 × Bytes) := do
  let c ← peekChar stream
  if isDigit c then getChar stream else throw .thrown

/-- The loop `while (getIfDigit(stream, c))`: the digits it collects. -/
def whileDigit : Bytes → Bytes × Bytes
  | [] => ([], [])
  | c :: stream =>
    if isDigit c then ((c :: (whileDigit stream).1), (whileDigit stream).2) else ([], c :: stream)

/-- `getIfHexDigitAsNibble`; where it returns false, `getUnicode` throws. -/
def getHexDigitAsNibble (stream : Bytes) : Except Fault (ℕ × Bytes) :=
  match stream with
  | [] => .error .thrown
  | c :: rest =>
    if isDigit c then .ok (c.toNat - 0x30, rest)
    else if 0x41 ≤ c && c ≤ 0x46 then .ok (c.toNat - 0x41 + 10, rest)
    else if 0x61 ≤ c && c ≤ 0x66 then .ok (c.toNat - 0x61 + 10, rest)
    else .error .thrown

/-- `getUnicode`. -/
def getUnicode (stream : Bytes) : Except Fault (ℕ × Bytes) := do
  let (u0, stream) ← getHexDigitAsNibble stream
  let (u1, stream) ← getHexDigitAsNibble stream
  let (u2, stream) ← getHexDigitAsNibble stream
  let (u3, stream) ← getHexDigitAsNibble stream
  return (u0 <<< 12 ||| u1 <<< 8 ||| u2 <<< 4 ||| u3, stream)

/-- `skipWhitespace`. -/
def skipWhitespace : Bytes → Except Fault Bytes
  | [] => .error .thrown
  | c :: stream =>
    if c = 0x20 ∨ c = 0x0A ∨ c = 0x0D ∨ c = 0x09 ∨ c = 0x0C then skipWhitespace stream
    else .ok (c :: stream)

/-! ### Reading -/

/-- The bytes of a code point; `none` above the last one. -/
def utf8 (unicode : ℕ) : Option Bytes :=
  if unicode ≤ 0x7F then some [UInt8.ofNat unicode]
  else if unicode ≤ 0x7FF then
    some [UInt8.ofNat (0xC0 ||| unicode >>> 6), UInt8.ofNat (0x80 ||| unicode &&& 0x3F)]
  else if unicode ≤ 0xFFFF then
    some [UInt8.ofNat (0xE0 ||| unicode >>> 12), UInt8.ofNat (0x80 ||| unicode >>> 6 &&& 0x3F),
      UInt8.ofNat (0x80 ||| unicode &&& 0x3F)]
  else if unicode ≤ 0x10FFFF then
    some [UInt8.ofNat (0xF0 ||| unicode >>> 18), UInt8.ofNat (0x80 ||| unicode >>> 12 &&& 0x3F),
      UInt8.ofNat (0x80 ||| unicode >>> 6 &&& 0x3F), UInt8.ofNat (0x80 ||| unicode &&& 0x3F)]
  else none

/-- The second half of a surrogate pair, if `unicode` is a first half. -/
def parseSurrogate (unicode : ℕ) (stream : Bytes) : Except Fault (ℕ × Bytes) :=
  if 0xD800 ≤ unicode ∧ unicode ≤ 0xDBFF then do
    let stream ← requireChar stream 0x5C
    let stream ← requireChar stream 0x75
    let (pair, stream) ← getUnicode stream
    if pair < 0xDC00 ∨ 0xDFFF < pair then throw .thrown
    else return (0x10000 + (unicode - 0xD800) <<< 10 + (pair - 0xDC00), stream)
  else .ok (unicode, stream)

/-- The case `'u'` of `parseString`, behind the `u`. -/
def parseUnicodeEscape (stream : Bytes) : Except Fault (Bytes × Bytes) := do
  let (unicode, stream) ← getUnicode stream
  let (unicode, stream) ← parseSurrogate unicode stream
  match utf8 unicode with
  | some bytes => return (bytes, stream)
  | none => throw .thrown

/-- The `switch` of `parseString` behind a backslash: what is added to the string. -/
def parseEscape (stream : Bytes) : Except Fault (Bytes × Bytes) := do
  let (c, stream) ← getChar stream
  if c = 0x22 ∨ c = 0x5C ∨ c = 0x2F then return ([c], stream)
  else if c = 0x62 then return ([0x08], stream)
  else if c = 0x66 then return ([0x0C], stream)
  else if c = 0x6E then return ([0x0A], stream)
  else if c = 0x72 then return ([0x0D], stream)
  else if c = 0x74 then return ([0x09], stream)
  else if c = 0x75 then parseUnicodeEscape stream
  else throw .thrown

/-- The loop of `parseString`, with the string read so far. -/
def parseStringLoop : ℕ → Bytes → Bytes → Except Fault (Bytes × Bytes)
  | 0, _, _ => .error .outOfFuel
  | fuel + 1, value, stream => do
    let (c, stream) ← getChar stream
    if c = 0x22 then return (value, stream)
    else if c = 0x5C then
      let (escaped, stream) ← parseEscape stream
      parseStringLoop fuel (value ++ escaped) stream
    else parseStringLoop fuel (value ++ [c]) stream

/-- `parseString`. -/
def parseString (stream : Bytes) : Except Fault (Bytes × Bytes) := do
  let stream ← requireChar stream 0x22
  parseStringLoop (stream.length + 1) [] stream

/-- The fraction of `parseNumber`; empty if there is none. -/
def parseFraction (stream : Bytes) : Except Fault (Bytes × Bytes) :=
  if peekCharOptional stream = 0x2E then do
    let (c, stream) ← getChar stream
    let (digit, stream) ← getDigit stream
    return (c :: digit :: (whileDigit stream).1, (whileDigit stream).2)
  else .ok ([], stream)

/-- The exponent of `parseNumber`; empty if there is none. -/
def parseExponent (stream : Bytes) : Except Fault (Bytes × Bytes) :=
  if peekCharOptional stream = 0x45 ∨ peekCharOptional stream = 0x65 then do
    let (e, stream) ← getChar stream
    let c ← peekChar stream
    let sign := if c = 0x2B ∨ c = 0x2D then [c] else []
    let stream := if c = 0x2B ∨ c = 0x2D then stream.tail else stream
    let (digit, stream) ← getDigit stream
    return (e :: (sign ++ digit :: (whileDigit stream).1), (whileDigit stream).2)
  else .ok ([], stream)

/-- The C++ type chosen for a number without a fraction and an exponent. Where the digits exceed 64
bits, `iss >> value` leaves the bound of its type. -/
def readInteger (positive : Bool) (n : ℕ) : Value :=
  if positive then
    let value := min n (2 ^ 64 - 1)
    if value ≤ 2 ^ 32 - 1 then
      if value ≤ 2 ^ 31 - 1 then int (Int32.ofNat value) else uint (UInt32.ofNat value)
    else ulonglong (UInt64.ofNat value)
  else
    let value : ℤ := max (-n) (-2 ^ 63)
    if -2 ^ 31 ≤ value ∧ value ≤ 2 ^ 31 - 1 then int (Int32.ofInt value)
    else longlong (Int64.ofInt value)

/-- `parseNumber`. -/
def parseNumber (floats : FloatText) (stream : Bytes) : Except Fault (Value × Bytes) := do
  let c ← peekChar stream
  let positive := c ≠ 0x2D
  let sign := if c = 0x2D then [c] else []
  let stream := if c = 0x2D then stream.tail else stream
  let (c, stream) ← getDigit stream
  let digits := if c ≠ 0x30 then c :: (whileDigit stream).1 else [c]
  let stream := if c ≠ 0x30 then (whileDigit stream).2 else stream
  let (fraction, stream) ← parseFraction stream
  let (exponent, stream) ← parseExponent stream
  if fraction ≠ [] ∨ exponent ≠ [] then
    return (double (floats.readDouble (sign ++ digits ++ fraction ++ exponent)), stream)
  else return (readInteger positive (ofDecimal digits), stream)

/-- `parseTrue`, `parseFalse` and `parseNull`: read the characters of the word. -/
def requireChars : Bytes → Bytes → Except Fault Bytes
  | stream, [] => .ok stream
  | stream, c :: word => do
    let stream ← requireChar stream c
    requireChars stream word

/-- `parseTrue`. -/
def parseTrue (stream : Bytes) : Except Fault (Value × Bytes) := do
  return (bool true, ← requireChars stream (ascii "true"))

/-- `parseFalse`. -/
def parseFalse (stream : Bytes) : Except Fault (Value × Bytes) := do
  return (bool false, ← requireChars stream (ascii "false"))

/-- `parseNull`. -/
def parseNull (stream : Bytes) : Except Fault (Value × Bytes) := do
  return (null, ← requireChars stream (ascii "null"))

mutual

/-- `parseValue`. -/
def parseValue (floats : FloatText) : ℕ → Bytes → Except Fault (Value × Bytes)
  | 0, _ => .error .outOfFuel
  | fuel + 1, stream => do
    let stream ← skipWhitespace stream
    let c ← peekChar stream
    if c = 0x7B then do
      let stream ← requireChar stream 0x7B
      parseObjectLoop floats fuel [] stream
    else if c = 0x5B then do
      let stream ← requireChar stream 0x5B
      parseArrayLoop floats fuel [] stream
    else if c = 0x74 then parseTrue stream
    else if c = 0x66 then parseFalse stream
    else if c = 0x6E then parseNull stream
    else if c = 0x22 then do
      let (s, stream) ← parseString stream
      return (string s, stream)
    else parseNumber floats stream

/-- The loop of `parseObject`, behind the brace, with the entries read so far. -/
def parseObjectLoop (floats : FloatText) : ℕ → List (Bytes × Value) → Bytes →
    Except Fault (Value × Bytes)
  | 0, _, _ => .error .outOfFuel
  | fuel + 1, entries, stream => do
    let stream ← skipWhitespace stream
    let c ← peekChar stream
    if c = 0x2C then
      if entries.isEmpty then throw .thrown
      else do
        let (_, stream) ← getChar stream
        parseObjectLoop floats fuel entries stream
    else if c = 0x7D then do
      let (_, stream) ← getChar stream
      return (hash entries, stream)
    else do
      let (key, stream) ← parseString stream
      let stream ← skipWhitespace stream
      let stream ← requireChar stream 0x3A
      let (value, stream) ← parseValue floats fuel stream
      parseObjectLoop floats fuel (SortedAssoc.insert key value entries) stream

/-- The loop of `parseArray`, behind the bracket, with the elements read so far. -/
def parseArrayLoop (floats : FloatText) : ℕ → List Value → Bytes → Except Fault (Value × Bytes)
  | 0, _, _ => .error .outOfFuel
  | fuel + 1, elements, stream => do
    let stream ← skipWhitespace stream
    let c ← peekChar stream
    if c = 0x2C then
      if elements.isEmpty then throw .thrown
      else do
        let (_, stream) ← getChar stream
        parseArrayLoop floats fuel elements stream
    else if c = 0x5D then do
      let (_, stream) ← getChar stream
      return (array elements, stream)
    else do
      let (value, stream) ← parseValue floats fuel stream
      parseArrayLoop floats fuel (elements ++ [value]) stream

end

/-- `operator>>` on a fresh value: an exception leaves it null. -/
def readFrom (floats : FloatText) (stream : Bytes) : Value :=
  match parseValue floats (2 * stream.length + 1) stream with
  | .ok (value, _) => value
  | .error _ => null

/-- `FromJSON`. -/
def fromJSON (floats : FloatText) (json : Bytes) : Value := readFrom floats json

/-! ### Hashes -/

/-- `IsHash`. -/
def isHash : Value → Bool
  | hash _ => true
  | _ => false

/-- `HashGet`. -/
def hashGet (value : Value) (key : Bytes) : Value :=
  match value with
  | hash entries => (SortedAssoc.find? key entries).getD null
  | _ => null

/-- `HashSet`; the value is unchanged where the call returns false. -/
def hashSet (value : Value) (key : Bytes) (element : Value) : Value × Bool :=
  match value with
  | hash entries => (hash (SortedAssoc.insert key element entries), true)
  | _ => (value, false)

end Value

end Touchless
