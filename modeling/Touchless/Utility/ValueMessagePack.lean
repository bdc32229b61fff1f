import Mathlib.Algebra.Order.Ring.Int
import Mathlib.Tactic.Positivity
import Touchless.Foundations.BigEndian
import Touchless.Foundations.Utf8
import Touchless.Utility.ValueCanonical
import Touchless.Utility.ValueReadBack

/-!
# MessagePack

`Value::ToMessagePack`, and a reference decoder of the format that its comments name. On a value
without foreign objects, the decoder takes exactly the bytes of the value
(`unpacks_toBinaryStream`), and returns its canonical form if there are no floating-point numbers
(`unpack_toMessagePack`); so no value's bytes begin those of another one.
-/

namespace Touchless.Value

/-! ### The encoder -/

/-- `PackedData`: the bytes of a number, exchanged in place on a little-endian machine. -/
def packedData (isLittleEndian : Bool) (size n : ℕ) : Bytes :=
  if isLittleEndian then swapEnds (littleEndian size n) else bigEndian size n

@[simp]
theorem packedData_eq (isLittleEndian : Bool) (size n : ℕ) :
    packedData isLittleEndian size n = bigEndian size n := by
  cases isLittleEndian with
  | false => rfl
  | true => exact swapEnds_eq_reverse _

/-- The bits of a signed number of a given size. -/
def bitsOf (bits : ℕ) (n : ℤ) : ℕ := (n % 2 ^ bits).toNat

section Encoder

variable (isLittleEndian : Bool)

/-- The bytes before a raw, an array or a map: the length, in one byte with the prefix `fix` up to
`limit`, or behind `prefix16` or `prefix32`. -/
def packLength (fix : UInt8) (limit : ℕ) (prefix16 prefix32 : UInt8) (length : ℕ) : Option Bytes :=
  if length ≤ limit then some [fix ||| UInt8.ofNat length]
  else if length ≤ 2 ^ 16 - 1 then some (prefix16 :: packedData isLittleEndian 2 length)
  else if length ≤ 2 ^ 32 - 1 then some (prefix32 :: packedData isLittleEndian 4 length)
  else none

/-- fix raw, raw 16 and raw 32. -/
def packString (s : Bytes) : Option Bytes := do
  return (← packLength isLittleEndian 0xA0 31 0xDA 0xDB s.length) ++ s

/-- The fixnums, int 8, int 16 and int 32, where they suffice. -/
def packSigned (n : ℤ) : Option Bytes :=
  if (0 ≤ n ∧ n ≤ 127) ∨ (-32 ≤ n ∧ n ≤ -1) then some [UInt8.ofNat (bitsOf 8 n)]
  else if -2 ^ 7 ≤ n ∧ n ≤ 2 ^ 7 - 1 then some [0xD0, UInt8.ofNat (bitsOf 8 n)]
  else if -2 ^ 15 ≤ n ∧ n ≤ 2 ^ 15 - 1 then
    some (0xD1 :: packedData isLittleEndian 2 (bitsOf 16 n))
  else if -2 ^ 31 ≤ n ∧ n ≤ 2 ^ 31 - 1 then
    some (0xD2 :: packedData isLittleEndian 4 (bitsOf 32 n))
  else none

/-- uint 8, uint 16 and uint 32, where they suffice. -/
def packUnsigned (n : ℕ) : Option Bytes :=
  if n ≤ 2 ^ 8 - 1 then some [0xCC, UInt8.ofNat n]
  else if n ≤ 2 ^ 16 - 1 then some (0xCD :: packedData isLittleEndian 2 n)
  else if n ≤ 2 ^ 32 - 1 then some (0xCE :: packedData isLittleEndian 4 n)
  else none

variable (toDouble : BitVec 80 → UInt64)

mutual

/-- `toBinaryStream`, with the bytes that it puts on the stream; `none` where it throws. `toDouble`
is the conversion of a `long double`. -/
def toBinaryStream : Value → Option Bytes
  | string s => packString isLittleEndian s
  | int n => packSigned isLittleEndian n.toInt
  | longlong n =>
    some ((packSigned isLittleEndian n.toInt).getD
      (0xD3 :: packedData isLittleEndian 8 (bitsOf 64 n.toInt)))
  | double bits => some (0xCB :: packedData isLittleEndian 8 bits.toNat)
  | bool b => some [if b then 0xC3 else 0xC2]
  | null => some [0xC0]
  | uint n => packUnsigned isLittleEndian n.toNat
  | ulonglong n =>
    some ((packUnsigned isLittleEndian n.toNat).getD
      (0xCF :: packedData isLittleEndian 8 n.toNat))
  | longDouble bits => some (0xCB :: packedData isLittleEndian 8 (toDouble bits).toNat)
  | array elements => do
    let header ← packLength isLittleEndian 0x90 15 0xDC 0xDD elements.length
    return header ++ (← toBinaryElements elements)
  | hash entries => do
    let header ← packLength isLittleEndian 0x80 15 0xDE 0xDF entries.length
    return header ++ (← toBinaryEntries entries)
  | foreign _ => some []

/-- The elements of an array. -/
def toBinaryElements : List Value → Option Bytes
  | [] => some []
  | value :: elements => do return (← toBinaryStream value) ++ (← toBinaryElements elements)

/-- The entries of a hash, each as its key and its value. -/
def toBinaryEntries : List (Bytes × Value) → Option Bytes
  | [] => some []
  | (key, value) :: entries => do
    return (← packString isLittleEndian key) ++ (← toBinaryStream value) ++
      (← toBinaryEntries entries)

end

/-- `ToMessagePack`. -/
def toMessagePack (value : Value) : Option Bytes := toBinaryStream isLittleEndian toDouble value

end Encoder

/-! ### The format -/

/-- What stands at the beginning of an object. -/
inductive Head where
  | value (value : Value)
  | raw (length : ℕ)
  | array (length : ℕ)
  | map (length : ℕ)

/-- The number in two's complement. -/
def signed (bits n : ℕ) : ℤ := if n < 2 ^ (bits - 1) then n else n - 2 ^ bits

/-- A number of some bytes. -/
def readNumber (size : ℕ) (make : ℕ → Head) (stream : Bytes) : Option (Head × Bytes) :=
  if size ≤ stream.length then some (make (ofBigEndian (stream.take size)), stream.drop size)
  else none

/-- The first byte of an object, and the number that may follow it. -/
def readHead : Bytes → Option (Head × Bytes)
  | [] => none
  | b :: stream =>
    if b.toNat ≤ 0x7F then some (.value (ofInt b.toNat), stream)
    else if b.toNat ≤ 0x8F then some (.map (b.toNat - 0x80), stream)
    else if b.toNat ≤ 0x9F then some (.array (b.toNat - 0x90), stream)
    else if b.toNat ≤ 0xBF then some (.raw (b.toNat - 0xA0), stream)
    else if 0xE0 ≤ b.toNat then some (.value (ofInt (signed 8 b.toNat)), stream)
    else
      match b.toNat with
      | 0xC0 => some (.value null, stream)
      | 0xC2 => some (.value (bool false), stream)
      | 0xC3 => some (.value (bool true), stream)
      | 0xCB => readNumber 8 (fun n ↦ .value (double (UInt64.ofNat n))) stream
      | 0xCC => readNumber 1 (fun n ↦ .value (ofInt n)) stream
      | 0xCD => readNumber 2 (fun n ↦ .value (ofInt n)) stream
      | 0xCE => readNumber 4 (fun n ↦ .value (ofInt n)) stream
      | 0xCF => readNumber 8 (fun n ↦ .value (ofInt n)) stream
      | 0xD0 => readNumber 1 (fun n ↦ .value (ofInt (signed 8 n))) stream
      | 0xD1 => readNumber 2 (fun n ↦ .value (ofInt (signed 16 n))) stream
      | 0xD2 => readNumber 4 (fun n ↦ .value (ofInt (signed 32 n))) stream
      | 0xD3 => readNumber 8 (fun n ↦ .value (ofInt (signed 64 n))) stream
      | 0xDA => readNumber 2 .raw stream
      | 0xDB => readNumber 4 .raw stream
      | 0xDC => readNumber 2 .array stream
      | 0xDD => readNumber 4 .array stream
      | 0xDE => readNumber 2 .map stream
      | 0xDF => readNumber 4 .map stream
      | _ => none

/-- A number of objects, one after the other. -/
def readMany {α : Type} (read : Bytes → Option (α × Bytes)) : ℕ → Bytes → Option (List α × Bytes)
  | 0, stream => some ([], stream)
  | n + 1, stream => do
    let (a, stream) ← read stream
    let (as, stream) ← readMany read n stream
    return (a :: as, stream)

/-- A key, which is a raw, and its value. -/
def readEntry (read : Bytes → Option (Value × Bytes)) (stream : Bytes) :
    Option ((Bytes × Value) × Bytes) := do
  let (key, stream) ← read stream
  let (value, stream) ← read stream
  match key with
  | string s => return ((s, value), stream)
  | _ => none

/-- An object, nested at most as deep as the fuel. -/
def unpackObject : ℕ → Bytes → Option (Value × Bytes)
  | 0, _ => none
  | fuel + 1, stream => do
    let (head, stream) ← readHead stream
    match head with
    | .value value => return (value, stream)
    | .raw length =>
      if length ≤ stream.length then return (string (stream.take length), stream.drop length)
      else none
    | .array length =>
      let (elements, stream) ← readMany (unpackObject fuel) length stream
      return (array elements, stream)
    | .map length =>
      let (entries, stream) ← readMany (readEntry (unpackObject fuel)) length stream
      return (hash (entries.foldl (fun map p ↦ SortedAssoc.insert p.1 p.2 map) []), stream)

/-- The object at the beginning of a stream, and what is left; each nesting takes a byte. -/
def unpack (stream : Bytes) : Option (Value × Bytes) := unpackObject (stream.length + 1) stream

mutual

/-- What the bytes of a value are decoded as: integers in 64-bit types, every floating-point number
as a `double`, and the entries of a hash inserted one by one. -/
def unpacked (toDouble : BitVec 80 → UInt64) : Value → Value
  | int n => ofInt n.toInt
  | uint n => ofInt n.toNat
  | longlong n => ofInt n.toInt
  | ulonglong n => ofInt n.toNat
  | array elements => array (unpackedElements toDouble elements)
  | hash entries =>
    hash ((unpackedEntries toDouble entries).foldl (fun map p ↦ SortedAssoc.insert p.1 p.2 map) [])
  | null => null
  | bool b => bool b
  | double bits => double bits
  | longDouble bits => double (toDouble bits)
  | string s => string s
  | foreign typeName => foreign typeName

/-- The elements as they are decoded. -/
def unpackedElements (toDouble : BitVec 80 → UInt64) : List Value → List Value
  | [] => []
  | value :: elements => unpacked toDouble value :: unpackedElements toDouble elements

/-- The entries with their values as they are decoded. -/
def unpackedEntries (toDouble : BitVec 80 → UInt64) : List (Bytes × Value) → List (Bytes × Value)
  | [] => []
  | (key, value) :: entries => (key, unpacked toDouble value) :: unpackedEntries toDouble entries

end

/-! ### Numbers -/

theorem bitsOf_lt (bits : ℕ) (n : ℤ) : bitsOf bits n < 2 ^ bits := by
  have hlt : n % 2 ^ bits < 2 ^ bits := Int.emod_lt_of_pos n (by positivity)
  have hcast : ((2 ^ bits : ℕ) : ℤ) = 2 ^ bits := by push_cast; rfl
  rw [bitsOf]
  omega

/-- **Two's complement is read back.** -/
theorem signed_bitsOf {bits : ℕ} {n : ℤ} (hbits : 0 < bits) (hlow : -2 ^ (bits - 1) ≤ n)
    (hhigh : n < 2 ^ (bits - 1)) : signed bits (bitsOf bits n) = n := by
  obtain ⟨k, rfl⟩ := Nat.exists_eq_add_of_lt hbits
  have hpow : (2 : ℤ) ^ (0 + k + 1) = 2 * 2 ^ k := by rw [Nat.zero_add, pow_succ, mul_comm]
  have hpos : (0 : ℤ) < 2 ^ k := by positivity
  rw [show 0 + k + 1 - 1 = k by omega] at hlow hhigh
  have hcast : ((2 ^ k : ℕ) : ℤ) = 2 ^ k := by push_cast; rfl
  rw [signed, bitsOf, show 0 + k + 1 - 1 = k by omega, hpow]
  rcases lt_or_ge n 0 with hn | hn
  · have hmod : n % (2 * 2 ^ k) = n + 2 * 2 ^ k := by
      rw [← Int.add_emod_right, Int.emod_eq_of_lt (by omega) (by omega)]
    rw [hmod, if_neg (by omega)]
    omega
  · rw [Int.emod_eq_of_lt hn (by omega), if_pos (by omega)]
    omega

/-- Bytes that begin with a number. -/
theorem readNumber_bigEndian (size : ℕ) {n : ℕ} (hn : n < 256 ^ size) (make : ℕ → Head)
    (rest : Bytes) :
    readNumber size make (bigEndian size n ++ rest) = some (make n, rest) := by
  have hlength : (bigEndian size n).length = size := length_bigEndian size n
  rw [readNumber, if_pos (by rw [List.length_append, hlength]; omega), List.take_left' hlength,
    List.drop_left' hlength, ofBigEndian_bigEndian, Nat.mod_eq_of_lt hn]

/-! ### Heads -/

section Heads

variable {isLittleEndian : Bool} {header : Bytes} {length : ℕ} {rest : Bytes}

/-- A prefix and a small length in one byte. -/
theorem toNat_or_ofNat {i k length : ℕ} (hfix : k * 2 ^ i + 2 ^ i ≤ 256)
    (hlength : length < 2 ^ i) :
    (UInt8.ofNat (k * 2 ^ i) ||| UInt8.ofNat length).toNat = k * 2 ^ i + length := by
  rw [UInt8.toNat_or, UInt8.toNat_ofNat_of_lt' (show k * 2 ^ i < 2 ^ 8 by omega),
    UInt8.toNat_ofNat_of_lt' (show length < 2 ^ 8 by omega),
    Utf8.or_low i k (2 ^ i) rfl rfl hlength]

/-- **A length is read back**, if the three ways to write it are read as lengths. -/
theorem readHead_packLength {fix prefix16 prefix32 : UInt8} {limit : ℕ} {make : ℕ → Head}
    (hfix : ∀ n ≤ limit, readHead ((fix ||| UInt8.ofNat n) :: rest) = some (make n, rest))
    (h16 : ∀ stream, readHead (prefix16 :: stream) = readNumber 2 make stream)
    (h32 : ∀ stream, readHead (prefix32 :: stream) = readNumber 4 make stream)
    (h : packLength isLittleEndian fix limit prefix16 prefix32 length = some header) :
    readHead (header ++ rest) = some (make length, rest) := by
  rw [packLength] at h
  split_ifs at h with hsmall h2 h4
  · obtain rfl := Option.some.inj h
    exact hfix length hsmall
  · obtain rfl := Option.some.inj h
    rw [packedData_eq, List.cons_append, h16]
    exact readNumber_bigEndian _ (by omega) make rest
  · obtain rfl := Option.some.inj h
    rw [packedData_eq, List.cons_append, h32]
    exact readNumber_bigEndian _ (by omega) make rest

theorem readHead_raw (h : packLength isLittleEndian 0xA0 31 0xDA 0xDB length = some header) :
    readHead (header ++ rest) = some (.raw length, rest) := by
  refine readHead_packLength (fun n hn ↦ ?_) (fun _ ↦ rfl) (fun _ ↦ rfl) h
  have hbyte : ((0xA0 : UInt8) ||| UInt8.ofNat n).toNat = 0xA0 + n :=
    toNat_or_ofNat (i := 5) (k := 5) (by decide) (by omega)
  rw [readHead, hbyte, if_neg (by omega), if_neg (by omega), if_neg (by omega), if_pos (by omega),
    Nat.add_sub_cancel_left]

theorem readHead_array (h : packLength isLittleEndian 0x90 15 0xDC 0xDD length = some header) :
    readHead (header ++ rest) = some (.array length, rest) := by
  refine readHead_packLength (fun n hn ↦ ?_) (fun _ ↦ rfl) (fun _ ↦ rfl) h
  have hbyte : ((0x90 : UInt8) ||| UInt8.ofNat n).toNat = 0x90 + n :=
    toNat_or_ofNat (i := 4) (k := 9) (by decide) (by omega)
  rw [readHead, hbyte, if_neg (by omega), if_neg (by omega), if_pos (by omega),
    Nat.add_sub_cancel_left]

theorem readHead_map (h : packLength isLittleEndian 0x80 15 0xDE 0xDF length = some header) :
    readHead (header ++ rest) = some (.map length, rest) := by
  refine readHead_packLength (fun n hn ↦ ?_) (fun _ ↦ rfl) (fun _ ↦ rfl) h
  have hbyte : ((0x80 : UInt8) ||| UInt8.ofNat n).toNat = 0x80 + n :=
    toNat_or_ofNat (i := 4) (k := 8) (by decide) (by omega)
  rw [readHead, hbyte, if_neg (by omega), if_pos (by omega), Nat.add_sub_cancel_left]

/-- **A signed number is read back** behind a prefix for its size. -/
theorem readHead_signed {code : UInt8} (size : ℕ) {n : ℤ} (hsize : 0 < size)
    (hcode : ∀ stream, readHead (code :: stream) =
      readNumber size (fun n ↦ .value (ofInt (signed (8 * size) n))) stream)
    (hlow : -2 ^ (8 * size - 1) ≤ n) (hhigh : n < 2 ^ (8 * size - 1)) :
    readHead (code :: bigEndian size (bitsOf (8 * size) n) ++ rest) =
      some (.value (ofInt n), rest) := by
  have hlt : bitsOf (8 * size) n < 256 ^ size := by
    have hbits := bitsOf_lt (8 * size) n
    rwa [pow_mul] at hbits
  rw [List.cons_append, hcode, readNumber_bigEndian size hlt,
    signed_bitsOf (by omega) hlow hhigh]

/-- **The fixnums and the signed numbers are read back.** -/
theorem readHead_packSigned {n : ℤ} (h : packSigned isLittleEndian n = some header) :
    readHead (header ++ rest) = some (.value (ofInt n), rest) := by
  rw [packSigned, packedData_eq, packedData_eq] at h
  split_ifs at h with hfix h8 h16 h32
  · obtain rfl := Option.some.inj h
    have hbyte : (UInt8.ofNat (bitsOf 8 n)).toNat = bitsOf 8 n :=
      UInt8.toNat_ofNat_of_lt' (bitsOf_lt 8 n)
    rw [List.singleton_append, readHead, hbyte]
    rcases lt_or_ge n 0 with hn | hn
    · have hbits : (bitsOf 8 n : ℤ) = n + 256 := by
        rw [bitsOf]
        omega
      rw [if_neg (by omega), if_neg (by omega), if_neg (by omega), if_neg (by omega),
        if_pos (by omega), signed_bitsOf (by decide) (by omega) (by omega)]
    · have hbits : (bitsOf 8 n : ℤ) = n := by
        rw [bitsOf]
        omega
      rw [if_pos (by omega), hbits]
  · obtain rfl := Option.some.inj h
    exact readHead_signed 1 (by decide) (fun _ ↦ rfl) (by omega) (by omega)
  · obtain rfl := Option.some.inj h
    exact readHead_signed 2 (by decide) (fun _ ↦ rfl) (by omega) (by omega)
  · obtain rfl := Option.some.inj h
    exact readHead_signed 4 (by decide) (fun _ ↦ rfl) (by omega) (by omega)

theorem readHead_packUnsigned {n : ℕ} (h : packUnsigned isLittleEndian n = some header) :
    readHead (header ++ rest) = some (.value (ofInt n), rest) := by
  rw [packUnsigned, packedData_eq, packedData_eq] at h
  have hcode8 : ∀ stream, readHead (0xCC :: stream) =
    readNumber 1 (fun n ↦ .value (ofInt n)) stream := fun _ ↦ rfl
  have hcode16 : ∀ stream, readHead (0xCD :: stream) =
    readNumber 2 (fun n ↦ .value (ofInt n)) stream := fun _ ↦ rfl
  have hcode32 : ∀ stream, readHead (0xCE :: stream) =
    readNumber 4 (fun n ↦ .value (ofInt n)) stream := fun _ ↦ rfl
  split_ifs at h with h8 h16 h32
  · obtain rfl := Option.some.inj h
    rw [List.cons_append, hcode8]
    exact readNumber_bigEndian 1 (by omega) _ rest
  · obtain rfl := Option.some.inj h
    rw [List.cons_append, hcode16]
    exact readNumber_bigEndian _ (by omega) _ rest
  · obtain rfl := Option.some.inj h
    rw [List.cons_append, hcode32]
    exact readNumber_bigEndian _ (by omega) _ rest

end Heads

/-! ### Objects -/

/-- Are the lengths of the value itself and of its keys below 2³²? -/
def shortData : Value → Bool
  | string s => s.length < 2 ^ 32
  | array elements => elements.length < 2 ^ 32
  | hash entries => entries.length < 2 ^ 32 && entries.all fun p ↦ p.1.length < 2 ^ 32
  | _ => true

/-- All lengths in the value are below 2³². -/
def Short (value : Value) : Prop := value.everywhere shortData = true

instance (value : Value) : Decidable value.Short := inferInstanceAs (Decidable (_ = _))

/-- The bytes of a value, wherever they stand. -/
def Unpacks (bytes : Bytes) (value : Value) : Prop :=
  ∀ fuel rest, bytes.length ≤ fuel → unpackObject fuel (bytes ++ rest) = some (value, rest)

section Objects

variable {isLittleEndian : Bool} {toDouble : BitVec 80 → UInt64}

/-- Something read from a head has bytes. -/
theorem ne_nil_of_readHead {header : Bytes} {head : Head}
    (h : ∀ rest, readHead (header ++ rest) = some (head, rest)) : header ≠ [] := by
  rintro rfl
  exact absurd (h []) (by simp [readHead])

/-- A value that is all in its head. -/
theorem unpacks_of_readHead {bytes : Bytes} {value : Value}
    (h : ∀ rest, readHead (bytes ++ rest) = some (.value value, rest)) : Unpacks bytes value := by
  intro fuel rest hfuel
  have hpos := List.length_pos_of_ne_nil (ne_nil_of_readHead h)
  obtain ⟨fuel, rfl⟩ : ∃ k, fuel = k + 1 := ⟨fuel - 1, by omega⟩
  rw [unpackObject, h]
  rfl

theorem exists_packLength (isLittleEndian : Bool) (fix prefix16 prefix32 : UInt8) (limit : ℕ)
    {length : ℕ} (h : length < 2 ^ 32) :
    ∃ header, packLength isLittleEndian fix limit prefix16 prefix32 length = some header := by
  rw [packLength]
  split_ifs
  · exact ⟨_, rfl⟩
  · exact ⟨_, rfl⟩
  · exact ⟨_, rfl⟩
  · omega

/-- **A raw is read back.** -/
theorem unpacks_packString (isLittleEndian : Bool) {s : Bytes} (h : s.length < 2 ^ 32) :
    ∃ bytes, packString isLittleEndian s = some bytes ∧ Unpacks bytes (string s) := by
  obtain ⟨header, hheader⟩ := exists_packLength isLittleEndian 0xA0 0xDA 0xDB 31 h
  refine ⟨header ++ s, by rw [packString, hheader]; rfl, fun fuel rest hfuel ↦ ?_⟩
  have hpos := List.length_pos_of_ne_nil
    (ne_nil_of_readHead fun _ ↦ readHead_raw hheader)
  rw [List.length_append] at hfuel
  obtain ⟨fuel, rfl⟩ : ∃ k, fuel = k + 1 := ⟨fuel - 1, by omega⟩
  rw [unpackObject, List.append_assoc, readHead_raw hheader]
  show (if s.length ≤ (s ++ rest).length then
    some (string ((s ++ rest).take s.length), (s ++ rest).drop s.length) else none) = _
  rw [if_pos (by rw [List.length_append]; omega), List.take_left, List.drop_left]

theorem exists_packSigned (isLittleEndian : Bool) {n : ℤ} (hlow : -2 ^ 31 ≤ n)
    (hhigh : n < 2 ^ 31) :
    ∃ bytes, packSigned isLittleEndian n = some bytes := by
  rw [packSigned]
  split_ifs
  · exact ⟨_, rfl⟩
  · exact ⟨_, rfl⟩
  · exact ⟨_, rfl⟩
  · exact ⟨_, rfl⟩
  · omega

theorem exists_packUnsigned (isLittleEndian : Bool) {n : ℕ} (h : n < 2 ^ 32) :
    ∃ bytes, packUnsigned isLittleEndian n = some bytes := by
  rw [packUnsigned]
  split_ifs
  · exact ⟨_, rfl⟩
  · exact ⟨_, rfl⟩
  · exact ⟨_, rfl⟩
  · omega

/-- The 64-bit types fall back on their own code. -/
theorem readHead_longlong {n : ℤ} (hlow : -2 ^ 63 ≤ n) (hhigh : n < 2 ^ 63) (rest : Bytes) :
    readHead ((packSigned isLittleEndian n).getD
      (0xD3 :: packedData isLittleEndian 8 (bitsOf 64 n)) ++ rest) =
        some (.value (ofInt n), rest) := by
  cases h : packSigned isLittleEndian n with
  | some bytes => exact readHead_packSigned h
  | none =>
    rw [packedData_eq]
    exact readHead_signed 8 (by decide) (fun _ ↦ rfl) (by omega) (by omega)

theorem readHead_ulonglong {n : ℕ} (hn : n < 2 ^ 64) (rest : Bytes) :
    readHead ((packUnsigned isLittleEndian n).getD
        (0xCF :: packedData isLittleEndian 8 n) ++ rest) =
      some (.value (ofInt n), rest) := by
  cases h : packUnsigned isLittleEndian n with
  | some bytes => exact readHead_packUnsigned h
  | none =>
    have hcode : ∀ stream, readHead (0xCF :: stream) =
      readNumber 8 (fun n ↦ .value (ofInt n)) stream := fun _ ↦ rfl
    rw [packedData_eq, Option.getD_none, List.cons_append, hcode]
    exact readNumber_bigEndian _ (by omega) _ rest

theorem readHead_double (bits : UInt64) (rest : Bytes) :
    readHead (0xCB :: packedData isLittleEndian 8 bits.toNat ++ rest) =
      some (.value (double bits), rest) := by
  have hcode : ∀ stream, readHead (0xCB :: stream) =
    readNumber 8 (fun n ↦ .value (double (UInt64.ofNat n))) stream := fun _ ↦ rfl
  have hlt := bits.toNat_lt
  rw [packedData_eq, List.cons_append, hcode, readNumber_bigEndian 8 (by omega),
    UInt64.ofNat_toNat]

/-- An array or a map: a header, and a body that is shorter than both. -/
theorem unpackObject_header {header body rest : Bytes} {head : Head} {fuel : ℕ}
    (h : ∀ rest, readHead (header ++ rest) = some (head, rest))
    (hfuel : (header ++ body).length ≤ fuel) :
    ∃ k, fuel = k + 1 ∧ body.length ≤ k ∧
      readHead (header ++ body ++ rest) = some (head, body ++ rest) := by
  have hpos := List.length_pos_of_ne_nil (ne_nil_of_readHead h)
  rw [List.length_append] at hfuel
  exact ⟨fuel - 1, by omega, by omega, by rw [List.append_assoc, h]⟩

mutual

/-- **Every value without foreign objects is packed, and read back.** -/
theorem unpacks_toBinaryStream : ∀ value : Value, value.ForeignFree → value.Short →
    ∃ bytes, toBinaryStream isLittleEndian toDouble value = some bytes ∧
      Unpacks bytes (value.unpacked toDouble)
  | null, _, _ => ⟨_, rfl, unpacks_of_readHead fun _ ↦ rfl⟩
  | bool b, _, _ => by
    refine ⟨_, rfl, unpacks_of_readHead fun rest ↦ ?_⟩
    cases b <;> rfl
  | string s, _, hshort => by
    rw [toBinaryStream]
    exact unpacks_packString isLittleEndian (by simpa [Short, everywhere, shortData] using hshort)
  | int n, _, _ => by
    have hlow := n.le_toInt
    have hhigh := n.toInt_lt
    obtain ⟨bytes, hbytes⟩ := exists_packSigned isLittleEndian hlow hhigh
    exact ⟨bytes, hbytes, unpacks_of_readHead fun rest ↦ readHead_packSigned hbytes⟩
  | uint n, _, _ => by
    obtain ⟨bytes, hbytes⟩ := exists_packUnsigned isLittleEndian n.toNat_lt
    exact ⟨bytes, hbytes, unpacks_of_readHead fun rest ↦ readHead_packUnsigned hbytes⟩
  | longlong n, _, _ =>
    ⟨_, rfl, unpacks_of_readHead (readHead_longlong n.le_toInt n.toInt_lt)⟩
  | ulonglong n, _, _ => ⟨_, rfl, unpacks_of_readHead (readHead_ulonglong n.toNat_lt)⟩
  | double bits, _, _ => ⟨_, rfl, unpacks_of_readHead (readHead_double bits)⟩
  | longDouble bits, _, _ => ⟨_, rfl, unpacks_of_readHead (readHead_double (toDouble bits))⟩
  | array elements, hforeign, hshort => by
    simp only [ForeignFree, Short, everywhere, Bool.and_eq_true] at hforeign hshort
    have hlength : elements.length < 2 ^ 32 := by simpa [shortData] using hshort.1
    obtain ⟨header, hheader⟩ := exists_packLength isLittleEndian 0x90 0xDC 0xDD 15 hlength
    obtain ⟨body, hbody, hread⟩ := unpacks_toBinaryElements elements hforeign.2 hshort.2
    refine ⟨header ++ body, by rw [toBinaryStream, hheader, hbody]; rfl, fun fuel rest hfuel ↦ ?_⟩
    obtain ⟨k, rfl, hk, hhead⟩ := unpackObject_header (fun _ ↦ readHead_array hheader) hfuel
    rw [unpackObject, hhead]
    show (readMany (unpackObject k) elements.length (body ++ rest)).bind _ = _
    rw [hread k rest hk]
    rfl
  | hash entries, hforeign, hshort => by
    simp only [ForeignFree, Short, everywhere, Bool.and_eq_true] at hforeign hshort
    have hshort' : entries.length < 2 ^ 32 ∧ ∀ p ∈ entries, p.1.length < 2 ^ 32 := by
      simpa [shortData] using hshort.1
    obtain ⟨header, hheader⟩ := exists_packLength isLittleEndian 0x80 0xDE 0xDF 15 hshort'.1
    obtain ⟨body, hbody, hread⟩ :=
      unpacks_toBinaryEntries entries hforeign.2 hshort.2 hshort'.2
    refine ⟨header ++ body, by rw [toBinaryStream, hheader, hbody]; rfl, fun fuel rest hfuel ↦ ?_⟩
    obtain ⟨k, rfl, hk, hhead⟩ := unpackObject_header (fun _ ↦ readHead_map hheader) hfuel
    rw [unpackObject, hhead]
    show (readMany (readEntry (unpackObject k)) entries.length (body ++ rest)).bind _ = _
    rw [hread k rest hk]
    rfl
  | foreign _, hforeign, _ => absurd hforeign (by simp [ForeignFree, everywhere, foreignFreeType])

theorem unpacks_toBinaryElements : ∀ elements : List Value,
    everywhereElements foreignFreeType elements = true →
    everywhereElements shortData elements = true →
    ∃ bytes, toBinaryElements isLittleEndian toDouble elements = some bytes ∧
      ∀ fuel rest, bytes.length ≤ fuel → readMany (unpackObject fuel) elements.length
        (bytes ++ rest) = some (unpackedElements toDouble elements, rest)
  | [], _, _ => ⟨[], rfl, fun _ _ _ ↦ rfl⟩
  | value :: elements, hforeign, hshort => by
    simp only [everywhereElements, Bool.and_eq_true] at hforeign hshort
    obtain ⟨first, hfirst, hvalue⟩ := unpacks_toBinaryStream value hforeign.1 hshort.1
    obtain ⟨later, hlater, helements⟩ := unpacks_toBinaryElements elements hforeign.2 hshort.2
    refine ⟨first ++ later, by rw [toBinaryElements, hfirst, hlater]; rfl, fun fuel rest hfuel ↦ ?_⟩
    rw [List.length_append] at hfuel
    rw [List.length_cons, readMany, List.append_assoc, hvalue fuel _ (by omega)]
    show (readMany (unpackObject fuel) elements.length (later ++ rest)).bind _ = _
    rw [helements fuel rest (by omega)]
    rfl

theorem unpacks_toBinaryEntries : ∀ entries : List (Bytes × Value),
    everywhereEntries foreignFreeType entries = true →
    everywhereEntries shortData entries = true → (∀ p ∈ entries, p.1.length < 2 ^ 32) →
    ∃ bytes, toBinaryEntries isLittleEndian toDouble entries = some bytes ∧
      ∀ fuel rest, bytes.length ≤ fuel → readMany (readEntry (unpackObject fuel)) entries.length
        (bytes ++ rest) = some (unpackedEntries toDouble entries, rest)
  | [], _, _, _ => ⟨[], rfl, fun _ _ _ ↦ rfl⟩
  | (key, value) :: entries, hforeign, hshort, hkeys => by
    simp only [everywhereEntries, Bool.and_eq_true] at hforeign hshort
    obtain ⟨first, hfirst, hkey⟩ := unpacks_packString isLittleEndian
      (hkeys (key, value) List.mem_cons_self)
    obtain ⟨second, hsecond, hvalue⟩ := unpacks_toBinaryStream value hforeign.1 hshort.1
    obtain ⟨later, hlater, hentries⟩ := unpacks_toBinaryEntries entries hforeign.2 hshort.2
      fun p hp ↦ hkeys p (List.mem_cons_of_mem _ hp)
    refine ⟨first ++ second ++ later, by rw [toBinaryEntries, hfirst, hsecond, hlater]; rfl,
      fun fuel rest hfuel ↦ ?_⟩
    rw [List.length_append, List.length_append] at hfuel
    have hentry : readEntry (unpackObject fuel) (first ++ (second ++ (later ++ rest))) =
        some ((key, value.unpacked toDouble), later ++ rest) := by
      rw [readEntry, hkey fuel _ (by omega)]
      show (unpackObject fuel (second ++ (later ++ rest))).bind _ = _
      rw [hvalue fuel _ (by omega)]
      rfl
    rw [List.length_cons, readMany, List.append_assoc, List.append_assoc, hentry]
    show (readMany (readEntry (unpackObject fuel)) entries.length (later ++ rest)).bind _ = _
    rw [hentries fuel rest (by omega)]
    rfl

end

/-- The bytes are decoded as a whole, whatever follows them. -/
theorem Unpacks.unpack {bytes : Bytes} {value : Value} (h : Unpacks bytes value) (rest : Bytes) :
    unpack (bytes ++ rest) = some (value, rest) :=
  h _ rest (by rw [List.length_append]; omega)

end Objects

/-! ### Integers by value -/

mutual

/-- A value without floating-point numbers is decoded in canonical form. -/
theorem unpacked_eq_canonical (toDouble : BitVec 80 → UInt64) : ∀ value : Value, value.Exact →
    value.Ordered → value.unpacked toDouble = value.canonical
  | null, _, _ | bool _, _, _ | string _, _, _ | int _, _, _ | uint _, _, _ | longlong _, _, _
  | ulonglong _, _, _ => rfl
  | double _, hexact, _ => absurd hexact (by simp [Exact, everywhere, exactType])
  | longDouble _, hexact, _ => absurd hexact (by simp [Exact, everywhere, exactType])
  | foreign _, hexact, _ => absurd hexact (by simp [Exact, everywhere, exactType])
  | array elements, hexact, hord => by
    simp only [Exact, Ordered, everywhere, Bool.and_eq_true] at hexact hord
    rw [unpacked, canonical, unpackedElements_eq_canonical toDouble elements hexact.2 hord.2]
  | hash entries, hexact, hord => by
    simp only [Exact, Ordered, everywhere, Bool.and_eq_true] at hexact hord
    have hsorted : SortedAssoc.Sorted entries := by simpa [orderedEntries] using hord.1
    have hsorted' : SortedAssoc.Sorted (canonicalEntries entries) := by
      rw [canonicalEntries_eq_map]
      exact (SortedAssoc.sorted_map (f := fun p ↦ (p.1, p.2.canonical)) fun _ ↦ rfl).2 hsorted
    -- a hash is rebuilt from its entries
    rw [unpacked, canonical, unpackedEntries_eq_canonical toDouble entries hexact.2 hord.2,
      SortedAssoc.foldl_insert_self hsorted']

theorem unpackedElements_eq_canonical (toDouble : BitVec 80 → UInt64) : ∀ elements : List Value,
    everywhereElements exactType elements = true →
    everywhereElements orderedEntries elements = true →
    unpackedElements toDouble elements = canonicalElements elements
  | [], _, _ => rfl
  | value :: elements, hexact, hord => by
    simp only [everywhereElements, Bool.and_eq_true] at hexact hord
    rw [unpackedElements, canonicalElements, unpacked_eq_canonical toDouble value hexact.1 hord.1,
      unpackedElements_eq_canonical toDouble elements hexact.2 hord.2]

theorem unpackedEntries_eq_canonical (toDouble : BitVec 80 → UInt64) :
    ∀ entries : List (Bytes × Value), everywhereEntries exactType entries = true →
    everywhereEntries orderedEntries entries = true →
    unpackedEntries toDouble entries = canonicalEntries entries
  | [], _, _ => rfl
  | (key, value) :: entries, hexact, hord => by
    simp only [everywhereEntries, Bool.and_eq_true] at hexact hord
    rw [unpackedEntries, canonicalEntries, unpacked_eq_canonical toDouble value hexact.1 hord.1,
      unpackedEntries_eq_canonical toDouble entries hexact.2 hord.2]

end

/-- **MessagePack and back**: a value is packed without an exception, the reference decoder takes
exactly its bytes and returns the value up to the types of its integers, and the bytes of no other
value begin with them. -/
theorem unpack_toMessagePack (isLittleEndian : Bool) (toDouble : BitVec 80 → UInt64) {value : Value}
    (hexact : value.Exact) (hordered : value.Ordered) (hshort : value.Short) :
    ∃ bytes result, toMessagePack isLittleEndian toDouble value = some bytes ∧
      SameUpToKind value result ∧ (∀ rest, unpack (bytes ++ rest) = some (result, rest)) ∧
      ∀ value' : Value, value'.Exact → value'.Ordered → value'.Short →
        ∀ bytes', toMessagePack isLittleEndian toDouble value' = some bytes' → bytes <+: bytes' →
          bytes = bytes' ∧ SameUpToKind value value' := by
  have hpacked : ∀ value : Value, value.Exact → value.Ordered → value.Short →
      ∃ bytes, toMessagePack isLittleEndian toDouble value = some bytes ∧
        Unpacks bytes value.canonical := by
    intro value hexact hordered hshort
    rw [← unpacked_eq_canonical toDouble value hexact hordered]
    exact unpacks_toBinaryStream value ((exact_iff value).1 hexact).2 hshort
  obtain ⟨bytes, hbytes, hunpacks⟩ := hpacked value hexact hordered hshort
  have hunpack : ∀ rest, unpack (bytes ++ rest) = some (value.canonical, rest) := hunpacks.unpack
  refine ⟨bytes, value.canonical, hbytes, sameUpToKind_canonical hexact, hunpack,
    fun value' hexact' hordered' hshort' bytes' hbytes' hprefix ↦ ?_⟩
  obtain ⟨rest, rfl⟩ := hprefix
  obtain ⟨bytes', hbytes'', hunpacks'⟩ := hpacked value' hexact' hordered' hshort'
  obtain rfl : bytes ++ rest = bytes' := Option.some.inj (hbytes'.symm.trans hbytes'')
  -- the decoder reads both values off the same bytes
  have hboth := hunpacks' ((bytes ++ rest).length + 1) [] (Nat.le_succ _)
  rw [List.append_nil] at hboth
  have hsame := (hunpack rest).symm.trans hboth
  simp only [Option.some.injEq, Prod.mk.injEq] at hsame
  refine ⟨by rw [hsame.2, List.append_nil], ?_⟩
  exact sameUpToKind_of_canonical_eq value value' hexact hsame.1

/-- The sample value, on a little-endian machine. -/
theorem unpack_toMessagePack_sampleValue :
    ∃ bytes result, toMessagePack true (fun _ ↦ 0) sampleValue = some bytes ∧
      SameUpToKind sampleValue result ∧ (∀ rest, unpack (bytes ++ rest) = some (result, rest)) ∧
      ∀ value' : Value, value'.Exact → value'.Ordered → value'.Short →
        ∀ bytes', toMessagePack true (fun _ ↦ 0) value' = some bytes' → bytes <+: bytes' →
          bytes = bytes' ∧ SameUpToKind sampleValue value' := by
  have hexact : sampleValue.Exact := by decide +kernel
  have hordered : sampleValue.Ordered := by decide +kernel
  have hshort : sampleValue.Short := by decide +kernel
  exact unpack_toMessagePack true (fun _ ↦ 0) hexact hordered hshort

end Touchless.Value
