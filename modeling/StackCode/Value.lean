import StackCode.DataType
import StackCode.Floating.Decimal
import StackCode.LittleEndian
import StackCode.Text.Hex

/-!
# Typed values

A value is a data type and a bit pattern of at most 64 bits.  The constructor
`Value.ofRaw` keeps only the bits of the type's width, so two values of one type
that it builds are equal exactly when their stored bytes are.

Main definitions:

- `Value.ofRaw`, `Value.zero`: values from bit patterns.
- `Value.toNat`, `Value.toInt`, `Value.bits`: a value's reading as a type.
- `Value.bytes`, `Value.ofBytes`: little-endian storage.
- `Value.text`, `Value.structuralText`: the printed forms.
-/

namespace StackCode

/-- A bit pattern together with its type. -/
structure Value where
  type : DataType
  raw : UInt64
deriving DecidableEq, Repr, Inhabited

namespace Value

/-! ## Bit patterns -/

/-- The value of a type with the low bits of a pattern. -/
def ofRaw (type : DataType) (raw : UInt64) : Value := ⟨type, raw &&& type.mask⟩

/-- The value of a type with the low bits of a natural number. -/
def ofNat (type : DataType) (n : Nat) : Value := ofRaw type (UInt64.ofNat n)

/-- The value of an integer type that represents an integer up to wrapping. -/
def ofInt (type : DataType) (n : Int) : Value :=
  ofRaw type (BitVec.ofInt 64 n).toNat.toUInt64

/-- The value of a type with all bits clear. -/
def zero (type : DataType) : Value := ⟨type, 0⟩

/-- An address as a value. -/
def pointer (address : UInt64) : Value := ⟨.pointer, address⟩

/-- Storage of the value in bytes. -/
def size (value : Value) : Nat := value.type.size

/-- The value has no bits set above its type's width. -/
def Masked (value : Value) : Prop := value.raw &&& value.type.mask = value.raw

instance (value : Value) : Decidable value.Masked :=
  inferInstanceAs (Decidable (_ = _))

/-! ## Readings

A value can be read as any type, whatever its own: the low bits of the pattern
are taken. -/

/-- The low bits of the pattern as a bit vector of a type's width. -/
def bits (value : Value) (type : DataType) : BitVec type.width :=
  value.raw.toBitVec.setWidth type.width

/-- The low bits of the pattern as a natural number. -/
def toNat (value : Value) (type : DataType) : Nat := (value.raw &&& type.mask).toNat

/-- The low bits of the pattern as an integer, in two's complement for the signed
types. -/
def toInt (value : Value) (type : DataType) : Int :=
  if type.isSigned then (value.bits type).toInt else (value.bits type).toNat

/-! ## Storage -/

/-- The bytes of the value, least significant first. -/
def bytes (value : Value) : List UInt8 := LittleEndian.encode value.size value.raw.toNat

/-- The value of a type that is stored in the given bytes. -/
def ofBytes (type : DataType) (bytes : List UInt8) : Value :=
  ⟨type, (LittleEndian.decode (bytes.take type.size)).toUInt64⟩

/-! ## Text -/

/-- The format of a floating-point type; 64 bits for every other type. -/
def floatFormat : DataType → Floating.Format
  | .f32 => .binary32
  | _ => .binary64

/-- The text of the value read as a type: integers in decimal, addresses in
hexadecimal, floating-point numbers with the fewest digits. -/
def textAs (value : Value) : DataType → String
  | .pointer => Text.address (value.toNat .pointer)
  | .void => "void"
  | .f64 => Floating.Format.binary64.text (value.toNat .f64)
  | .f32 => Floating.Format.binary32.text (value.toNat .f32)
  | type => toString (value.toInt type)

/-- The text of the value. -/
def text (value : Value) : String := value.textAs value.type

/-- The text of the value with its type around it. -/
def structuralText (value : Value) : String :=
  value.type.mnemonic ++ "(" ++ value.text ++ ")"

/-- Whether the value is a floating-point value that is not a number. -/
def isNan (value : Value) : Bool :=
  value.type.isFloat && (floatFormat value.type).isNan (value.toNat value.type)

/-- A value built from a pattern has no bits above its type's width. -/
theorem masked_ofRaw (type : DataType) (raw : UInt64) : (ofRaw type raw).Masked := by
  simp [Masked, ofRaw, UInt64.and_assoc]

/-- A value has as many bytes as its type's size. -/
@[simp]
theorem length_bytes (value : Value) : value.bytes.length = value.size := by
  simp [bytes]

end Value

end StackCode
