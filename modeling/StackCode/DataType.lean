/-!
# Data types, comparisons and calling conventions

The primitive vocabulary of stack code.  A datum is an integer of one of four
widths, a binary floating-point number of one of two formats, or an address.
The type `void` marks the absence of a value and has no storage.

Main definitions:

- `DataType`, with its storage `size`, its one-byte `tag` and its `mnemonic`.
- `Comparison`: the tests of conditional instructions.
- `Convention`: the calling convention of an external function or a call site.

Each vocabulary has a partial inverse of its tag, `ofTag?`.

Main results:

- Theorem `eq_of_getElem?_toNat`: a table in the order of the tags holds each member at
  its tag.
- Theorems `DataType.ofTag?_eq_some_iff`, `Comparison.ofTag?_eq_some_iff`,
  `Convention.ofTag?_eq_some_iff`: a tag stands for the members that have it.
-/

namespace StackCode

/-! ## Tables of tags -/

/-- What a table holds at the position of a tag has this tag, when the table lists its
members in the order of their tags. -/
theorem eq_of_getElem?_toNat {α : Type} {table : List α} {tag : α → UInt8}
    (horder : (table.map fun member => (tag member).toNat) = List.range table.length)
    {found : UInt8} {member : α} (hmember : table[found.toNat]? = some member) :
    tag member = found := by
  have hlt := (List.getElem?_eq_some_iff.mp hmember).1
  have hposition := congrArg (fun tags : List Nat => tags[found.toNat]?) horder
  simp only [List.getElem?_map, hmember, Option.map_some, List.getElem?_range hlt,
    Option.some.injEq] at hposition
  exact UInt8.toNat_inj.mp hposition

/-! ## Data types -/

/-- The primitive types of the stack machine. -/
inductive DataType where
  | pointer
  | i64
  | i32
  | i16
  | i8
  | u64
  | u32
  | u16
  | u8
  | f64
  | f32
  | void
deriving DecidableEq, Repr, Inhabited

namespace DataType

/-- Every type that has storage, in the order of their tags. -/
def storable : List DataType :=
  [pointer, i64, i32, i16, i8, u64, u32, u16, u8, f64, f32]

/-- Every type, `void` last. -/
def all : List DataType := storable ++ [void]

/-- Storage in bytes; an address takes eight bytes and `void` none. -/
def size : DataType → Nat
  | pointer | i64 | u64 | f64 => 8
  | i32 | u32 | f32 => 4
  | i16 | u16 => 2
  | i8 | u8 => 1
  | void => 0

/-- Storage in bits. -/
def width (type : DataType) : Nat := 8 * type.size

/-- The bits that a value of the type may have set. -/
def mask : DataType → UInt64
  | pointer | i64 | u64 | f64 => 0xFFFFFFFFFFFFFFFF
  | i32 | u32 | f32 => 0xFFFFFFFF
  | i16 | u16 => 0xFFFF
  | i8 | u8 => 0xFF
  | void => 0

/-- Whether the type is a floating-point type. -/
def isFloat : DataType → Bool
  | f64 | f32 => true
  | _ => false

/-- Whether the type is an integer type read in two's complement. -/
def isSigned : DataType → Bool
  | i64 | i32 | i16 | i8 => true
  | _ => false

/-- The tag that stands for the type in a binary module. -/
def tag : DataType → UInt8
  | pointer => 0
  | i64 => 1
  | i32 => 2
  | i16 => 3
  | i8 => 4
  | u64 => 5
  | u32 => 6
  | u16 => 7
  | u8 => 8
  | f64 => 9
  | f32 => 10
  | void => 255

/-- The type that a tag stands for. -/
def ofTag? (tag : UInt8) : Option DataType :=
  match tag with
  | 255 => some void
  | tag => storable[tag.toNat]?

/-- The name of the type in listings and messages. -/
def mnemonic : DataType → String
  | pointer => "ptr"
  | i64 => "i64"
  | i32 => "i32"
  | i16 => "i16"
  | i8 => "i8"
  | u64 => "u64"
  | u32 => "u32"
  | u16 => "u16"
  | u8 => "u8"
  | f64 => "f64"
  | f32 => "f32"
  | void => "void"

/-- The type that a mnemonic names. -/
def ofMnemonic? (text : String) : Option DataType :=
  all.find? fun type => type.mnemonic == text

/-- The name of the type in structural text and in JSON. -/
def name : DataType → String
  | pointer => "Pointer"
  | i64 => "I64"
  | i32 => "I32"
  | i16 => "I16"
  | i8 => "I8"
  | u64 => "U64"
  | u32 => "U32"
  | u16 => "U16"
  | u8 => "U8"
  | f64 => "F64"
  | f32 => "F32"
  | void => "Void"

/-- A type is read back from its tag. -/
@[simp]
theorem ofTag?_tag (type : DataType) : ofTag? type.tag = some type := by
  cases type <;> rfl

/-- A tag stands for the type that has it. -/
theorem ofTag?_eq_some_iff {tag : UInt8} {type : DataType} :
    ofTag? tag = some type ↔ type.tag = tag := by
  constructor
  · intro htype
    unfold ofTag? at htype
    split at htype
    · cases htype
      rfl
    · exact eq_of_getElem?_toNat (by decide) htype
  · rintro rfl
    exact ofTag?_tag type

/-- Only `void` has no storage. -/
theorem size_eq_zero_iff (type : DataType) : type.size = 0 ↔ type = void := by
  cases type <;> simp [size]

/-- No type takes more than eight bytes. -/
theorem size_le (type : DataType) : type.size ≤ 8 := by
  cases type <;> simp [size]

end DataType

/-! ## Comparisons -/

/-- The test that a conditional instruction performs. -/
inductive Comparison where
  | lessThan
  | lessThanEqual
  | greaterThan
  | greaterThanEqual
  | equal
  | notEqual
  | zero
  | notZero
deriving DecidableEq, Repr, Inhabited

namespace Comparison

/-- Every comparison, in the order of their tags. -/
def all : List Comparison :=
  [lessThan, lessThanEqual, greaterThan, greaterThanEqual, equal, notEqual, zero, notZero]

/-- Number of operands the comparison takes from the stack. -/
def arity : Comparison → Nat
  | zero | notZero => 1
  | _ => 2

/-- The tag that stands for the comparison in a binary module. -/
def tag : Comparison → UInt8
  | lessThan => 0
  | lessThanEqual => 1
  | greaterThan => 2
  | greaterThanEqual => 3
  | equal => 4
  | notEqual => 5
  | zero => 6
  | notZero => 7

/-- The comparison that a tag stands for. -/
def ofTag? (tag : UInt8) : Option Comparison := all[tag.toNat]?

/-- The name of the comparison in listings. -/
def mnemonic : Comparison → String
  | lessThan => "lt"
  | lessThanEqual => "lte"
  | greaterThan => "gt"
  | greaterThanEqual => "gte"
  | equal => "eq"
  | notEqual => "neq"
  | zero => "zero"
  | notZero => "notzero"

/-- The name of the comparison in structural text and in JSON. -/
def name : Comparison → String
  | lessThan => "LessThan"
  | lessThanEqual => "LessThanEqual"
  | greaterThan => "GreaterThan"
  | greaterThanEqual => "GreaterThanEqual"
  | equal => "Equal"
  | notEqual => "NotEqual"
  | zero => "Zero"
  | notZero => "NotZero"

/-- A comparison is read back from its tag. -/
@[simp]
theorem ofTag?_tag (comparison : Comparison) : ofTag? comparison.tag = some comparison := by
  cases comparison <;> rfl

/-- A tag stands for the comparison that has it. -/
theorem ofTag?_eq_some_iff {tag : UInt8} {comparison : Comparison} :
    ofTag? tag = some comparison ↔ comparison.tag = tag := by
  constructor
  · exact eq_of_getElem?_toNat (by decide)
  · rintro rfl
    exact ofTag?_tag comparison

end Comparison

/-! ## Calling conventions -/

/-- The calling convention of an external function or of an indirect call. -/
inductive Convention where
  | bridge
  | stdCall
  | cdecl
deriving DecidableEq, Repr, Inhabited

namespace Convention

/-- Every convention, in the order of their tags; the first is the machine's own. -/
def all : List Convention := [bridge, stdCall, cdecl]

/-- The tag that stands for the convention in a binary module. -/
def tag : Convention → UInt8
  | bridge => 0
  | stdCall => 1
  | cdecl => 2

/-- The convention that a tag stands for. -/
def ofTag? : UInt8 → Option Convention
  | 0 => some bridge
  | 1 => some stdCall
  | 2 => some cdecl
  | _ => none

/-- The name of the convention in listings. -/
def mnemonic : Convention → String
  | bridge => "bridge"
  | stdCall => "stdcall"
  | cdecl => "cdecl"

/-- The name of the convention in structural text and in JSON. -/
def name : Convention → String
  | bridge => "Bridge"
  | stdCall => "StdCall"
  | cdecl => "Cdecl"

/-- A convention is read back from its tag. -/
@[simp]
theorem ofTag?_tag (convention : Convention) : ofTag? convention.tag = some convention := by
  cases convention <;> rfl

/-- A tag stands for the convention that has it. -/
theorem ofTag?_eq_some_iff {tag : UInt8} {convention : Convention} :
    ofTag? tag = some convention ↔ convention.tag = tag := by
  constructor
  · intro hconvention
    unfold ofTag? at hconvention
    split at hconvention <;> cases hconvention <;> rfl
  · rintro rfl
    exact ofTag?_tag convention

end Convention

end StackCode
