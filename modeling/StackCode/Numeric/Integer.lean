import StackCode.Trap

/-!
# Integer arithmetic

Arithmetic on bit vectors of a type's width.  It wraps; the signed types divide
toward zero and their remainder has the sign of the dividend; a shift amount is
taken modulo the width.

Main definitions:

- `Numeric.integerBinary`, `Numeric.integerUnary`: one operation of a type.
- `DataType.least`, `DataType.greatest`: the range of an integer type.
-/

namespace StackCode

/-- The least integer of a type. -/
def DataType.least (type : DataType) : Int :=
  if type.isSigned then Int.negOfNat (1 <<< (type.width - 1)) else 0

/-- The greatest integer of a type. -/
def DataType.greatest (type : DataType) : Int :=
  if type.isSigned then Int.ofNat (1 <<< (type.width - 1)) - 1
  else Int.ofNat (1 <<< type.width) - 1

namespace Numeric

/-- A value of a type with the bits of a vector of its width. -/
def ofBits (type : DataType) (bits : BitVec type.width) : Value :=
  ⟨type, UInt64.ofNat bits.toNat⟩

/-- The quotient toward zero. -/
def quotient (signed : Bool) {width : Nat} (a b : BitVec width) : BitVec width :=
  if signed then a.sdiv b else a.udiv b

/-- The remainder of the quotient toward zero. -/
def remainder (signed : Bool) {width : Nat} (a b : BitVec width) : BitVec width :=
  if signed then a.srem b else a.umod b

/-- The shift to the right that keeps the sign of a signed operand. -/
def shiftRight (signed : Bool) {width : Nat} (a : BitVec width) (amount : Nat) :
    BitVec width :=
  if signed then a.sshiftRight amount else a.ushiftRight amount

/-- A two-operand operation on bit vectors of an integer type's width. -/
def integerBinary (opcode : Opcode) (type : DataType) (a b : BitVec type.width) :
    Except Fault (BitVec type.width) :=
  match opcode with
  | .add => .ok (a.add b)
  | .subtract => .ok (a.sub b)
  | .multiply => .ok (a.mul b)
  | .divide =>
    if b.toNat = 0 then .error .divisionByZero else .ok (quotient type.isSigned a b)
  | .modulo =>
    if b.toNat = 0 then .error .divisionByZero else .ok (remainder type.isSigned a b)
  | .and => .ok (a.and b)
  | .or => .ok (a.or b)
  | .xor => .ok (a.xor b)
  | .shiftLeft => .ok (a.shiftLeft (b.toNat % type.width))
  | .shiftRight => .ok (shiftRight type.isSigned a (b.toNat % type.width))
  | _ => .error (.unsupportedType opcode type)

/-- A one-operand operation on a bit vector of an integer type's width. -/
def integerUnary (opcode : Opcode) (type : DataType) (a : BitVec type.width) :
    Except Fault (BitVec type.width) :=
  match opcode with
  | .negate => .ok a.neg
  | .increment => .ok (a.add (BitVec.ofNat type.width 1))
  | .decrement => .ok (a.sub (BitVec.ofNat type.width 1))
  | .not => .ok a.not
  | _ => .error (.unsupportedType opcode type)

end Numeric

end StackCode
