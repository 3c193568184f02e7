import StackCode.Numeric.Integer

/-!
# Arithmetic, comparison and conversion

The operations of the machine on typed values.  Operands are read as the
operation's type, whatever their own.  Integers wrap; floating-point numbers are
rounded to the nearest; a zero divisor is a fault for both.

Main definitions:

- `Numeric.binary`, `Numeric.unary`: arithmetic and bit operations.
- `Numeric.compare`: comparisons; what is not a number is unequal to everything.
- `Numeric.cast`: conversions, by sign or zero extension and truncation between
  integers, to the nearest number to floating point, and limited to the range of
  the target from floating point.
-/

namespace StackCode.Numeric

/-! ## Arithmetic -/

/-- A value of a floating-point type with the given bit pattern. -/
def ofFloatBits (type : DataType) (bits : Nat) : Value := ⟨type, UInt64.ofNat bits⟩

/-- A two-operand operation on bit patterns of a floating-point type. -/
def floatBinary (opcode : Opcode) (type : DataType) (a b : Nat) : Except Fault Nat :=
  let format := Value.floatFormat type
  match opcode with
  | .add => .ok (format.add a b)
  | .subtract => .ok (format.sub a b)
  | .multiply => .ok (format.mul a b)
  | .divide =>
    if (format.decode b).isZero then .error .divisionByZero else .ok (format.div a b)
  | .modulo =>
    if (format.decode b).isZero then .error .divisionByZero else .ok (format.rem a b)
  | _ => .error (.unsupportedType opcode type)

/-- A one-operand operation on a bit pattern of a floating-point type. -/
def floatUnary (opcode : Opcode) (type : DataType) (a : Nat) : Except Fault Nat :=
  let format := Value.floatFormat type
  match opcode with
  | .negate => .ok (format.neg a)
  | .increment => .ok (format.add a (format.ofInt 1))
  | .decrement => .ok (format.sub a (format.ofInt 1))
  | _ => .error (.unsupportedType opcode type)

/-- A two-operand operation of a type. -/
def binary (opcode : Opcode) (type : DataType) (a b : Value) : Except Fault Value :=
  match type with
  | .void => .error (.unsupportedType opcode .void)
  | .f64 | .f32 =>
    (floatBinary opcode type (a.toNat type) (b.toNat type)).map (ofFloatBits type)
  | _ => (integerBinary opcode type (a.bits type) (b.bits type)).map (ofBits type)

/-- A one-operand operation of a type. -/
def unary (opcode : Opcode) (type : DataType) (a : Value) : Except Fault Value :=
  match type with
  | .void => .error (.unsupportedType opcode .void)
  | .f64 | .f32 => (floatUnary opcode type (a.toNat type)).map (ofFloatBits type)
  | _ => (integerUnary opcode type (a.bits type)).map (ofBits type)

/-! ## Comparison -/

/-- Whether a comparison holds between operands in the given order, absent for
operands that cannot be ordered. -/
def holds (comparison : Comparison) (order : Option Ordering) : Bool :=
  match comparison with
  | .lessThan => order == some .lt
  | .lessThanEqual => order == some .lt || order == some .eq
  | .greaterThan => order == some .gt
  | .greaterThanEqual => order == some .gt || order == some .eq
  | .equal | .zero => order == some .eq
  | .notEqual | .notZero => order != some .eq

/-- The order of two values read as a type. -/
def order (type : DataType) (a b : Value) : Option Ordering :=
  if type.isFloat then
    let format := Value.floatFormat type
    (format.decode (a.toNat type)).compare? (format.decode (b.toNat type))
  else some (Ord.compare (a.toInt type) (b.toInt type))

/-- Compares two values of a type; the tests for zero ignore the second. -/
def compare (comparison : Comparison) (type : DataType) (a b : Value) : Except Fault Bool :=
  if type = .void then .error (.unsupportedType .compare .void)
  else
    let other := if comparison.arity = 1 then Value.zero type else b
    .ok (holds comparison (order type a other))

/-! ## Conversion -/

/-- The value that a conversion starts from: an integer, or a 64-bit
floating-point pattern. -/
inductive Wide where
  | integer (value : Int)
  | float (bits : Nat)
deriving DecidableEq, Repr

/-- Widens a value by its own type. -/
def widen (value : Value) : Except Fault Wide :=
  match value.type with
  | .void => .error (.unsupportedType .cast .void)
  | .f64 => .ok (.float (value.toNat .f64))
  | .f32 =>
    .ok (.float (Floating.Format.convert .binary32 .binary64 (value.toNat .f32)))
  | type =>
    .ok (.integer (if type.isSigned then value.toInt type else Int.ofNat value.raw.toNat))

/-- Converts a widened value to a floating-point pattern. -/
def toFloat (format : Floating.Format) : Wide → Nat
  | .integer value => format.ofInt value
  | .float bits => if format = .binary64 then bits else Floating.Format.convert .binary64 format bits

/-- Converts a widened value to an integer of a type, before wrapping. -/
def toInteger (type : DataType) : Wide → Int
  | .integer value => value
  | .float bits => (Floating.Format.binary64.decode bits).toIntIn type.least type.greatest

/-- Converts a value to a type. -/
def cast (value : Value) (type : DataType) : Except Fault Value := do
  let wide ← widen value
  match type with
  | .void => .error (.unsupportedType .cast .void)
  | .f64 | .f32 => .ok (ofFloatBits type (toFloat (Value.floatFormat type) wide))
  | _ => .ok (Value.ofInt type (toInteger type wide))

end StackCode.Numeric
