import StackCode.Numeric
import StackCode.Proofs.Memory.StoredBytes

/-!
# Integers that wrap

The values of an integer type stand for the integers modulo a power of two.  This file says
how the operations of the machine act on the value that stands for an integer, so that code
can be followed with the integers themselves.

Main definition:

- `DataType.Integral`: the types whose values are integers.

Main results:

- Theorems `Value.bits_ofInt`, `Numeric.ofBits_ofInt`: the bits that stand for an integer.
- Theorems `Numeric.unary_increment`, `Numeric.unary_decrement`, `Numeric.binary_multiply`:
  arithmetic.
- Theorems `Numeric.compare_lessThan`, `Numeric.compare_notEqual`: comparisons, of the
  integers that are read back.
-/

namespace StackCode

/-- The type is one of the integer types; an address counts as an integer. -/
def DataType.Integral (type : DataType) : Prop := type.isFloat = false ∧ type ≠ .void

instance (type : DataType) : Decidable type.Integral := inferInstanceAs (Decidable (_ ∧ _))

/-- No type has more than 64 bits. -/
theorem DataType.width_le (type : DataType) : type.width ≤ 64 := by
  have hsize := type.size_le
  unfold width
  omega

namespace Value

variable (type : DataType) (n : Int)

/-- The pattern that stands for an integer is its remainder. -/
theorem toNat_raw_ofInt : (ofInt type n).raw.toNat = (n % (2 ^ type.width : Nat)).toNat := by
  have hdvd : ((2 ^ type.width : Nat) : Int) ∣ ((2 ^ 64 : Nat) : Int) :=
    Int.natCast_dvd_natCast.mpr (Nat.pow_dvd_pow 2 type.width_le)
  have hwide : 0 ≤ n % ((2 ^ 64 : Nat) : Int) := Int.emod_nonneg _ (by decide)
  have hfits : (n % ((2 ^ 64 : Nat) : Int)).toNat < 2 ^ 64 := by
    have hlt : n % ((2 ^ 64 : Nat) : Int) < _ := Int.emod_lt_of_pos n (by decide)
    omega
  have hraw : ((BitVec.ofInt 64 n).toNat.toUInt64).toNat = (n % ((2 ^ 64 : Nat) : Int)).toNat := by
    rw [BitVec.toNat_ofInt, Nat.toUInt64, UInt64.toNat_ofNat', Nat.mod_eq_of_lt hfits]
  have hpow : 256 ^ type.size = 2 ^ type.width := by
    rw [DataType.width, Nat.pow_mul]
  change ((BitVec.ofInt 64 n).toNat.toUInt64 &&& type.mask).toNat = _
  rw [toNat_and_mask, hraw, hpow]
  have hmod := Int.emod_emod_of_dvd n hdvd
  rw [← Int.toNat_of_nonneg hwide, ← Int.natCast_emod] at hmod
  omega

/-- The bits of the value that stands for an integer. -/
@[simp]
theorem bits_ofInt : (ofInt type n).bits type = BitVec.ofInt type.width n := by
  apply BitVec.eq_of_toNat_eq
  have hraw := toNat_raw_ofInt type n
  have hlt : (n % (2 ^ type.width : Nat)).toNat < 2 ^ type.width := by
    have hpos : 0 < 2 ^ type.width := Nat.two_pow_pos _
    have hrange := Int.emod_lt_of_pos n (Int.natCast_pos.mpr hpos)
    have hnonneg := Int.emod_nonneg n (Int.natCast_pos.mpr hpos).ne'
    omega
  rw [bits, BitVec.toNat_setWidth, UInt64.toNat_toBitVec, hraw, BitVec.toNat_ofInt,
    Nat.mod_eq_of_lt hlt]

/-- The value that stands for an integer has no bits to drop. -/
@[simp]
theorem stored_ofInt : (ofInt type n).stored = ofInt type n :=
  congrArg (Value.mk type) (masked_ofRaw type _)

@[simp]
theorem size_ofInt : (ofInt type n).size = type.size :=
  rfl

variable {type}

/-- A signed type reads an integer back in its range. -/
theorem toInt_ofInt (hsigned : type.isSigned = true) :
    (ofInt type n).toInt type = n.bmod (2 ^ type.width) := by
  rw [toInt, if_pos hsigned, bits_ofInt, BitVec.toInt_ofInt]

/-- The text of a 32-bit integer. -/
theorem text_ofInt_i32 : (ofInt .i32 n).text = toString (n.bmod (2 ^ 32)) :=
  congrArg toString (toInt_ofInt n rfl)

end Value

namespace Numeric

variable {type : DataType}

/-- The value with the bits that stand for an integer. -/
theorem ofBits_ofInt (type : DataType) (n : Int) :
    ofBits type (BitVec.ofInt type.width n) = Value.ofInt type n := by
  apply congrArg (Value.mk type)
  apply UInt64.toNat_inj.mp
  have hraw := Value.toNat_raw_ofInt type n
  have hlt : (BitVec.ofInt type.width n).toNat < 2 ^ 64 :=
    Nat.lt_of_lt_of_le (BitVec.isLt _) (Nat.pow_le_pow_right (by decide) type.width_le)
  rw [BitVec.toNat_ofInt] at hlt
  change _ = (Value.ofInt type n).raw.toNat
  rw [UInt64.toNat_ofNat', hraw, BitVec.toNat_ofInt, Nat.mod_eq_of_lt hlt]

/-- One-operand operations of an integer type act on bits. -/
theorem unary_of_integral (hintegral : type.Integral) (opcode : Opcode) (a : Value) :
    unary opcode type a = (integerUnary opcode type (a.bits type)).map (ofBits type) := by
  rcases hintegral with ⟨hfloat, hvoid⟩
  cases type with
  | void => exact absurd rfl hvoid
  | f64 => cases hfloat
  | f32 => cases hfloat
  | _ => rfl

/-- Two-operand operations of an integer type act on bits. -/
theorem binary_of_integral (hintegral : type.Integral) (opcode : Opcode) (a b : Value) :
    binary opcode type a b =
      (integerBinary opcode type (a.bits type) (b.bits type)).map (ofBits type) := by
  rcases hintegral with ⟨hfloat, hvoid⟩
  cases type with
  | void => exact absurd rfl hvoid
  | f64 => cases hfloat
  | f32 => cases hfloat
  | _ => rfl

/-- Incrementing adds one. -/
theorem unary_increment (hintegral : type.Integral) (n : Int) :
    unary .increment type (.ofInt type n) = .ok (.ofInt type (n + 1)) := by
  have hone : BitVec.ofNat type.width 1 = BitVec.ofInt type.width 1 :=
    (BitVec.ofInt_natCast type.width 1).symm
  have hsum : (BitVec.ofInt type.width n).add (BitVec.ofNat type.width 1) =
      BitVec.ofInt type.width (n + 1) := by
    rw [BitVec.ofInt_add, hone]
    rfl
  rw [unary_of_integral hintegral, Value.bits_ofInt, ← ofBits_ofInt, ← hsum]
  rfl

/-- Decrementing takes one away. -/
theorem unary_decrement (hintegral : type.Integral) (n : Int) :
    unary .decrement type (.ofInt type n) = .ok (.ofInt type (n - 1)) := by
  have hone : BitVec.ofNat type.width 1 = BitVec.ofInt type.width 1 :=
    (BitVec.ofInt_natCast type.width 1).symm
  have hdifference : (BitVec.ofInt type.width n).sub (BitVec.ofNat type.width 1) =
      BitVec.ofInt type.width (n - 1) := by
    rw [Int.sub_eq_add_neg, BitVec.ofInt_add, BitVec.ofInt_neg, ← hone, ← BitVec.sub_eq_add_neg]
    rfl
  rw [unary_of_integral hintegral, Value.bits_ofInt, ← ofBits_ofInt, ← hdifference]
  rfl

/-- Multiplying multiplies. -/
theorem binary_multiply (hintegral : type.Integral) (a b : Int) :
    binary .multiply type (.ofInt type a) (.ofInt type b) = .ok (.ofInt type (a * b)) := by
  have hproduct : (BitVec.ofInt type.width a).mul (BitVec.ofInt type.width b) =
      BitVec.ofInt type.width (a * b) :=
    (BitVec.ofInt_mul a b).symm
  rw [binary_of_integral hintegral, Value.bits_ofInt, Value.bits_ofInt, ← ofBits_ofInt,
    ← hproduct]
  rfl

/-- A signed type compares integers as it reads them back. -/
theorem compare_ofInt (hsigned : type.isSigned = true) {comparison : Comparison}
    (harity : comparison.arity = 2) (a b : Int) :
    compare comparison type (.ofInt type a) (.ofInt type b) =
      .ok (holds comparison
        (some (Ord.compare (a.bmod (2 ^ type.width)) (b.bmod (2 ^ type.width))))) := by
  have hvoid : type ≠ .void := by
    rintro rfl
    cases hsigned
  have hfloat : type.isFloat = false := by
    cases type with
    | f64 => cases hsigned
    | f32 => cases hsigned
    | _ => rfl
  have hone : ¬ comparison.arity = 1 := by omega
  simp only [compare, if_neg hvoid, if_neg hone, order, hfloat, Bool.false_eq_true, if_false,
    Value.toInt_ofInt _ hsigned]

/-- Whether one integer is less than another one. -/
theorem compare_lessThan (hsigned : type.isSigned = true) (a b : Int) :
    compare .lessThan type (.ofInt type a) (.ofInt type b) =
      .ok (decide (a.bmod (2 ^ type.width) < b.bmod (2 ^ type.width))) := by
  rw [compare_ofInt hsigned rfl, holds, beq_eq_decide, Except.ok.injEq, decide_eq_decide,
    Option.some.injEq]
  exact Int.compare_eq_lt

/-- Whether two integers differ. -/
theorem compare_notEqual (hsigned : type.isSigned = true) (a b : Int) :
    compare .notEqual type (.ofInt type a) (.ofInt type b) =
      .ok (decide (a.bmod (2 ^ type.width) ≠ b.bmod (2 ^ type.width))) := by
  rw [compare_ofInt hsigned rfl, holds, bne, beq_eq_decide, ← decide_not, Except.ok.injEq,
    decide_eq_decide, Option.some.injEq]
  exact not_congr Int.compare_eq_eq

end Numeric

end StackCode
