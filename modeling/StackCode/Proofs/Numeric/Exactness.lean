import Mathlib.Data.Int.Bitwise
import Mathlib.Data.Int.ModEq
import StackCode.Proofs.Numeric.Wrapping

/-!
# Exact integer arithmetic

An integer operation reads its operands as integers of its type, computes with these as if
there were no bounds, and reduces the result modulo the number of patterns of the type's
width.  Only a quotient can fail, when the divisor is zero.

Main definitions:

- `Value.StandsFor`: a value of a type that represents an integer.
- `Numeric.Gives`: an outcome that is such a value.
- `Numeric.ExactArithmetic`: what every operation of a type computes.

Main results:

- Theorems `Value.standsFor_ofInt`, `Value.StandsFor.eq_ofInt`: each integer is represented by
  exactly one value of a type.
- Theorem `Numeric.toInt_reading`: which integer a value is read as.
- Theorems `Numeric.quotient_eq`, `Numeric.remainder_eq`, `Numeric.shiftRight_eq`,
  `Numeric.shiftLeft_eq`: operations on patterns as operations on integers.
- Theorem `Numeric.exactArithmetic_of_integral`: the operations of an integer type are exact.
-/

namespace StackCode

/-- A width is a power of two, and so divides the number of patterns. -/
theorem DataType.width_dvd {type : DataType} (hstorable : type ≠ .void) :
    (type.width : Int) ∣ 2 ^ type.width := by
  cases type with
  | void => exact absurd rfl hstorable
  | _ => decide

/-! ## Represented integers -/

namespace Value

/-- The value has the type and no bits above its width, and it stands for the integer modulo
the number of patterns of that width. -/
structure StandsFor (value : Value) (type : DataType) (n : Int) : Prop where
  type_eq : value.type = type
  raw_lt : value.raw.toNat < 2 ^ type.width
  raw_modEq : (value.raw.toNat : Int) ≡ n [ZMOD 2 ^ type.width]

/-- The value of an integer stands for it. -/
theorem standsFor_ofInt (type : DataType) (n : Int) : (ofInt type n).StandsFor type n := by
  have hpos : (0 : Int) < (2 ^ type.width : Nat) := Int.natCast_pos.mpr (Nat.two_pow_pos _)
  have hnonneg := Int.emod_nonneg n hpos.ne'
  have hlt := Int.emod_lt_of_pos n hpos
  refine ⟨rfl, ?_, ?_⟩
  · rw [toNat_raw_ofInt]
    omega
  · rw [toNat_raw_ofInt, Int.toNat_of_nonneg hnonneg]
    exact_mod_cast Int.mod_modEq n _

/-- A value stands for all integers that leave the same remainder. -/
theorem StandsFor.of_modEq {value : Value} {type : DataType} {n m : Int}
    (hstands : value.StandsFor type n) (hmod : n ≡ m [ZMOD 2 ^ type.width]) :
    value.StandsFor type m :=
  ⟨hstands.type_eq, hstands.raw_lt, hstands.raw_modEq.trans hmod⟩

/-- No other value of the type stands for an integer. -/
theorem StandsFor.eq_ofInt {value : Value} {type : DataType} {n : Int}
    (hstands : value.StandsFor type n) : value = ofInt type n := by
  obtain ⟨htype, hlt, hraw⟩ := hstands
  obtain ⟨-, hltInt, hrawInt⟩ := standsFor_ofInt type n
  have hmod : (value.raw.toNat : Int) ≡ (ofInt type n).raw.toNat [ZMOD 2 ^ type.width] :=
    hraw.trans hrawInt.symm
  have hsame : value.raw.toNat = (ofInt type n).raw.toNat :=
    Nat.ModEq.eq_of_lt_of_lt (Int.natCast_modEq_iff.mp (by exact_mod_cast hmod)) hlt hltInt
  cases value
  exact congrArg₂ Value.mk htype (UInt64.toNat_inj.mp hsame)

end Value

namespace Numeric

/-! ## Patterns as integers -/

section Patterns

variable {width : Nat}

/-- The integer that a pattern stands for. -/
def integerOf (signed : Bool) (a : BitVec width) : Int := if signed then a.toInt else a.toNat

variable (signed : Bool) (a b : BitVec width)

/-- A pattern is that of the integer it stands for. -/
theorem ofInt_integerOf : BitVec.ofInt width (integerOf signed a) = a := by
  cases signed with
  | true => exact BitVec.ofInt_toInt
  | false => simp [integerOf]

theorem ofInt_bmod (n : Int) : BitVec.ofInt width (n.bmod (2 ^ width)) = BitVec.ofInt width n := by
  apply BitVec.eq_of_toInt_eq
  rw [BitVec.toInt_ofInt, BitVec.toInt_ofInt, Int.bmod_bmod]

theorem ofInt_sub (n m : Int) :
    BitVec.ofInt width (n - m) = BitVec.ofInt width n - BitVec.ofInt width m := by
  rw [Int.sub_eq_add_neg, BitVec.ofInt_add, BitVec.ofInt_neg, ← BitVec.sub_eq_add_neg]

/-- The quotient is that of the integers, rounded toward zero. -/
theorem quotient_eq :
    quotient signed a b =
      BitVec.ofInt width ((integerOf signed a).tdiv (integerOf signed b)) := by
  cases signed with
  | true =>
    change a.sdiv b = BitVec.ofInt width (a.toInt.tdiv b.toInt)
    rw [← ofInt_bmod, ← BitVec.toInt_sdiv, BitVec.ofInt_toInt]
  | false =>
    change a / b = BitVec.ofInt width ((a.toNat : Int).tdiv b.toNat)
    rw [← Int.ofNat_tdiv, ← BitVec.toNat_udiv, BitVec.ofInt_natCast, BitVec.ofNat_toNat,
      BitVec.setWidth_eq]

/-- The remainder belongs to that quotient. -/
theorem remainder_eq :
    remainder signed a b =
      BitVec.ofInt width ((integerOf signed a).tmod (integerOf signed b)) := by
  cases signed with
  | true =>
    change a.srem b = BitVec.ofInt width (a.toInt.tmod b.toInt)
    rw [← BitVec.toInt_srem, BitVec.ofInt_toInt]
  | false =>
    change a % b = BitVec.ofInt width ((a.toNat : Int).tmod b.toNat)
    rw [← Int.ofNat_tmod, ← BitVec.toNat_umod, BitVec.ofInt_natCast, BitVec.ofNat_toNat,
      BitVec.setWidth_eq]

/-- A shift to the left multiplies. -/
theorem shiftLeft_eq (amount : Nat) :
    a.shiftLeft amount = BitVec.ofInt width (integerOf signed a * 2 ^ amount) := by
  have hpower : BitVec.ofInt width (2 ^ amount) = BitVec.twoPow width amount := by
    rw [← BitVec.toNat_inj, BitVec.toNat_twoPow]
    norm_cast
  rw [BitVec.ofInt_mul, ofInt_integerOf, hpower, ← BitVec.shiftLeft_eq_mul_twoPow,
    BitVec.shiftLeft_eq]

/-- A shift to the right divides and rounds down. -/
theorem shiftRight_eq (amount : Nat) :
    shiftRight signed a amount =
      BitVec.ofInt width ((integerOf signed a).fdiv (2 ^ amount)) := by
  rw [Int.fdiv_eq_ediv_of_nonneg _ (Int.pow_nonneg (by decide))]
  cases signed with
  | true =>
    change a.sshiftRight amount = BitVec.ofInt width (a.toInt / 2 ^ amount)
    have hshift : a.toInt / 2 ^ amount = a.toInt >>> amount := by
      rw [Int.shiftRight_eq_div_pow]
      norm_cast
    rw [hshift, ← BitVec.toInt_sshiftRight, BitVec.ofInt_toInt]
  | false =>
    change a >>> amount = BitVec.ofInt width ((a.toNat : Int) / 2 ^ amount)
    have hshift : (a.toNat : Int) / 2 ^ amount = ((a >>> amount).toNat : Nat) := by
      rw [BitVec.toNat_ushiftRight, Nat.shiftRight_eq_div_pow]
      norm_cast
    rw [hshift, BitVec.ofInt_natCast, BitVec.ofNat_toNat, BitVec.setWidth_eq]

/-- The low bits of an integer are those of its pattern. -/
theorem getLsbD_ofInt (n : Int) {i : Nat} (hi : i < width) :
    (BitVec.ofInt width n).getLsbD i = n.testBit i := by
  cases n with
  | ofNat m =>
    have hbit := BitVec.getLsbD_ofNat width m i
    rwa [decide_eq_true hi, Bool.true_and] at hbit
  | negSucc m =>
    rw [BitVec.ofInt_negSucc_eq_not_ofNat, BitVec.getLsbD_not, BitVec.getLsbD_ofNat]
    simp [hi, Int.testBit]

theorem testBit_integerOf {i : Nat} (hi : i < width) :
    (integerOf signed a).testBit i = a.getLsbD i := by
  rw [← getLsbD_ofInt _ hi, ofInt_integerOf]

/-- A pattern is that of an integer with the same low bits. -/
theorem eq_ofInt_of_testBit {a : BitVec width} {n : Int}
    (hbits : ∀ i < width, a.getLsbD i = n.testBit i) : a = BitVec.ofInt width n :=
  BitVec.eq_of_getLsbD_eq fun i hi => by rw [hbits i hi, getLsbD_ofInt n hi]

/-- Operations on the bits of patterns are those on the bits of the integers. -/
theorem and_eq :
    a.and b = BitVec.ofInt width ((integerOf signed a).land (integerOf signed b)) := by
  apply eq_ofInt_of_testBit
  intro i hi
  rw [BitVec.and_eq, BitVec.getLsbD_and, Int.testBit_land, testBit_integerOf signed a hi,
    testBit_integerOf signed b hi]

theorem or_eq :
    a.or b = BitVec.ofInt width ((integerOf signed a).lor (integerOf signed b)) := by
  apply eq_ofInt_of_testBit
  intro i hi
  rw [BitVec.or_eq, BitVec.getLsbD_or, Int.testBit_lor, testBit_integerOf signed a hi,
    testBit_integerOf signed b hi]

theorem xor_eq :
    a.xor b = BitVec.ofInt width ((integerOf signed a).xor (integerOf signed b)) := by
  apply eq_ofInt_of_testBit
  intro i hi
  rw [BitVec.xor_eq, BitVec.getLsbD_xor, Int.testBit_lxor, testBit_integerOf signed a hi,
    testBit_integerOf signed b hi]

/-- Only the pattern without bits stands for zero. -/
theorem integerOf_eq_zero_iff : integerOf signed a = 0 ↔ a.toNat = 0 := by
  cases signed with
  | true =>
    change a.toInt = 0 ↔ a.toNat = 0
    rw [← BitVec.toInt_zero, BitVec.toInt_inj, ← BitVec.toNat_inj, BitVec.toNat_zero]
  | false => exact Int.natCast_eq_zero

/-- A pattern and the integer it stands for leave the same remainder. -/
theorem integerOf_modEq : integerOf signed a ≡ a.toNat [ZMOD 2 ^ width] := by
  cases signed with
  | true =>
    change a.toInt ≡ a.toNat [ZMOD 2 ^ width]
    rw [BitVec.toInt_eq_toNat_bmod]
    exact_mod_cast (Int.bmod_emod : Int.bmod _ (2 ^ width) % _ = _)
  | false => exact Int.ModEq.refl _

end Patterns

/-- The pattern of an operand is that of the integer it is read as. -/
theorem bits_eq_ofInt (type : DataType) (a : Value) :
    a.bits type = BitVec.ofInt type.width (a.toInt type) :=
  (ofInt_integerOf type.isSigned (a.bits type)).symm

/-- An operand is read as zero when its pattern has no bits in the width. -/
theorem toInt_eq_zero_iff (type : DataType) (operand : Value) :
    operand.toInt type = 0 ↔ (operand.bits type).toNat = 0 :=
  integerOf_eq_zero_iff type.isSigned (operand.bits type)

/-- An operand is read as the integer in the range of the type with the low bits of its
pattern. -/
theorem toInt_reading (type : DataType) (operand : Value) :
    operand.toInt type ≡ operand.raw.toNat [ZMOD 2 ^ type.width] ∧
      type.least ≤ operand.toInt type ∧ operand.toInt type ≤ type.greatest := by
  refine ⟨?_, ?_⟩
  · have hbits : (operand.bits type).toNat = operand.raw.toNat % 2 ^ type.width :=
      BitVec.toNat_setWidth type.width operand.raw.toBitVec
    refine (integerOf_modEq type.isSigned (operand.bits type)).trans ?_
    rw [hbits]
    exact_mod_cast Int.mod_modEq (operand.raw.toNat : Int) (2 ^ type.width)
  · unfold Value.toInt DataType.least DataType.greatest
    generalize operand.bits type = bits
    cases type.isSigned with
    | true =>
      have hlower := BitVec.le_toInt bits
      have hupper := BitVec.toInt_lt (x := bits)
      simp only [if_true, Nat.one_shiftLeft, Int.negOfNat_eq, Int.ofNat_eq_natCast, Nat.cast_pow,
        Nat.cast_ofNat]
      omega
    | false =>
      have hlt := bits.isLt
      simp only [Bool.false_eq_true, if_false, Nat.one_shiftLeft, Int.ofNat_eq_natCast]
      omega

/-! ## Orders -/

section Orders

variable (x y : Int)

theorem holds_lessThan : holds .lessThan (some (Ord.compare x y)) = true ↔ x < y := by
  simp [holds, Int.compare_eq_lt]

theorem holds_lessThanEqual : holds .lessThanEqual (some (Ord.compare x y)) = true ↔ x ≤ y := by
  simp only [holds, Bool.or_eq_true, beq_iff_eq, Option.some.injEq, Int.compare_eq_lt,
    Int.compare_eq_eq]
  exact Int.le_iff_lt_or_eq.symm

theorem holds_greaterThan : holds .greaterThan (some (Ord.compare x y)) = true ↔ x > y := by
  simp [holds, Int.compare_eq_gt]

theorem holds_greaterThanEqual :
    holds .greaterThanEqual (some (Ord.compare x y)) = true ↔ x ≥ y := by
  simp only [holds, Bool.or_eq_true, beq_iff_eq, Option.some.injEq, Int.compare_eq_gt,
    Int.compare_eq_eq]
  omega

theorem holds_equal : holds .equal (some (Ord.compare x y)) = true ↔ x = y := by
  simp [holds]

theorem holds_notEqual : holds .notEqual (some (Ord.compare x y)) = true ↔ x ≠ y := by
  simp [holds]

end Orders

/-! ## Operations -/

/-- The outcome is a value of a type that stands for an integer. -/
def Gives (outcome : Except Fault Value) (type : DataType) (n : Int) : Prop :=
  ∃ value, outcome = .ok value ∧ value.StandsFor type n

section Operations

variable {type : DataType} (hintegral : type.Integral) {opcode : Opcode} {a b : Value} {n : Int}
include hintegral

/-- An operation on patterns that gives the pattern of an integer gives its value. -/
theorem gives_binary
    (hbits : integerBinary opcode type (a.bits type) (b.bits type) =
      .ok (BitVec.ofInt type.width n)) : Gives (binary opcode type a b) type n := by
  refine ⟨.ofInt type n, ?_, Value.standsFor_ofInt type n⟩
  rw [binary_of_integral hintegral, hbits, ← ofBits_ofInt]
  rfl

theorem gives_unary
    (hbits : integerUnary opcode type (a.bits type) = .ok (BitVec.ofInt type.width n)) :
    Gives (unary opcode type a) type n := by
  refine ⟨.ofInt type n, ?_, Value.standsFor_ofInt type n⟩
  rw [unary_of_integral hintegral, hbits, ← ofBits_ofInt]
  rfl

/-- The amount of a shift is the second operand modulo the width. -/
theorem shiftAmount_eq (b : Value) :
    (b.bits type).toNat % type.width = (b.toInt type % type.width).toNat := by
  have hsame : b.toInt type ≡ (b.bits type).toNat [ZMOD type.width] :=
    (integerOf_modEq type.isSigned (b.bits type)).of_dvd (DataType.width_dvd hintegral.2)
  rw [hsame]
  norm_cast

/-- A division by zero is the fault of a quotient or a remainder whose divisor is read as
zero, and of nothing else. -/
theorem binary_divisionByZero_iff (opcode : Opcode) (a b : Value) :
    binary opcode type a b = .error .divisionByZero ↔
      (opcode = .divide ∨ opcode = .modulo) ∧ b.toInt type = 0 := by
  rw [binary_of_integral hintegral, toInt_eq_zero_iff]
  cases opcode with
  | divide => by_cases hnone : (b.bits type).toNat = 0 <;> simp [integerBinary, hnone, Except.map]
  | modulo => by_cases hnone : (b.bits type).toNat = 0 <;> simp [integerBinary, hnone, Except.map]
  | _ => simp [integerBinary, Except.map]

theorem unary_ne_divisionByZero (opcode : Opcode) (a : Value) :
    unary opcode type a ≠ .error .divisionByZero := by
  rw [unary_of_integral hintegral]
  cases opcode <;> simp [integerUnary, Except.map]

/-- A comparison is one of the integers that the operands are read as; the tests for zero
compare with zero. -/
theorem compare_eq {comparison : Comparison} {holding : Prop} [Decidable holding]
    (hholds : holds comparison (some (Ord.compare (a.toInt type)
      (if comparison.arity = 1 then 0 else b.toInt type))) = true ↔ holding) :
    compare comparison type a b = .ok (decide holding) := by
  have hnone : (Value.zero type).toInt type = 0 :=
    (toInt_eq_zero_iff type _).mpr (by simp [Value.bits, Value.zero])
  have hother : (if comparison.arity = 1 then Value.zero type else b).toInt type =
      if comparison.arity = 1 then 0 else b.toInt type := by
    split
    · exact hnone
    · rfl
  rw [← Bool.eq_iff_iff.mpr (hholds.trans (decide_eq_true_iff (p := holding)).symm), ← hother]
  simp only [compare, if_neg hintegral.2, order, hintegral.1, Bool.false_eq_true, if_false]

end Operations

/-! ## Exactness -/

/-- The operations of an integer type compute with the integers that their operands are read
as, whatever types these have. -/
structure ExactArithmetic (type : DataType) (a b : Value) : Prop where
  /-- An operand is read as the integer in the range of the type with the low bits of its
  pattern. -/
  reading : ∀ operand : Value,
    operand.toInt type ≡ operand.raw.toNat [ZMOD 2 ^ type.width] ∧
      type.least ≤ operand.toInt type ∧ operand.toInt type ≤ type.greatest
  add : Gives (binary .add type a b) type (a.toInt type + b.toInt type)
  subtract : Gives (binary .subtract type a b) type (a.toInt type - b.toInt type)
  multiply : Gives (binary .multiply type a b) type (a.toInt type * b.toInt type)
  /-- A quotient is rounded toward zero. -/
  divide : b.toInt type ≠ 0 →
    Gives (binary .divide type a b) type ((a.toInt type).tdiv (b.toInt type))
  /-- A remainder has the sign of the dividend. -/
  modulo : b.toInt type ≠ 0 →
    Gives (binary .modulo type a b) type ((a.toInt type).tmod (b.toInt type))
  /-- The one quotient that does not fit wraps around. -/
  divide_least : type.isSigned → a.toInt type = type.least → b.toInt type = -1 →
    binary .divide type a b = .ok (.ofInt type type.least) ∧
      binary .modulo type a b = .ok (.zero type)
  /-- Only a divisor of zero is a fault of this kind. -/
  divisionByZero : ∀ opcode, binary opcode type a b = .error .divisionByZero ↔
    (opcode = .divide ∨ opcode = .modulo) ∧ b.toInt type = 0
  unary_divisionByZero : ∀ opcode, unary opcode type a ≠ .error .divisionByZero
  and : Gives (binary .and type a b) type ((a.toInt type).land (b.toInt type))
  or : Gives (binary .or type a b) type ((a.toInt type).lor (b.toInt type))
  xor : Gives (binary .xor type a b) type ((a.toInt type).xor (b.toInt type))
  shiftLeft : Gives (binary .shiftLeft type a b) type
    (a.toInt type * 2 ^ (b.toInt type % type.width).toNat)
  /-- A shift to the right rounds down. -/
  shiftRight : Gives (binary .shiftRight type a b) type
    ((a.toInt type).fdiv (2 ^ (b.toInt type % type.width).toNat))
  negate : Gives (unary .negate type a) type (-a.toInt type)
  increment : Gives (unary .increment type a) type (a.toInt type + 1)
  decrement : Gives (unary .decrement type a) type (a.toInt type - 1)
  not : Gives (unary .not type a) type (-a.toInt type - 1)
  lessThan : compare .lessThan type a b = .ok (decide (a.toInt type < b.toInt type))
  lessThanEqual : compare .lessThanEqual type a b = .ok (decide (a.toInt type ≤ b.toInt type))
  greaterThan : compare .greaterThan type a b = .ok (decide (a.toInt type > b.toInt type))
  greaterThanEqual :
    compare .greaterThanEqual type a b = .ok (decide (a.toInt type ≥ b.toInt type))
  equal : compare .equal type a b = .ok (decide (a.toInt type = b.toInt type))
  notEqual : compare .notEqual type a b = .ok (decide (a.toInt type ≠ b.toInt type))
  zero : compare .zero type a b = .ok (decide (a.toInt type = 0))
  notZero : compare .notZero type a b = .ok (decide (a.toInt type ≠ 0))

section Exactness

variable {type : DataType} (hintegral : type.Integral) {a b : Value}
include hintegral

theorem gives_divide (hdivisor : b.toInt type ≠ 0) :
    Gives (binary .divide type a b) type ((a.toInt type).tdiv (b.toInt type)) := by
  have hnonzero : (b.bits type).toNat ≠ 0 :=
    mt (toInt_eq_zero_iff type b).mpr hdivisor
  apply gives_binary hintegral
  simp only [integerBinary, if_neg hnonzero]
  exact congrArg Except.ok (quotient_eq type.isSigned _ _)

theorem gives_modulo (hdivisor : b.toInt type ≠ 0) :
    Gives (binary .modulo type a b) type ((a.toInt type).tmod (b.toInt type)) := by
  have hnonzero : (b.bits type).toNat ≠ 0 :=
    mt (toInt_eq_zero_iff type b).mpr hdivisor
  apply gives_binary hintegral
  simp only [integerBinary, if_neg hnonzero]
  exact congrArg Except.ok (remainder_eq type.isSigned _ _)

/-- The least integer divided by minus one is itself, and nothing remains. -/
theorem divide_least (hsigned : type.isSigned) (hleast : a.toInt type = type.least)
    (hminus : b.toInt type = -1) :
    binary .divide type a b = .ok (.ofInt type type.least) ∧
      binary .modulo type a b = .ok (.zero type) := by
  have hdivisor : b.toInt type ≠ 0 := by
    rw [hminus]
    decide
  have hwraps : -type.least ≡ type.least [ZMOD 2 ^ type.width] := by
    cases type with
    | i64 | i32 | i16 | i8 => decide
    | _ => cases hsigned
  obtain ⟨value, hvalue, hquotient⟩ := gives_divide (a := a) hintegral hdivisor
  obtain ⟨rest, hrest, hremainder⟩ := gives_modulo (a := a) hintegral hdivisor
  rw [hleast, hminus, Int.tdiv_neg, Int.tdiv_one] at hquotient
  rw [hminus, Int.tmod_neg, Int.tmod_one] at hremainder
  have hzero : (Value.zero type).StandsFor type 0 :=
    ⟨rfl, Nat.two_pow_pos _, Int.ModEq.refl _⟩
  refine ⟨?_, ?_⟩
  · rw [hvalue, (hquotient.of_modEq hwraps).eq_ofInt]
  · rw [hrest, hremainder.eq_ofInt, ← hzero.eq_ofInt]

theorem gives_shiftLeft :
    Gives (binary .shiftLeft type a b) type
      (a.toInt type * 2 ^ (b.toInt type % type.width).toNat) := by
  apply gives_binary hintegral
  rw [← shiftAmount_eq hintegral]
  exact congrArg Except.ok (shiftLeft_eq type.isSigned _ _)

theorem gives_shiftRight :
    Gives (binary .shiftRight type a b) type
      ((a.toInt type).fdiv (2 ^ (b.toInt type % type.width).toNat)) := by
  apply gives_binary hintegral
  rw [← shiftAmount_eq hintegral]
  exact congrArg Except.ok (shiftRight_eq type.isSigned _ _)

/-- The operations of an integer type are exact. -/
theorem exactArithmetic_of_integral (a b : Value) : ExactArithmetic type a b where
  reading := toInt_reading type
  add := gives_binary hintegral <| congrArg Except.ok <| by
    rw [bits_eq_ofInt, bits_eq_ofInt, BitVec.ofInt_add]
    rfl
  subtract := gives_binary hintegral <| congrArg Except.ok <| by
    rw [bits_eq_ofInt, bits_eq_ofInt, ofInt_sub]
    rfl
  multiply := gives_binary hintegral <| congrArg Except.ok <| by
    rw [bits_eq_ofInt, bits_eq_ofInt, BitVec.ofInt_mul]
    rfl
  divide := gives_divide hintegral
  modulo := gives_modulo hintegral
  divide_least := divide_least hintegral
  divisionByZero opcode := binary_divisionByZero_iff hintegral opcode a b
  unary_divisionByZero opcode := unary_ne_divisionByZero hintegral opcode a
  and := gives_binary hintegral (congrArg Except.ok (and_eq type.isSigned _ _))
  or := gives_binary hintegral (congrArg Except.ok (or_eq type.isSigned _ _))
  xor := gives_binary hintegral (congrArg Except.ok (xor_eq type.isSigned _ _))
  shiftLeft := gives_shiftLeft hintegral
  shiftRight := gives_shiftRight hintegral
  negate := gives_unary hintegral <| congrArg Except.ok <| by
    rw [bits_eq_ofInt, BitVec.ofInt_neg]
    rfl
  increment := gives_unary hintegral <| congrArg Except.ok <| by
    rw [bits_eq_ofInt, BitVec.ofInt_add]
    rfl
  decrement := gives_unary hintegral <| congrArg Except.ok <| by
    rw [bits_eq_ofInt, ofInt_sub]
    rfl
  not := gives_unary hintegral <| congrArg Except.ok <| by
    rw [bits_eq_ofInt, ofInt_sub, BitVec.ofInt_neg]
    exact BitVec.not_eq_neg_add _
  lessThan := compare_eq hintegral (holds_lessThan _ _)
  lessThanEqual := compare_eq hintegral (holds_lessThanEqual _ _)
  greaterThan := compare_eq hintegral (holds_greaterThan _ _)
  greaterThanEqual := compare_eq hintegral (holds_greaterThanEqual _ _)
  equal := compare_eq hintegral (holds_equal _ _)
  notEqual := compare_eq hintegral (holds_notEqual _ _)
  zero := compare_eq hintegral (holds_equal _ _)
  notZero := compare_eq hintegral (holds_notEqual _ _)

end Exactness

/-- The least integer of 16 bits and minus one, read from operands of other types that have
more bits. -/
theorem exactArithmetic_of_integral_wide :
    DataType.i16.Integral ∧ (⟨.u32, 0xFFFF8000⟩ : Value).toInt .i16 = -32768 ∧
      (⟨.f32, 0x7F80FFFF⟩ : Value).toInt .i16 = -1 ∧
        ExactArithmetic .i16 ⟨.u32, 0xFFFF8000⟩ ⟨.f32, 0x7F80FFFF⟩ :=
  ⟨by decide, by decide, by decide, exactArithmetic_of_integral (by decide) _ _⟩

end Numeric

end StackCode
