import StackCode.Proofs.Numeric.Exactness

/-!
# Conversions between integer types

A conversion goes through an integer: that of the value by the signedness of its own type,
which is then reduced modulo the number of patterns of the other type.  The reduction is the
only loss, so a conversion through a type that is wide enough is not noticed.

Main results:

- Theorem `Numeric.cast_of_integral`: the conversion of a masked value.
- Theorem `Numeric.cast_cast`: conversions through a wider type.
- Theorem `Numeric.cast_self`: the conversion of a value to its own type.
- Theorem `Numeric.casts_preserve`: conversions keep the integer up to the target's width.
-/

namespace StackCode

namespace Value

/-- Integers with the same remainder have the same value. -/
theorem ofInt_congr {type : DataType} {n m : Int} (hmod : n ≡ m [ZMOD 2 ^ type.width]) :
    ofInt type n = ofInt type m :=
  ((standsFor_ofInt type n).of_modEq hmod).eq_ofInt

/-- The pattern of a masked value fits into its type's width. -/
theorem raw_lt_of_masked {value : Value} (hmasked : value.Masked) :
    value.raw.toNat < 2 ^ value.type.width := by
  have hpow : 256 ^ value.type.size = 2 ^ value.type.width := by
    rw [DataType.width, Nat.pow_mul]
  have hraw := toNat_and_mask value.type value.raw
  rw [hmasked, hpow] at hraw
  rw [hraw]
  exact Nat.mod_lt _ (Nat.two_pow_pos _)

/-- A masked value stands for the integer it is read as. -/
theorem standsFor_toInt {value : Value} (hmasked : value.Masked) :
    value.StandsFor value.type (value.toInt value.type) :=
  ⟨rfl, raw_lt_of_masked hmasked, (Numeric.toInt_reading value.type value).1.symm⟩

end Value

namespace Numeric

section Integral

variable {value : Value} {type : DataType}

/-- A masked value is widened to the integer it is read as. -/
theorem widen_of_integral (hintegral : value.type.Integral) (hmasked : value.Masked) :
    widen value = .ok (.integer (value.toInt value.type)) := by
  have hwide : (if value.type.isSigned then value.toInt value.type
      else Int.ofNat value.raw.toNat) = value.toInt value.type := by
    split
    · rfl
    · rename_i hunsigned
      rw [Value.toInt, if_neg hunsigned, Value.bits, BitVec.toNat_setWidth,
        UInt64.toNat_toBitVec, Nat.mod_eq_of_lt (Value.raw_lt_of_masked hmasked)]
      rfl
  rw [← hwide]
  obtain ⟨hfloat, hvoid⟩ := hintegral
  unfold widen
  cases htype : value.type with
  | void => exact absurd htype hvoid
  | f64 => simp [htype, DataType.isFloat] at hfloat
  | f32 => simp [htype, DataType.isFloat] at hfloat
  | _ => rfl

/-- A masked value is converted to the value that stands for the same integer. -/
theorem cast_of_integral (hintegral : value.type.Integral) (hmasked : value.Masked)
    (htarget : type.Integral) :
    cast value type = .ok (.ofInt type (value.toInt value.type)) := by
  rw [cast, widen_of_integral hintegral hmasked]
  obtain ⟨hfloat, hvoid⟩ := htarget
  cases type with
  | void => exact absurd rfl hvoid
  | f64 => cases hfloat
  | f32 => cases hfloat
  | _ => rfl

/-- The value of an integer is read as one with the same remainder. -/
theorem toInt_ofInt_modEq (type : DataType) (n : Int) :
    (Value.ofInt type n).toInt type ≡ n [ZMOD 2 ^ type.width] :=
  (toInt_reading type _).1.trans (Value.standsFor_ofInt type n).raw_modEq

/-- A conversion through a type that is at least as wide as the target is not noticed. -/
theorem cast_cast (hintegral : value.type.Integral) (hmasked : value.Masked) {middle : DataType}
    (hmiddle : middle.Integral) (htarget : type.Integral) (hsize : type.size ≤ middle.size) :
    (cast value middle >>= fun between => cast between type) = cast value type := by
  have hdvd : (2 : Int) ^ type.width ∣ 2 ^ middle.width :=
    pow_dvd_pow 2 (Nat.mul_le_mul_left 8 hsize)
  have hbetween : (Value.ofInt middle (value.toInt value.type)).Masked :=
    Value.masked_ofRaw middle _
  rw [cast_of_integral hintegral hmasked hmiddle, cast_of_integral hintegral hmasked htarget]
  change cast (Value.ofInt middle (value.toInt value.type)) type = _
  rw [cast_of_integral hmiddle hbetween htarget]
  exact congrArg Except.ok (Value.ofInt_congr ((toInt_ofInt_modEq middle _).of_dvd hdvd))

/-- A masked value is its own conversion to its type. -/
theorem cast_self (hintegral : value.type.Integral) (hmasked : value.Masked) :
    cast value value.type = .ok value := by
  rw [cast_of_integral hintegral hmasked hintegral, ← (Value.standsFor_toInt hmasked).eq_ofInt]

end Integral

/-- No value can be converted to the type without values. -/
theorem cast_void (value : Value) : cast value .void = .error (.unsupportedType .cast .void) := by
  unfold cast widen
  cases value.type <;> rfl

/-- A conversion between integer types keeps the integer up to the width of the target.  So
there is a way back from a type that is at least as wide, and a conversion through a type at
least as wide as the target is not noticed.  No value at all can be converted to `void`. -/
theorem casts_preserve {value : Value} (hintegral : value.type.Integral) (hmasked : value.Masked)
    {middle type : DataType} (hmiddle : middle.Integral) (htarget : type.Integral) :
    Gives (cast value type) type (value.toInt value.type) ∧
      (value.type.size ≤ type.size →
        (cast value type >>= fun between => cast between value.type) = .ok value) ∧
      (type.size ≤ middle.size →
        (cast value middle >>= fun between => cast between type) = cast value type) ∧
      ∀ other : Value, cast other .void = .error (.unsupportedType .cast .void) := by
  refine ⟨⟨_, cast_of_integral hintegral hmasked htarget, Value.standsFor_ofInt type _⟩,
    fun hsize => ?_, fun hsize => cast_cast hintegral hmasked hmiddle htarget hsize, cast_void⟩
  rw [cast_cast hintegral hmasked htarget hintegral hsize, cast_self hintegral hmasked]

/-- A negative number of eight bits is converted to 32 unsigned bits, at once and by way of
64, and back. -/
theorem casts_preserve_negative :
    (⟨.i8, 0xFE⟩ : Value).Masked ∧ (⟨.i8, 0xFE⟩ : Value).toInt .i8 = -2 ∧
      Gives (cast ⟨.i8, 0xFE⟩ .u32) .u32 (-2) ∧
        (cast ⟨.i8, 0xFE⟩ .u32 >>= fun between => cast between .i8) = .ok ⟨.i8, 0xFE⟩ ∧
          (cast ⟨.i8, 0xFE⟩ .u64 >>= fun between => cast between .u32) =
            cast ⟨.i8, 0xFE⟩ .u32 := by
  have hmasked : (⟨.i8, 0xFE⟩ : Value).Masked := by decide
  have hread : (⟨.i8, 0xFE⟩ : Value).toInt .i8 = -2 := by decide
  have hmiddle : DataType.u64.Integral := by decide
  have htarget : DataType.u32.Integral := by decide
  obtain ⟨hgives, hback, hthrough, -⟩ := casts_preserve (by decide) hmasked hmiddle htarget
  rw [hread] at hgives
  exact ⟨hmasked, hread, hgives, hback (by decide), hthrough (by decide)⟩

end Numeric

end StackCode
