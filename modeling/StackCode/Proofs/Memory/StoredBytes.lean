import Mathlib.Algebra.BigOperators.Group.List.Basic
import Mathlib.Algebra.Order.Ring.Nat
import StackCode.Memory.Arena

/-!
# Stored values

Values lie in the arena as little-endian bytes of their type's size.  This file says
what comes back when such bytes are read: the value without the bits above its
width, and exactly the bytes that were set last at every offset.

Main definitions:

- `Value.stored`: a value as it is read back after it was stored.

Main results:

- Theorem `Value.ofBytes_bytes`: reading the bytes of a value gives the stored value.
- Theorem `Value.stored_ofBytes`: a value that was read is not changed by storing it.
- Theorem `Value.bytes_ofBytes`: a value that was read is stored in the bytes it was read from.
- Theorem `Arena.getD_setBytes`: setting bytes changes exactly the bytes that are set.
- Theorem `Arena.size_setBytes_le`: the bytes that are set bound the growth of the store.
-/

namespace StackCode

/-! ## Values and their bytes -/

namespace Value

/-- The value that is read back after a value was stored: the bits above the width of
its type are dropped. -/
def stored (value : Value) : Value := ofRaw value.type value.raw

@[simp]
theorem type_stored (value : Value) : value.stored.type = value.type :=
  rfl

/-- The mask of a type has the low bits of its width set. -/
theorem toNat_mask (type : DataType) : type.mask.toNat = 2 ^ type.width - 1 := by
  cases type <;> rfl

/-- Masking a pattern keeps as many low bytes as the type has. -/
theorem toNat_and_mask (type : DataType) (raw : UInt64) :
    (raw &&& type.mask).toNat = raw.toNat % 256 ^ type.size := by
  have hwidth : 256 ^ type.size = 2 ^ type.width := by
    rw [DataType.width, Nat.pow_mul]
  rw [UInt64.toNat_and, toNat_mask, Nat.and_two_pow_sub_one_eq_mod, hwidth]

/-- Reading the bytes of a value gives the value without the bits above its width. -/
theorem ofBytes_bytes (value : Value) : ofBytes value.type value.bytes = value.stored := by
  have hlength : value.bytes.length = value.type.size := length_bytes value
  have htake : value.bytes.take value.type.size = value.bytes := by
    rw [← hlength, List.take_length]
  have hdecode : LittleEndian.decode value.bytes = (value.raw &&& value.type.mask).toNat := by
    rw [toNat_and_mask, bytes, LittleEndian.decode_encode]
    rfl
  simp [ofBytes, stored, ofRaw, htake, hdecode]

/-- Bytes of a type's size stand for a number that fits into them. -/
theorem decode_take_lt (type : DataType) (bytes : List UInt8) :
    LittleEndian.decode (bytes.take type.size) < 256 ^ type.size := by
  refine Nat.lt_of_lt_of_le (LittleEndian.decode_lt _) (Nat.pow_le_pow_right (by decide) ?_)
  rw [List.length_take]
  exact Nat.min_le_left _ _

/-- The pattern of a value that was read is the number that its bytes stand for. -/
theorem toNat_raw_ofBytes (type : DataType) (bytes : List UInt8) :
    (ofBytes type bytes).raw.toNat = LittleEndian.decode (bytes.take type.size) := by
  have hlt := decode_take_lt type bytes
  have hle : 256 ^ type.size ≤ 2 ^ 64 := by
    cases type <;> decide
  simp only [ofBytes, Nat.toUInt64, UInt64.toNat_ofNat']
  omega

/-- A value that was read from bytes has no bits above its width, so storing it
changes nothing. -/
theorem stored_ofBytes (type : DataType) (bytes : List UInt8) :
    (ofBytes type bytes).stored = ofBytes type bytes := by
  have hraw : (ofBytes type bytes).raw &&& type.mask = (ofBytes type bytes).raw := by
    apply UInt64.toNat_inj.mp
    rw [toNat_and_mask, toNat_raw_ofBytes, Nat.mod_eq_of_lt (decode_take_lt type bytes)]
  exact congrArg (Value.mk type) hraw

/-- A value that was read from bytes of its size is stored in the same bytes. -/
theorem bytes_ofBytes {type : DataType} {bytes : List UInt8} (hlength : bytes.length = type.size) :
    (ofBytes type bytes).bytes = bytes := by
  have hsize : (ofBytes type bytes).size = bytes.length := hlength.symm
  have htake : bytes.take type.size = bytes := by
    rw [← hlength, List.take_length]
  rw [Value.bytes, toNat_raw_ofBytes, htake, hsize, LittleEndian.encode_decode]

@[simp]
theorem size_pointer (address : UInt64) : (pointer address).size = 8 :=
  rfl

@[simp]
theorem size_word (n : UInt32) : (⟨.u32, n.toUInt64⟩ : Value).size = 4 :=
  rfl

/-- An address uses all bits of its pattern. -/
@[simp]
theorem stored_pointer (address : UInt64) : (pointer address).stored = pointer address := by
  apply congrArg (Value.mk DataType.pointer)
  apply UInt64.toNat_inj.mp
  have hlt : address.toNat < 256 ^ DataType.pointer.size := address.toNat_lt
  rw [pointer, toNat_and_mask, Nat.mod_eq_of_lt hlt]

/-- A zero value has no bits to drop. -/
@[simp]
theorem stored_zero (type : DataType) : (zero type).stored = zero type := by
  simp [stored, ofRaw, zero]

/-- A 32-bit number fits into its type. -/
@[simp]
theorem stored_word (n : UInt32) :
    (⟨.u32, n.toUInt64⟩ : Value).stored = ⟨.u32, n.toUInt64⟩ := by
  apply congrArg (Value.mk DataType.u32)
  apply UInt64.toNat_inj.mp
  have hlt : n.toUInt64.toNat < 256 ^ DataType.u32.size := by
    simpa [DataType.size] using n.toNat_lt
  rw [toNat_and_mask, Nat.mod_eq_of_lt hlt]

end Value

/-! ## The byte store -/

namespace Arena

/-- Setting one byte changes that byte only. -/
theorem getD_setByte (bytes : Array UInt8) (offset : Nat) (byte : UInt8) (i : Nat) :
    (setByte bytes offset byte).getD i 0 = if i = offset then byte else bytes.getD i 0 := by
  simp only [Array.getD_eq_getD_getElem?]
  unfold setByte
  split <;> grind

/-- Setting bytes changes exactly the bytes that are set. -/
theorem getD_setBytes (bytes : Array UInt8) (offset : Nat) (stored : List UInt8) (i : Nat) :
    (setBytes bytes offset stored).getD i 0 =
      if offset ≤ i ∧ i < offset + stored.length then stored.getD (i - offset) 0
      else bytes.getD i 0 := by
  induction stored generalizing bytes offset with
  | nil => grind [setBytes]
  | cons byte rest ih =>
    rw [setBytes, ih, getD_setByte]
    grind

/-- The store grows at most up to the bytes that are set. -/
theorem size_setBytes_le (bytes : Array UInt8) (offset : Nat) (stored : List UInt8) :
    (setBytes bytes offset stored).size ≤ max bytes.size (offset + stored.length) := by
  induction stored generalizing bytes offset with
  | nil =>
    rw [setBytes]
    exact Nat.le_max_left _ _
  | cons byte rest ih =>
    have hset : (setByte bytes offset byte).size ≤ max bytes.size (offset + 1) := by
      unfold setByte
      split <;> grind
    have hrest := ih (setByte bytes offset byte) (offset + 1)
    rw [setBytes]
    simp only [List.length_cons]
    omega

/-- A slice shows the bytes that were set. -/
theorem slice_setBytes_same (arena : Arena) (offset : Nat) (stored : List UInt8) :
    ({ arena with bytes := setBytes arena.bytes offset stored } : Arena).slice offset
      stored.length = stored := by
  apply List.ext_getElem
  · simp [slice]
  · intro i hleft hright
    simp only [slice, byteAt, List.getElem_map, List.getElem_range, getD_setBytes]
    grind

/-- A slice beside the bytes that are set shows what it showed before. -/
theorem slice_setBytes_beside (arena : Arena) {offset start : Nat} (length : Nat)
    {stored : List UInt8} (hbeside : start + length ≤ offset ∨ offset + stored.length ≤ start) :
    ({ arena with bytes := setBytes arena.bytes offset stored } : Arena).slice start length =
      arena.slice start length := by
  apply List.ext_getElem
  · simp [slice]
  · intro i hleft hright
    have hi : i < length := by simpa [slice] using hright
    have hout : ¬ (offset ≤ start + i ∧ start + i < offset + stored.length) := by omega
    simp only [slice, byteAt, List.getElem_map, List.getElem_range, getD_setBytes, if_neg hout]

end Arena

end StackCode
