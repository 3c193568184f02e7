/-!
# Little-endian words

Numbers as byte sequences of a fixed length, least significant byte first.

Main results:

- `LittleEndian.length_encode`: an encoding has the requested length.
- `LittleEndian.decode_encode`: a number that fits is read back.
- `LittleEndian.encode_decode`: bytes are written back.
-/

namespace StackCode.LittleEndian

/-- The low `length` bytes of a number, least significant first. -/
def encode : Nat → Nat → List UInt8
  | 0, _ => []
  | length + 1, n => (n % 256).toUInt8 :: encode length (n / 256)

/-- The number that bytes stand for. -/
def decode : List UInt8 → Nat
  | [] => 0
  | byte :: rest => byte.toNat + 256 * decode rest

/-- An encoding has the requested length. -/
@[simp]
theorem length_encode (length n : Nat) : (encode length n).length = length := by
  induction length generalizing n with
  | zero => rfl
  | succ length ih => simp [encode, ih]

/-- Decoding an encoding gives the number up to the bytes that were dropped. -/
theorem decode_encode (length n : Nat) :
    decode (encode length n) = n % Nat.pow 256 length := by
  induction length generalizing n with
  | zero => simp [encode, decode, Nat.mod_one]
  | succ length ih =>
    have byte : (n % 256).toUInt8.toNat = n % 256 := by simp
    rw [encode, decode, ih, byte]
    show _ = n % (Nat.pow 256 length * 256)
    rw [Nat.mul_comm (Nat.pow 256 length) 256, Nat.mod_mul]

/-- Bytes stand for a number that fits in them. -/
theorem decode_lt (bytes : List UInt8) : decode bytes < Nat.pow 256 bytes.length := by
  induction bytes with
  | nil => simp [decode]
  | cons byte rest ih =>
    have hbyte : byte.toNat < 256 := byte.toNat_lt
    have hpow : Nat.pow 256 (byte :: rest).length = Nat.pow 256 rest.length * 256 := rfl
    rw [decode, hpow]
    omega

/-- Encoding the number that bytes stand for gives the bytes. -/
theorem encode_decode (bytes : List UInt8) : encode bytes.length (decode bytes) = bytes := by
  induction bytes with
  | nil => rfl
  | cons byte rest ih =>
    have hbyte : byte.toNat < 256 := byte.toNat_lt
    have hlow : (byte.toNat + 256 * decode rest) % 256 = byte.toNat := by omega
    have hhigh : (byte.toNat + 256 * decode rest) / 256 = decode rest := by omega
    rw [List.length_cons, decode, encode, hlow, hhigh, ih, Nat.toUInt8_eq, UInt8.ofNat_toNat]

end StackCode.LittleEndian
