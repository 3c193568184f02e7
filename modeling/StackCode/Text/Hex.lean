/-!
# Hexadecimal text

Lower-case hexadecimal digits of numbers and bytes.

Main definitions:

- `Text.hex`: the digits of a number without leading zeros.
- `Text.address`: the same with the mark `0x` in front.
- `Text.hexBytes`: two digits for each byte.
-/

namespace StackCode.Text

/-- The hexadecimal digits of a number, without leading zeros. -/
def hex (n : Nat) : String := String.ofList (Nat.toDigits 16 n)

/-- A number as hexadecimal digits after the mark `0x`. -/
def address (n : Nat) : String := "0x" ++ hex n

/-- The two hexadecimal digits of a byte. -/
def hexByte (byte : UInt8) : List Char :=
  [Nat.digitChar (byte.toNat / 16), Nat.digitChar (byte.toNat % 16)]

/-- The hexadecimal digits of a sequence of bytes. -/
def hexBytes (bytes : List UInt8) : String :=
  String.ofList (bytes.flatMap hexByte)

/-- The value of a hexadecimal digit of either case. -/
def hexDigit? (c : Char) : Option Nat :=
  if '0' ≤ c ∧ c ≤ '9' then some (c.toNat - '0'.toNat)
  else if 'a' ≤ c ∧ c ≤ 'f' then some (c.toNat - 'a'.toNat + 10)
  else if 'A' ≤ c ∧ c ≤ 'F' then some (c.toNat - 'A'.toNat + 10)
  else none

end StackCode.Text
