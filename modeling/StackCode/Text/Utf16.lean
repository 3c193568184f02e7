/-!
# UTF-16, little endian

A character of the basic plane is one 16-bit unit; any other character is a pair
of surrogate units.  Each unit is stored with its low byte first.

Main definitions:

- `Text.utf16`: the encoding of a string.
- `Text.ofUtf16?`: the string that bytes encode, absent for an odd number of
  bytes and for an unpaired surrogate.
-/

namespace StackCode.Text

/-- The two bytes of a 16-bit unit, low byte first. -/
def unitBytes (unit : Nat) : List UInt8 := [(unit % 256).toUInt8, (unit / 256).toUInt8]

/-- The 16-bit units of a character. -/
def units (c : Char) : List Nat :=
  if c.toNat < 0x10000 then [c.toNat]
  else [0xD800 + (c.toNat - 0x10000) / 0x400, 0xDC00 + (c.toNat - 0x10000) % 0x400]

/-- The little-endian UTF-16 encoding of a string. -/
def utf16 (text : String) : List UInt8 :=
  text.toList.flatMap fun c => (units c).flatMap unitBytes

/-- The 16-bit units of a sequence of bytes, absent when a byte is left over. -/
def pairUnits? : List UInt8 → Option (List Nat)
  | [] => some []
  | [_] => none
  | low :: high :: rest =>
    (pairUnits? rest).map ((low.toNat + 256 * high.toNat) :: ·)

/-- Whether a unit is the first of a surrogate pair. -/
def isHighSurrogate (unit : Nat) : Bool := decide (0xD800 ≤ unit) && decide (unit < 0xDC00)

/-- Whether a unit is the second of a surrogate pair. -/
def isLowSurrogate (unit : Nat) : Bool := decide (0xDC00 ≤ unit) && decide (unit < 0xE000)

/-- The characters of a sequence of units, absent when a surrogate is unpaired. -/
def ofUnits? : List Nat → Option (List Char)
  | [] => some []
  | [unit] =>
    if isHighSurrogate unit || isLowSurrogate unit then none else some [Char.ofNat unit]
  | unit :: next :: rest =>
    if isHighSurrogate unit then
      if isLowSurrogate next then
        (ofUnits? rest).map
          (Char.ofNat (0x10000 + (unit - 0xD800) * 0x400 + (next - 0xDC00)) :: ·)
      else none
    else if isLowSurrogate unit then none
    else (ofUnits? (next :: rest)).map (Char.ofNat unit :: ·)

/-- The string that bytes encode. -/
def ofUtf16? (bytes : List UInt8) : Option String :=
  ((pairUnits? bytes).bind ofUnits?).map String.ofList

end StackCode.Text
