/-!
# UTF-8

Strings as byte sequences.  Strict decoding accepts exactly the encodings of
strings; lenient decoding replaces each maximal ill-formed part by the
replacement character U+FFFD.

Main definitions:

- `Text.utf8`, `Text.ofUtf8?`: encoding and strict decoding.
- `Text.ofUtf8Lenient`: lenient decoding.
-/

namespace StackCode.Text

/-- The UTF-8 encoding of a string. -/
def utf8 (text : String) : List UInt8 := text.toUTF8.data.toList

/-- The string whose UTF-8 encoding is given, if there is one. -/
def ofUtf8? (bytes : List UInt8) : Option String := String.fromUTF8? ⟨bytes.toArray⟩

/-! ## Lenient decoding -/

/-- The replacement character. -/
def replacement : Char := '\uFFFD'

/-- Whether a byte lies between two bounds, ends included. -/
def byteIn (low high byte : UInt8) : Bool := decide (low ≤ byte) && decide (byte ≤ high)

/-- Whether a byte continues a character. -/
def isContinuation (byte : UInt8) : Bool := byteIn 0x80 0xBF byte

/-- Number of bytes of a character with the given first byte, and the bounds of
its second byte; absent when no character starts so. -/
def leadByte? (byte : UInt8) : Option (Nat × UInt8 × UInt8) :=
  if byteIn 0xC2 0xDF byte then some (2, 0x80, 0xBF)
  else if byte == 0xE0 then some (3, 0xA0, 0xBF)
  else if byte == 0xED then some (3, 0x80, 0x9F)
  else if byteIn 0xE1 0xEF byte then some (3, 0x80, 0xBF)
  else if byte == 0xF0 then some (4, 0x90, 0xBF)
  else if byte == 0xF4 then some (4, 0x80, 0x8F)
  else if byteIn 0xF1 0xF3 byte then some (4, 0x80, 0xBF)
  else none

/-- Number of the bytes after a first byte that a well-formed character, or a
maximal start of one, takes. -/
def partLength (length : Nat) (low high : UInt8) (rest : List UInt8) : Nat :=
  match rest with
  | [] => 0
  | second :: tail =>
    if byteIn low high second then
      1 + ((tail.take (length - 2)).takeWhile isContinuation).length
    else 0

/-- The payload bits of the bytes of a character. -/
def codePoint (lead : UInt8) (length : Nat) (rest : List UInt8) : Nat :=
  rest.foldl (fun code byte => code * 64 + (byte.toNat % 64))
    (lead.toNat % (1 <<< (7 - length)))

/-- What is left after a lead byte and some bytes more is shorter. -/
theorem length_drop_lt_cons (taken : Nat) (byte : UInt8) (rest : List UInt8) :
    (rest.drop taken).length < (byte :: rest).length := by
  rw [List.length_drop, List.length_cons]
  omega

/-- Appends the lenient decoding of bytes to a string. -/
def appendLenient (decoded : String) : List UInt8 → String
  | [] => decoded
  | byte :: rest =>
    if byte < 0x80 then appendLenient (decoded.push (Char.ofNat byte.toNat)) rest
    else
      match leadByte? byte with
      | none => appendLenient (decoded.push replacement) rest
      | some (length, low, high) =>
        let taken := partLength length low high rest
        let char :=
          if taken + 1 = length then Char.ofNat (codePoint byte length (rest.take taken))
          else replacement
        appendLenient (decoded.push char) (rest.drop taken)
termination_by bytes => bytes.length
decreasing_by
  · exact Nat.lt_succ_self _
  · exact Nat.lt_succ_self _
  · exact length_drop_lt_cons _ _ _

/-- The string that bytes stand for, each maximal ill-formed part replaced. -/
def ofUtf8Lenient (bytes : List UInt8) : String := appendLenient "" bytes

end StackCode.Text
