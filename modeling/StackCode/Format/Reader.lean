import StackCode.Format.Error
import StackCode.LittleEndian

/-!
# Reading bytes

A reader takes bytes from the front of its input and counts how many it has taken;
a fault names the position at which bytes were missing.

Main definitions:

- `Reader`: a computation that consumes input.
- `Reader.take`, `byte`, `word16`, `word32`, `word64`: fixed numbers of bytes.
- `Reader.tag`: a byte that must be a known tag.
- `Reader.many`: a counted sequence.
- `Reader.within`: a reader confined to a section, which it must use up.
-/

namespace StackCode.Format

/-- The bytes still to be read, and the number of bytes read before them. -/
structure Input where
  bytes : List UInt8
  position : Nat
deriving DecidableEq, Repr

/-- A computation that consumes input or finds a fault in it. -/
abbrev Reader (α : Type) := StateT Input (Except DecodeError) α

namespace Reader

/-- Fails with a fault. -/
def fail {α : Type} (fault : DecodeError) : Reader α := fun _ => .error fault

/-- Exactly `count` bytes. -/
def take (count : Nat) : Reader (List UInt8) := fun input =>
  let front := input.bytes.take count
  if front.length = count then
    .ok (front, ⟨input.bytes.drop count, input.position + count⟩)
  else .error (.unexpectedEnd input.position)

/-- Bytes that stand in front are taken, and what follows them is left. -/
theorem take_append {front : List UInt8} {count : Nat} (h : front.length = count)
    (rest : List UInt8) (position : Nat) :
    take count ⟨front ++ rest, position⟩ = .ok (front, ⟨rest, position + count⟩) := by
  subst h
  simp [take]

/-- One byte. -/
def byte : Reader UInt8 := fun input =>
  match input.bytes with
  | [] => .error (.unexpectedEnd input.position)
  | first :: rest => .ok (first, ⟨rest, input.position + 1⟩)

/-- A number in `length` bytes. -/
def number (length : Nat) : Reader Nat := do
  return LittleEndian.decode (← take length)

/-- A number in two bytes. -/
def word16 : Reader UInt16 := do return (← number 2).toUInt16

/-- A number in four bytes. -/
def word32 : Reader UInt32 := do return (← number 4).toUInt32

/-- A number in eight bytes. -/
def word64 : Reader UInt64 := do return (← number 8).toUInt64

/-- A number in front is read up to the bytes that were dropped when it was written. -/
theorem number_append (length n : Nat) (rest : List UInt8) (position : Nat) :
    number length ⟨LittleEndian.encode length n ++ rest, position⟩ =
      .ok (n % Nat.pow 256 length, ⟨rest, position + length⟩) := by
  have taken := take_append (LittleEndian.length_encode length n) rest position
  change Except.bind (take length _) (fun result =>
    .ok (LittleEndian.decode result.1, result.2)) = _
  rw [taken, ← LittleEndian.decode_encode]
  rfl

/-- What a one-byte tag stands for. -/
def tag {α : Type} (kind : TagKind) (ofTag? : UInt8 → Option α) : Reader α := do
  let found ← byte
  match ofTag? found with
  | some meaning => return meaning
  | none => fail (.unknownTag kind found)

/-- A sequence of `count` items after those already read, given in reverse. -/
def manyAfter {α : Type} (item : Reader α) (reversed : List α) : Nat → Reader (List α)
  | 0 => return reversed.reverse
  | count + 1 => do
    let first ← item
    manyAfter item (first :: reversed) count

/-- A sequence of `count` items. -/
def many {α : Type} (item : Reader α) (count : Nat) : Reader (List α) := manyAfter item [] count

/-- Succeeds when all input is used up. -/
def finish (after : String) : Reader Unit := fun input =>
  if input.bytes.isEmpty then .ok ((), input)
  else .error (.trailing input.bytes.length after)

/-- The contents of the next section, which must be of the given kind. -/
def sectionBytes (kind : Section) : Reader (List UInt8) := do
  let found ← byte
  if found = kind.tag then
    take (← word32).toNat
  else fail (.wrongSection kind found)

/-- Reads the next section with a reader that must use it up.  Positions count
from the start of the section. -/
def within {α : Type} (kind : Section) (reader : Reader α) : Reader α := do
  let bytes ← sectionBytes kind
  match (do let result ← reader; finish kind.contents; return result : Reader α) ⟨bytes, 0⟩ with
  | .ok (result, _) => return result
  | .error fault => fail fault

end Reader

end StackCode.Format
