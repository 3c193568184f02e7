import StackCode.Format.Error
import StackCode.LittleEndian

/-!
# The data pool

Names, libraries and resources of a binary module are stored once each in a pool
and referred to by index.  A pool keeps its strings in one blob and records where each
of them lies; a lookup by contents finds the index that a string already has.  The pool
is written as the table of these records followed by the blob.

Main definitions:

- `Pool`: the table, the blob and the lookup.
- `Pool.intern`: the index of a byte string, which is recorded if it is new.
- `Pool.encode`: the contents of the data section.
-/

namespace StackCode.Format

/-- A count as four bytes, or a fault when it does not fit. -/
def encodeCount (count : Nat) : Except EncodeError (List UInt8) :=
  if count < 0x100000000 then .ok (LittleEndian.encode 4 count)
  else .error .collectionTooLarge

/-- Byte strings in one blob, the offset and the length of each, and the index that is found
for its contents. -/
structure Pool where
  entries : Array (UInt32 × UInt32)
  blob : Array UInt8
  lookup : List (List UInt8 × UInt32)
deriving DecidableEq, Repr

namespace Pool

/-- The pool without strings. -/
def empty : Pool := ⟨#[], #[], []⟩

/-- The pool with a byte string at the end of its blob. -/
def record (pool : Pool) (bytes : List UInt8) : Pool where
  entries := pool.entries.push (pool.blob.size.toUInt32, bytes.length.toUInt32)
  blob := pool.blob ++ bytes
  lookup := (bytes, pool.entries.size.toUInt32) :: pool.lookup

/-- The index of a byte string, which is recorded if it is new. -/
def intern (pool : Pool) (bytes : List UInt8) : Except EncodeError (UInt32 × Pool) :=
  match pool.lookup.lookup bytes with
  | some index => .ok (index, pool)
  | none =>
    if 0x100000000 ≤ pool.blob.size then .error .poolTooLarge
    else if 0x100000000 ≤ bytes.length then .error .entryTooLarge
    else .ok (pool.entries.size.toUInt32, pool.record bytes)

/-- An offset and a length of the table. -/
def encodeEntry (entry : UInt32 × UInt32) : List UInt8 :=
  LittleEndian.encode 4 entry.1.toNat ++ LittleEndian.encode 4 entry.2.toNat

/-- The contents of the data section. -/
def encode (pool : Pool) : Except EncodeError (List UInt8) := do
  let count ← encodeCount pool.entries.size
  let size ← encodeCount pool.blob.size
  return count ++ (pool.entries.toList.flatMap encodeEntry ++ (size ++ pool.blob.toList))

end Pool

end StackCode.Format
