import StackCode.Trap

/-!
# The value arena

Values lie packed in an arena of bytes.  Beside the bytes stands a list of tags,
the offset and the type of every value, so a pop can check what it removes and
never reaches below a given floor.  The arena has a fixed capacity; bytes that were
never written are zero.

Main definitions:

- `Arena.push`, `pop`: the values on top.
- `Arena.checkTop`: whether the topmost values have given types.
- `Arena.read`, `write`: live bytes at an offset.
- `Arena.truncate`, `clear`: removal without reading.

The operations that change the arena are state transformers: a fault comes with
the arena as it was.
-/

namespace StackCode

/-- Where the arena starts in the address space. -/
def arenaBase : Nat := 0x10000000

/-- Where resources start in the address space. -/
def resourceBase : Nat := 0x40000000

/-- Where function values start in the address space. -/
def functionBase : Nat := 0x70000000

/-- The largest arena that fits below the resources. -/
def maxArenaSize : Nat := resourceBase - arenaBase

/-- The byte store of the machine.  `bytes` holds the part that was ever written;
`tags` holds the offset and the type of each value, the topmost first. -/
structure Arena where
  capacity : Nat
  bytes : Array UInt8
  sp : Nat
  tags : List (Nat × DataType)
deriving DecidableEq, Repr

namespace Arena

/-- An empty arena. -/
def new (size : Nat) : Arena :=
  ⟨if size ≤ maxArenaSize then size else maxArenaSize, #[], 0, []⟩

/-! ## Bytes -/

/-- The byte at an offset. -/
def byteAt (arena : Arena) (offset : Nat) : UInt8 := arena.bytes.getD offset 0

/-- The bytes from an offset on. -/
def slice (arena : Arena) (offset length : Nat) : List UInt8 :=
  (List.range length).map fun i => arena.byteAt (offset + i)

/-- Sets one byte of an array that is taken to go on with zeros. -/
def setByte (bytes : Array UInt8) (offset : Nat) (byte : UInt8) : Array UInt8 :=
  if offset < bytes.size then bytes.setIfInBounds offset byte
  else (bytes ++ Array.replicate (offset - bytes.size) 0).push byte

/-- Sets the bytes from an offset on. -/
def setBytes (bytes : Array UInt8) (offset : Nat) : List UInt8 → Array UInt8
  | [] => bytes
  | byte :: rest => setBytes (setByte bytes offset byte) (offset + 1) rest

/-- The value of a type whose bytes start at an offset. -/
def valueAt (arena : Arena) (type : DataType) (offset : Nat) : Value :=
  .ofBytes type (arena.slice offset type.size)

/-! ## The top of the arena -/

/-- Pushes a value and returns its offset. -/
def push (value : Value) : EStateM Fault Arena Nat := fun arena =>
  match arena with
  | ⟨capacity, bytes, sp, tags⟩ =>
    if value.type = .void then
      .error (.unsupportedType .push .void) ⟨capacity, bytes, sp, tags⟩
    else if capacity < sp + value.size then
      .error .stackOverflow ⟨capacity, bytes, sp, tags⟩
    else
      .ok sp ⟨capacity, setBytes bytes sp value.bytes, sp + value.size,
        (sp, value.type) :: tags⟩

/-- Pops the topmost value, which must have the expected type and lie at or above
the floor. -/
def pop (expected : DataType) (floor : Nat) : EStateM Fault Arena Value := fun arena =>
  match arena.tags with
  | [] => .error .stackUnderflow arena
  | (offset, found) :: tags =>
    if offset < floor then .error .stackUnderflow arena
    else if found ≠ expected then .error (.typeMismatch expected found) arena
    else .ok (arena.valueAt found offset) { arena with sp := offset, tags }

/-- Whether tags, the lowest first, lie above the floor and have the given types. -/
def checkTags (floor : Nat) : List (Nat × DataType) → List DataType → Except Fault Unit
  | (offset, found) :: tags, expected :: types =>
    if offset < floor then .error .stackUnderflow
    else if found ≠ expected then .error (.typeMismatch expected found)
    else checkTags floor tags types
  | _, _ => .ok ()

/-- Whether the topmost values, all at or above the floor, have the given types,
the last type on top. -/
def checkTop (arena : Arena) (types : List DataType) (floor : Nat) : Except Fault Unit :=
  let top := arena.tags.take types.length
  if top.length < types.length then .error .stackUnderflow
  else checkTags floor top.reverse types

/-- Drops every value at or above an offset. -/
def truncate (arena : Arena) (offset : Nat) : Arena :=
  { arena with
    sp := if offset ≤ arena.sp then offset else arena.sp
    tags := arena.tags.dropWhile fun tag => decide (offset ≤ tag.1) }

/-- Truncation never raises the top. -/
theorem sp_truncate_le (arena : Arena) (offset : Nat) : (arena.truncate offset).sp ≤ arena.sp := by
  unfold truncate
  split
  · assumption
  · exact Nat.le_refl _

/-- Drops every value. -/
def clear (arena : Arena) : Arena := { arena with sp := 0, tags := [] }

/-! ## Live bytes -/

/-- The fault of an access at an offset that is not live. -/
def deadOffset (offset : Nat) : Fault := .invalidAddress (arenaBase + offset).toUInt64

/-- The live value of a type at an offset. -/
def read (arena : Arena) (offset : Nat) (type : DataType) : Except Fault Value :=
  if offset + type.size ≤ arena.sp then .ok (arena.valueAt type offset)
  else .error (deadOffset offset)

/-- Overwrites live bytes at an offset.  Tags stay as they are. -/
def write (offset : Nat) (value : Value) : EStateM Fault Arena Unit := fun arena =>
  match arena with
  | ⟨capacity, bytes, sp, tags⟩ =>
    if offset + value.size ≤ sp then
      .ok () ⟨capacity, setBytes bytes offset value.bytes, sp, tags⟩
    else .error (deadOffset offset) ⟨capacity, bytes, sp, tags⟩

end Arena

end StackCode
