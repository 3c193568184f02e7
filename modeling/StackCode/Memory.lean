import StackCode.Memory.Arena

/-!
# Memory

The address space of the machine: the arena, resources that are copied in when they
are first asked for, and function values.  An access is checked against these
regions; resources are read-only and functions cannot be read.

Main definitions:

- `Memory.resolve`: the region that an access lies in.
- `Memory.readBytes`, `read`, `readCString`: reading.
- `Memory.writeBytes`, `write`: writing.
- `Memory.placeResource`: the address of a resource.
- `arenaAddress`, `functionAddress`, `functionId?`.
-/

namespace StackCode

/-- The arena and the resources that were placed in memory. -/
structure Memory where
  arena : Arena
  resources : ByteArray
  placed : List (ResourceIndex × Nat)

/-! ## Addresses -/

/-- The address of an offset of the arena. -/
def arenaAddress (offset : Nat) : UInt64 := (arenaBase + offset).toUInt64

/-- The function value of a definition. -/
def functionAddress (id : DefinitionId) : UInt64 := (functionBase + id.toNat).toUInt64

/-- The definition that a function value refers to. -/
def functionId? (address : UInt64) : Option DefinitionId :=
  if address.toNat < functionBase then none
  else if address.toNat - functionBase < 0x100000000 then
    some (address.toNat - functionBase).toUInt32
  else none

/-- A place in memory that can be read. -/
inductive Region where
  | arena (offset : Nat)
  | resource (offset : Nat)
deriving DecidableEq, Repr

namespace Memory

/-- Memory with an empty arena and no resources. -/
def new (size : Nat) : Memory := ⟨.new size, .empty, []⟩

/-- The region in which `length` bytes at an address lie. -/
def resolve (memory : Memory) (address : UInt64) (length : Nat) : Except Fault Region :=
  let place := address.toNat
  if arenaBase ≤ place ∧ place < arenaBase + memory.arena.capacity then
    if place - arenaBase + length ≤ memory.arena.sp then .ok (.arena (place - arenaBase))
    else .error (.invalidAddress address)
  else if resourceBase ≤ place ∧ place < resourceBase + memory.resources.size then
    if place - resourceBase + length ≤ memory.resources.size then
      .ok (.resource (place - resourceBase))
    else .error (.invalidAddress address)
  else .error (.invalidAddress address)

/-! ## Reading -/

/-- The byte of the resources at an offset. -/
def resourceByte (memory : Memory) (offset : Nat) : UInt8 := memory.resources[offset]?.getD 0

theorem resourceByte_eq (memory : Memory) (offset : Nat) :
    memory.resourceByte offset = memory.resources.data.getD offset 0 := by
  have hbyte : memory.resources[offset]? = memory.resources.data[offset]? := by
    by_cases hinside : offset < memory.resources.size
    · rw [getElem?_pos memory.resources offset hinside, ByteArray.getElem_eq_getElem_data]
      exact (Array.getElem?_eq_getElem hinside).symm
    · rw [getElem?_neg memory.resources offset hinside]
      exact (Array.getElem?_eq_none (Nat.le_of_not_lt hinside)).symm
  rw [resourceByte, hbyte, Array.getD_eq_getD_getElem?]

/-- The bytes of the resources from an offset on. -/
def resourceSlice (memory : Memory) (offset length : Nat) : List UInt8 :=
  (List.range length).map fun i => memory.resourceByte (offset + i)

/-- The bytes at an address. -/
def readBytes (memory : Memory) (address : UInt64) (length : Nat) :
    Except Fault (List UInt8) := do
  match ← memory.resolve address length with
  | .arena offset => return memory.arena.slice offset length
  | .resource offset => return memory.resourceSlice offset length

/-- The value of a type at an address. -/
def read (memory : Memory) (address : UInt64) (type : DataType) : Except Fault Value := do
  return .ofBytes type (← memory.readBytes address type.size)

/-- The bytes before the first zero among the next `length` bytes, absent when
there is no zero. -/
def untilZero (byteAt : Nat → UInt8) (offset : Nat) : Nat → Option (List UInt8)
  | 0 => none
  | length + 1 =>
    if byteAt offset = 0 then some []
    else (untilZero byteAt (offset + 1) length).map (byteAt offset :: ·)

/-- The bytes from an address up to the first zero. -/
def readCString (memory : Memory) (address : UInt64) : Except Fault (List UInt8) := do
  let text? :=
    match ← memory.resolve address 0 with
    | .arena offset =>
      untilZero memory.arena.byteAt offset (memory.arena.sp - offset)
    | .resource offset =>
      untilZero memory.resourceByte offset (memory.resources.size - offset)
  match text? with
  | some text => return text
  | none => .error (.invalidAddress address)

/-! ## Writing -/

/-- Overwrites the bytes at an address, which must lie in the arena. -/
def writeBytes (address : UInt64) (bytes : List UInt8) : EStateM Fault Memory Unit :=
  fun memory =>
    match memory.resolve address bytes.length with
    | .error fault => .error fault memory
    | .ok (.resource _) => .error (.invalidAddress address) memory
    | .ok (.arena offset) =>
      match memory with
      | ⟨⟨capacity, stored, sp, tags⟩, resources, placed⟩ =>
        .ok () ⟨⟨capacity, Arena.setBytes stored offset bytes, sp, tags⟩, resources, placed⟩

/-- Overwrites the value at an address, which must lie in the arena. -/
def write (address : UInt64) (value : Value) : EStateM Fault Memory Unit :=
  writeBytes address value.bytes

/-! ## Resources -/

/-- Resources with one more after them, which ends with its terminator. -/
def appended (resources : ByteArray) (resource : Resource) : ByteArray :=
  resources ++ resource.bytes.toByteArray ++
    (List.replicate resource.kind.terminatorLength 0).toByteArray

/-- A resource is appended as it stands in memory. -/
theorem appended_eq (resources : ByteArray) (resource : Resource) :
    appended resources resource = resources ++ resource.terminated.toByteArray := by
  rw [appended, Resource.terminated, List.toByteArray_append, ByteArray.append_assoc]

@[simp]
theorem size_appended (resources : ByteArray) (resource : Resource) :
    (appended resources resource).size = resources.size + resource.terminated.length := by
  rw [appended_eq, ByteArray.size_append, List.size_toByteArray]

@[simp]
theorem data_appended (resources : ByteArray) (resource : Resource) :
    (appended resources resource).data = resources.data ++ resource.terminated.toArray := by
  rw [appended_eq, ByteArray.data_append, List.data_toByteArray]

/-- The address of a resource, which is copied into memory with its terminator when
it is first asked for. -/
def placeResource (memory : Memory) (index : ResourceIndex) (resource : Resource) :
    UInt64 × Memory :=
  match memory.placed.lookup index with
  | some offset => ((resourceBase + offset).toUInt64, memory)
  | none =>
    let offset := memory.resources.size
    ((resourceBase + offset).toUInt64,
      { memory with
        resources := appended memory.resources resource
        placed := (index, offset) :: memory.placed })

/-- An operation on the arena as an operation on memory. -/
def onArena {α : Type} (operation : EStateM Fault Arena α) : EStateM Fault Memory α :=
  fun memory =>
    match memory with
    | ⟨arena, resources, placed⟩ =>
      match operation arena with
      | .ok result arena => .ok result ⟨arena, resources, placed⟩
      | .error fault arena => .error fault ⟨arena, resources, placed⟩

end Memory

end StackCode
