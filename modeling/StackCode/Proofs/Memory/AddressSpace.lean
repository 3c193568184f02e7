import StackCode.Proofs.Memory.Regions
import StackCode.Proofs.Memory.ValueList

/-!
# The address space over time

An arena never grows, and its size is limited so that it ends where the resources begin.
Resources have no such limit: they grow with each one that is asked for the first time,
and once they take more bytes than lie between their base and the base of the function
values, the lowest function values are addresses of resource bytes.

Main definitions:

- `Memory.Operation`, `Memory.after`: uses of a memory, and what a sequence of them leaves.
- `Memory.demand`: the bytes of the resources that are asked for in a sequence, each
  counted when it is first asked for.
- `Memory.Unreadable`: nothing can be read at an address.

Main results:

- Theorem `Memory.size_resources_after`: the resources take the bytes that were demanded.
- Theorem `Memory.unreadable_functionAddress_iff`: when a function value cannot be read.
- Theorem `Memory.regions_after`: the regions after any sequence of uses.
- Theorem `Memory.read_functionAddress_overgrown`: a function value that is read as data.
-/

namespace StackCode.Memory

/-! ## Uses of a memory -/

/-- A use of a memory. -/
inductive Operation where
  | onArena (operation : Arena.Operation)
  | write (address : UInt64) (bytes : List UInt8)
  | place (index : ResourceIndex) (resource : Resource)

/-- The memory after a write, whether it failed or not. -/
def written (memory : Memory) (address : UInt64) (bytes : List UInt8) : Memory :=
  match writeBytes address bytes memory with
  | .ok _ next => next
  | .error _ next => next

/-- The memory after an operation. -/
def Operation.next (memory : Memory) : Operation → Memory
  | .onArena operation => { memory with arena := operation.next memory.arena }
  | .write address bytes => memory.written address bytes
  | .place index resource => (memory.placeResource index resource).2

/-- The memory after a sequence of operations. -/
def after (memory : Memory) (operations : List Operation) : Memory :=
  operations.foldl Operation.next memory

/-- Bytes of the resources that are first asked for in a sequence of operations, except
for those that are placed already. -/
def demand (placed : List ResourceIndex) : List Operation → Nat
  | [] => 0
  | .onArena _ :: rest => demand placed rest
  | .write _ _ :: rest => demand placed rest
  | .place index resource :: rest =>
    if index ∈ placed then demand placed rest
    else resource.terminated.length + demand (index :: placed) rest

/-! ## What operations keep -/

/-- The memory after a resource that it did not hold yet was placed. -/
def extended (memory : Memory) (index : ResourceIndex) (resource : Resource) : Memory :=
  { memory with
    resources := appended memory.resources resource
    placed := (index, memory.resources.size) :: memory.placed }

section Operations

variable (memory : Memory)

/-- A write changes bytes of the arena at most. -/
theorem written_cases (address : UInt64) (bytes : List UInt8) :
    memory.written address bytes = memory ∨
      ∃ offset, memory.written address bytes =
        { memory with arena := memory.arena.overwritten offset bytes } := by
  unfold written writeBytes
  cases memory.resolve address bytes.length with
  | error fault => exact .inl rfl
  | ok region =>
    cases region with
    | arena offset => exact .inr ⟨offset, rfl⟩
    | resource offset => exact .inl rfl

/-- A resource is placed when it is first asked for. -/
theorem snd_placeResource (index : ResourceIndex) (resource : Resource) :
    (memory.placeResource index resource).2 =
      if index ∈ memory.placed.map Prod.fst then memory else memory.extended index resource := by
  unfold placeResource
  cases hlookup : memory.placed.lookup index with
  | some offset =>
    obtain ⟨entry, hentry, hindex⟩ := List.lookup_isSome_iff.mp (Option.isSome_of_eq_some hlookup)
    have hplaced : index ∈ memory.placed.map Prod.fst :=
      List.mem_map.mpr ⟨entry, hentry, (eq_of_beq hindex).symm⟩
    rw [if_pos hplaced]
  | none =>
    have hnew : index ∉ memory.placed.map Prod.fst := by
      intro hplaced
      obtain ⟨entry, hentry, rfl⟩ := List.mem_map.mp hplaced
      simpa using List.lookup_eq_none_iff.mp hlookup entry hentry
    rw [if_neg hnew]
    rfl

/-- The number of bytes that the arena can take does not change. -/
theorem capacity_next (operation : Operation) :
    (operation.next memory).arena.capacity = memory.arena.capacity := by
  cases operation with
  | onArena operation => exact operation.capacity_next memory.arena
  | write address bytes =>
    rcases memory.written_cases address bytes with hsame | ⟨offset, hwritten⟩
    · rw [Operation.next, hsame]
    · rw [Operation.next, hwritten]
      rfl
  | place index resource =>
    rw [Operation.next, snd_placeResource]
    split <;> rfl

/-- The arena ends where the resources begin, or below. -/
theorem capacity_after_le (size : Nat) (operations : List Operation) :
    ((Memory.new size).after operations).arena.capacity ≤ maxArenaSize := by
  suffices hkept : ∀ memory : Memory,
      (memory.after operations).arena.capacity = memory.arena.capacity by
    rw [hkept]
    exact Nat.min_le_right size maxArenaSize
  induction operations with
  | nil => exact fun _ => rfl
  | cons operation rest ih =>
    intro memory
    rw [after, List.foldl_cons, ← after, ih, capacity_next]

/-- Writing leaves the resources as they are. -/
theorem written_resources (address : UInt64) (bytes : List UInt8) :
    (memory.written address bytes).resources = memory.resources ∧
      (memory.written address bytes).placed = memory.placed := by
  rcases memory.written_cases address bytes with hsame | ⟨offset, hwritten⟩
  · rw [hsame]
    exact ⟨rfl, rfl⟩
  · rw [hwritten]
    exact ⟨rfl, rfl⟩

/-- The resources grow by the bytes that are demanded. -/
theorem size_resources_after (operations : List Operation) :
    (memory.after operations).resources.size =
      memory.resources.size + demand (memory.placed.map Prod.fst) operations := by
  induction operations generalizing memory with
  | nil => rfl
  | cons operation rest ih =>
    rw [after, List.foldl_cons, ← after, ih]
    cases operation with
    | onArena operation => rfl
    | write address bytes =>
      obtain ⟨hresources, hplaced⟩ := memory.written_resources address bytes
      rw [Operation.next, hresources, hplaced, demand]
    | place index resource =>
      rw [Operation.next, snd_placeResource, demand]
      split
      · rfl
      · simp only [extended, size_appended, List.map_cons]
        omega

end Operations

/-! ## Addresses of the three kinds -/

/-- Bytes between the base of the resources and that of the function values. -/
def resourceRoom : Nat := functionBase - resourceBase

/-- The address belongs to the arena. -/
def InArena (memory : Memory) (address : UInt64) : Prop :=
  arenaBase ≤ address.toNat ∧ address.toNat < arenaBase + memory.arena.capacity

/-- The address belongs to the resources. -/
def InResources (memory : Memory) (address : UInt64) : Prop :=
  resourceBase ≤ address.toNat ∧ address.toNat < resourceBase + memory.resources.size

/-- Neither a value nor a string can be read at an address. -/
def Unreadable (memory : Memory) (address : UInt64) : Prop :=
  (∀ type, type ≠ .void → memory.read address type = .error (.invalidAddress address)) ∧
    memory.readCString address = .error (.invalidAddress address)

theorem toNat_functionAddress (id : DefinitionId) :
    (functionAddress id).toNat = functionBase + id.toNat := by
  have hid : id.toNat < 2 ^ 32 := id.toNat_lt
  rw [functionAddress, Nat.toUInt64, UInt64.toNat_ofNat']
  unfold functionBase
  omega

section Regions

variable {memory : Memory} (hcapacity : memory.arena.capacity ≤ maxArenaSize)
include hcapacity

/-- An arena that is not too large lies below the resources. -/
theorem not_inResources_of_inArena {address : UInt64} (harena : memory.InArena address) :
    ¬ memory.InResources address := by
  unfold InArena at harena
  unfold InResources
  unfold maxArenaSize resourceBase at *
  omega

/-- A function value leads to resource bytes when there are enough of them, and nowhere
otherwise. -/
theorem resolve_functionAddress (id : DefinitionId) (length : Nat) :
    memory.resolve (functionAddress id) length =
      if resourceRoom + id.toNat < memory.resources.size ∧
          resourceRoom + id.toNat + length ≤ memory.resources.size then
        .ok (.resource (resourceRoom + id.toNat))
      else .error (.invalidAddress (functionAddress id)) := by
  have hplace := toNat_functionAddress id
  have hroom : functionBase = resourceBase + resourceRoom := rfl
  have hend : resourceBase = arenaBase + maxArenaSize := rfl
  have hoffset : functionBase + id.toNat - resourceBase = resourceRoom + id.toNat := by omega
  simp only [resolve, hplace, hoffset]
  rw [if_neg (by omega)]
  by_cases hinside : resourceRoom + id.toNat < memory.resources.size ∧
      resourceRoom + id.toNat + length ≤ memory.resources.size
  · rw [if_pos hinside, if_pos (by omega), if_pos hinside.2]
  · rw [if_neg hinside]
    split
    · rw [if_neg (by omega)]
    · rfl

/-- A function value can never be written to. -/
theorem writeBytes_functionAddress (id : DefinitionId) (bytes : List UInt8) :
    writeBytes (functionAddress id) bytes memory =
      .error (.invalidAddress (functionAddress id)) memory := by
  rw [writeBytes, resolve_functionAddress hcapacity]
  by_cases hinside : resourceRoom + id.toNat < memory.resources.size ∧
      resourceRoom + id.toNat + bytes.length ≤ memory.resources.size
  · rw [if_pos hinside]
  · rw [if_neg hinside]

/-- A function value is read as the resource bytes it leads to. -/
theorem read_functionAddress (id : DefinitionId) {type : DataType} (hstorable : type ≠ .void) :
    memory.read (functionAddress id) type =
      if resourceRoom + id.toNat + type.size ≤ memory.resources.size then
        .ok (.ofBytes type (memory.resourceSlice (resourceRoom + id.toNat) type.size))
      else .error (.invalidAddress (functionAddress id)) := by
  have hpos := DataType.size_pos hstorable
  unfold Memory.read readBytes
  rw [resolve_functionAddress hcapacity]
  by_cases hinside : resourceRoom + id.toNat + type.size ≤ memory.resources.size
  · rw [if_pos hinside, if_pos ⟨by omega, hinside⟩]
    rfl
  · rw [if_neg hinside, if_neg (by omega)]
    rfl

/-- A function value cannot be read exactly as long as the resources end at or below it. -/
theorem unreadable_functionAddress_iff (id : DefinitionId) :
    memory.Unreadable (functionAddress id) ↔ memory.resources.size ≤ resourceRoom + id.toNat := by
  constructor
  · intro hunreadable
    by_contra hgrown
    have hread := hunreadable.1 .u8 (by decide)
    have hsize : DataType.u8.size = 1 := rfl
    rw [read_functionAddress hcapacity id (by decide), hsize, if_pos (by omega)] at hread
    cases hread
  · intro hbelow
    refine ⟨fun type hstorable => ?_, ?_⟩
    · have hpos := DataType.size_pos hstorable
      rw [read_functionAddress hcapacity id hstorable, if_neg (by omega)]
    · rw [readCString_eq, resolve_functionAddress hcapacity, if_neg (by omega)]

end Regions

/-! ## The regions after any history -/

/-- After any sequence of uses the arena and the resources have no address in common, and
no function value can be written to.  A function value can be read as data exactly when the
resources that were asked for take more bytes than lie between their base and it. -/
theorem regions_after (size : Nat) (operations : List Operation) :
    let memory := (Memory.new size).after operations
    (∀ address, ¬ (memory.InArena address ∧ memory.InResources address)) ∧
      ∀ id,
        (∀ bytes, writeBytes (functionAddress id) bytes memory =
          .error (.invalidAddress (functionAddress id)) memory) ∧
        (memory.Unreadable (functionAddress id) ↔
          demand [] operations ≤ resourceRoom + id.toNat) := by
  intro memory
  have hcapacity : memory.arena.capacity ≤ maxArenaSize := capacity_after_le size operations
  have hresources : memory.resources.size = demand [] operations := by
    have hgrown := (Memory.new size).size_resources_after operations
    rwa [show (Memory.new size).resources.size = 0 from rfl, Nat.zero_add] at hgrown
  refine ⟨fun address hboth => not_inResources_of_inArena hcapacity hboth.1 hboth.2, fun id => ?_⟩
  refine ⟨writeBytes_functionAddress hcapacity id, ?_⟩
  rw [unreadable_functionAddress_iff hcapacity, hresources]

/-- A resource that reaches beyond the room for resources is read at the lowest function
value. -/
theorem read_functionAddress_placed (size : Nat) (index : ResourceIndex) (kind : ResourceKind)
    {bytes : List UInt8} {byte : UInt8} (hbyte : bytes[resourceRoom]? = some byte) :
    ((Memory.new size).after [.place index ⟨kind, bytes⟩]).read (functionAddress 0) .u8 =
      .ok ⟨.u8, byte.toUInt64⟩ := by
  obtain ⟨hlt, rfl⟩ := List.getElem?_eq_some_iff.mp hbyte
  have hplaced : (Memory.new size).after [.place index ⟨kind, bytes⟩] =
      (Memory.new size).extended index ⟨kind, bytes⟩ :=
    (Memory.new size).snd_placeResource index ⟨kind, bytes⟩
  have hlarge : resourceRoom + DataType.u8.size ≤
      ((Memory.new size).extended index ⟨kind, bytes⟩).resources.size := by
    simp only [extended, size_appended, Resource.terminated, List.length_append, DataType.size]
    omega
  have hslice : ((Memory.new size).extended index ⟨kind, bytes⟩).resourceSlice resourceRoom
      DataType.u8.size = [bytes[resourceRoom]] := by
    simp [resourceSlice, resourceByte_eq, extended, Memory.new, DataType.size,
      Resource.terminated, List.getElem?_append_left, hlt]
  have hcapacity := capacity_after_le size [.place index ⟨kind, bytes⟩]
  rw [hplaced] at hcapacity ⊢
  rw [read_functionAddress hcapacity 0 (by decide), show UInt32.toNat 0 = 0 from rfl,
    Nat.add_zero, if_pos hlarge, hslice]
  simp [Value.ofBytes, LittleEndian.decode, DataType.size]

/-- The lowest function value is read as a byte of a resource that is larger than the room
for resources. -/
theorem read_functionAddress_overgrown :
    ((Memory.new 64).after [.place 0 ⟨.bytes, List.replicate 0x30000001 7⟩]).read
      (functionAddress 0) .u8 = .ok ⟨.u8, 7⟩ :=
  read_functionAddress_placed 64 0 .bytes (List.getElem?_replicate_of_lt (by decide))

end StackCode.Memory
