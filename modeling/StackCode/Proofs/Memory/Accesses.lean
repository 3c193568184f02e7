import StackCode.Proofs.Memory.AddressSpace

/-!
# Accesses by address

An address is a number of 64 bits that a program may make up.  An access to at least one
byte is let through when all of its bytes are live bytes of the arena, or all of them are
bytes of resources; a write only in the first case.  It then reads or changes exactly the
bytes at these addresses, and every other access is blamed on its address and changes
nothing.

Main definitions:

- `Memory.Bounded`: the top lies within the arena, and the arena ends below the resources.
- `Memory.WithinArena`, `Memory.WithinResources`: where the bytes of an access lie.
- `Memory.Overwrites`: what a write changes, and what it leaves.
- `Memory.ExactAccess`: what every access by address does.

Main results:

- Theorem `Memory.bounded_after`: every memory is bounded, whatever it was used for.
- Theorems `Memory.resolve_of_withinArena`, `Memory.resolve_of_withinResources`,
  `Memory.resolve_of_not_within`: where an access to at least one byte leads.
- Theorem `Memory.exactAccess_of_bounded`: accesses to a bounded memory are exact.
-/

namespace StackCode

/-! ## Bounds -/

namespace Arena

/-- The top and the start of each value lie within the arena. -/
structure Confined (arena : Arena) : Prop where
  sp_le : arena.sp ≤ arena.capacity
  tags_le : ∀ tag ∈ arena.tags, tag.1 ≤ arena.capacity

/-- No operation leaves the arena, wherever it truncates or writes. -/
theorem Confined.next {arena : Arena} (hconfined : arena.Confined) (operation : Operation) :
    (operation.next arena).Confined := by
  obtain hsame | heffect := operation.next_cases arena
  · rwa [hsame]
  obtain ⟨hsp, htags⟩ := hconfined
  generalize operation.next arena = next at heffect
  cases heffect with
  | push _ hroom =>
    refine ⟨hroom, fun tag htag => ?_⟩
    rcases List.mem_cons.mp htag with rfl | hlower
    · exact hsp
    · exact htags tag hlower
  | pop heq =>
    rw [heq] at htags
    exact ⟨htags _ List.mem_cons_self, fun tag htag => htags tag (List.mem_cons_of_mem _ htag)⟩
  | checkTop => exact ⟨hsp, htags⟩
  | read => exact ⟨hsp, htags⟩
  | write _ => exact ⟨hsp, htags⟩
  | truncate =>
    exact ⟨(sp_truncate_le arena _).trans hsp,
      fun tag htag => htags tag ((List.dropWhile_sublist _).subset htag)⟩
  | clear => exact ⟨Nat.zero_le _, fun tag htag => absurd htag List.not_mem_nil⟩

end Arena

namespace Memory

/-- The top lies within the arena, and the arena ends where the resources begin, or below. -/
structure Bounded (memory : Memory) : Prop where
  sp_le : memory.arena.sp ≤ memory.arena.capacity
  capacity_le : memory.arena.capacity ≤ maxArenaSize

/-- No use of a memory leads out of its arena. -/
theorem confined_next {memory : Memory} (hconfined : memory.arena.Confined)
    (operation : Operation) : (operation.next memory).arena.Confined := by
  cases operation with
  | onArena operation => exact hconfined.next operation
  | write address bytes =>
    rcases memory.written_cases address bytes with hsame | ⟨offset, hwritten⟩
    · rwa [Operation.next, hsame]
    · rw [Operation.next, hwritten]
      exact ⟨hconfined.sp_le, hconfined.tags_le⟩
  | place index resource =>
    rw [Operation.next, snd_placeResource]
    split
    · exact hconfined
    · exact hconfined

/-- A memory is bounded, whatever it was used for. -/
theorem bounded_after (size : Nat) (operations : List Operation) :
    ((Memory.new size).after operations).Bounded := by
  suffices hkept : ∀ memory : Memory, memory.arena.Confined →
      (memory.after operations).arena.Confined from
    ⟨(hkept (Memory.new size) ⟨Nat.zero_le _, by simp [Memory.new, Arena.new]⟩).sp_le,
      capacity_after_le size operations⟩
  induction operations with
  | nil => exact fun _ hconfined => hconfined
  | cons operation rest ih =>
    intro memory hconfined
    rw [after, List.foldl_cons, ← after]
    exact ih _ (confined_next hconfined operation)

/-! ## Where an access leads -/

/-- The bytes at `length` addresses are live bytes of the arena. -/
def WithinArena (memory : Memory) (address : UInt64) (length : Nat) : Prop :=
  arenaBase ≤ address.toNat ∧ address.toNat + length ≤ arenaBase + memory.arena.sp

/-- The bytes at `length` addresses are bytes of resources. -/
def WithinResources (memory : Memory) (address : UInt64) (length : Nat) : Prop :=
  resourceBase ≤ address.toNat ∧
    address.toNat + length ≤ resourceBase + memory.resources.size

section Resolve

variable {memory : Memory} {address : UInt64} {length offset : Nat}

/-- An access that is let through to the arena is one to live bytes. -/
theorem withinArena_of_resolve (hregion : memory.resolve address length = .ok (.arena offset)) :
    memory.WithinArena address length ∧ offset = address.toNat - arenaBase := by
  unfold resolve at hregion
  unfold WithinArena
  generalize arenaBase = arenaStart, resourceBase = resourceStart at hregion ⊢
  grind

/-- An access that is let through to the resources is one to their bytes. -/
theorem withinResources_of_resolve
    (hregion : memory.resolve address length = .ok (.resource offset)) :
    memory.WithinResources address length ∧ offset = address.toNat - resourceBase := by
  unfold resolve at hregion
  unfold WithinResources
  generalize arenaBase = arenaStart, resourceBase = resourceStart at hregion ⊢
  grind

/-- An access that is let through to the arena starts below its end. -/
theorem lt_of_resolve_arena (hregion : memory.resolve address length = .ok (.arena offset)) :
    address.toNat < arenaBase + memory.arena.capacity := by
  unfold resolve at hregion
  generalize arenaBase = arenaStart, resourceBase = resourceStart at hregion ⊢
  grind

/-- An access to live bytes of the arena leads there. -/
theorem resolve_of_withinArena (hbounded : memory.Bounded) (hlength : 0 < length)
    (harena : memory.WithinArena address length) :
    memory.resolve address length = .ok (.arena (address.toNat - arenaBase)) := by
  obtain ⟨hbase, hlive⟩ := harena
  have hsp := hbounded.sp_le
  unfold resolve
  rw [if_pos ⟨hbase, by omega⟩, if_pos (by omega)]

/-- An access to bytes of resources leads there. -/
theorem resolve_of_withinResources (hcapacity : memory.arena.capacity ≤ maxArenaSize)
    (hlength : 0 < length) (hresources : memory.WithinResources address length) :
    memory.resolve address length = .ok (.resource (address.toNat - resourceBase)) := by
  obtain ⟨hbase, hwithin⟩ := hresources
  have hend : resourceBase = arenaBase + maxArenaSize := rfl
  unfold resolve
  rw [if_neg (by omega), if_pos ⟨hbase, by omega⟩, if_pos (by omega)]

/-- An access to other bytes leads nowhere. -/
theorem resolve_of_not_within (harena : ¬ memory.WithinArena address length)
    (hresources : ¬ memory.WithinResources address length) :
    memory.resolve address length = .error (.invalidAddress address) := by
  cases hresolve : memory.resolve address length with
  | error fault => rw [fault_of_resolve hresolve]
  | ok region =>
    cases region with
    | arena offset => exact absurd (withinArena_of_resolve hresolve).1 harena
    | resource offset => exact absurd (withinResources_of_resolve hresolve).1 hresources

end Resolve

/-! ## Writing -/

/-- The second memory has the given bytes in its arena from an offset on, and apart from
these bytes it is the first one. -/
structure Overwrites (memory : Memory) (offset : Nat) (bytes : List UInt8) (next : Memory) :
    Prop where
  capacity_eq : next.arena.capacity = memory.arena.capacity
  sp_eq : next.arena.sp = memory.arena.sp
  tags_eq : next.arena.tags = memory.arena.tags
  resources_eq : next.resources = memory.resources
  placed_eq : next.placed = memory.placed
  inside : ∀ i (hi : i < bytes.length), next.arena.byteAt (offset + i) = bytes[i]
  outside : ∀ i, i < offset ∨ offset + bytes.length ≤ i →
    next.arena.byteAt i = memory.arena.byteAt i

/-- The memory after bytes of its arena were overwritten. -/
def overwritten (memory : Memory) (offset : Nat) (bytes : List UInt8) : Memory :=
  { memory with arena := memory.arena.overwritten offset bytes }

/-- Overwriting bytes changes these bytes only. -/
theorem overwrites_overwritten (memory : Memory) (offset : Nat) (bytes : List UInt8) :
    memory.Overwrites offset bytes (memory.overwritten offset bytes) := by
  refine ⟨rfl, rfl, rfl, rfl, rfl, fun i hi => ?_, fun i hi => ?_⟩
  · have hin : offset ≤ offset + i ∧ offset + i < offset + bytes.length := by omega
    simp only [overwritten, Arena.overwritten, Arena.byteAt, Arena.getD_setBytes, if_pos hin]
    simp [hi]
  · have hout : ¬ (offset ≤ i ∧ i < offset + bytes.length) := by omega
    simp only [overwritten, Arena.overwritten, Arena.byteAt, Arena.getD_setBytes, if_neg hout]

section Writing

variable {memory next : Memory} {address : UInt64} {bytes : List UInt8}

/-- A write to live bytes of the arena overwrites them. -/
theorem writeBytes_of_withinArena (hbounded : memory.Bounded) (hsome : bytes ≠ [])
    (harena : memory.WithinArena address bytes.length) :
    writeBytes address bytes memory =
      .ok () (memory.overwritten (address.toNat - arenaBase) bytes) := by
  have hlength : 0 < bytes.length := List.length_pos_iff.mpr hsome
  simp only [writeBytes, resolve_of_withinArena hbounded hlength harena]
  rfl

/-- A write to other bytes fails and changes nothing. -/
theorem writeBytes_of_not_withinArena (harena : ¬ memory.WithinArena address bytes.length) :
    writeBytes address bytes memory = .error (.invalidAddress address) memory := by
  unfold writeBytes
  cases hresolve : memory.resolve address bytes.length with
  | error fault => rw [fault_of_resolve hresolve]
  | ok region =>
    cases region with
    | arena offset => exact absurd (withinArena_of_resolve hresolve).1 harena
    | resource offset => rfl

/-- No write starts above the arena, not even one of no bytes. -/
theorem writeBytes_of_resourceBase_le (hcapacity : memory.arena.capacity ≤ maxArenaSize)
    (hbase : resourceBase ≤ address.toNat) (bytes : List UInt8) :
    writeBytes address bytes memory = .error (.invalidAddress address) memory := by
  unfold writeBytes
  cases hresolve : memory.resolve address bytes.length with
  | error fault => rw [fault_of_resolve hresolve]
  | ok region =>
    cases region with
    | arena offset =>
      have hbelow := lt_of_resolve_arena hresolve
      have hend : resourceBase = arenaBase + maxArenaSize := rfl
      omega
    | resource offset => rfl

/-- A write that succeeds overwrites the bytes at its address. -/
theorem eq_overwritten_of_writeBytes (hwrite : writeBytes address bytes memory = .ok () next) :
    memory.WithinArena address bytes.length ∧
      next = memory.overwritten (address.toNat - arenaBase) bytes := by
  unfold writeBytes at hwrite
  cases hresolve : memory.resolve address bytes.length with
  | error fault => simp [hresolve] at hwrite
  | ok region =>
    cases region with
    | resource offset => simp [hresolve] at hwrite
    | arena offset =>
      obtain ⟨harena, hoffset⟩ := withinArena_of_resolve hresolve
      rw [hresolve] at hwrite
      cases hwrite
      rw [← hoffset]
      exact ⟨harena, rfl⟩

end Writing

/-! ## Reading -/

section Reading

variable {memory : Memory} {address : UInt64} {length : Nat}

/-- Reading live bytes of the arena gives them. -/
theorem readBytes_of_withinArena (hbounded : memory.Bounded) (hlength : 0 < length)
    (harena : memory.WithinArena address length) :
    memory.readBytes address length =
      .ok (memory.arena.slice (address.toNat - arenaBase) length) := by
  unfold readBytes
  rw [resolve_of_withinArena hbounded hlength harena]
  rfl

/-- Reading bytes of resources gives them. -/
theorem readBytes_of_withinResources (hcapacity : memory.arena.capacity ≤ maxArenaSize)
    (hlength : 0 < length) (hresources : memory.WithinResources address length) :
    memory.readBytes address length =
      .ok (memory.resourceSlice (address.toNat - resourceBase) length) := by
  unfold readBytes
  rw [resolve_of_withinResources hcapacity hlength hresources]
  rfl

/-- Other bytes cannot be read. -/
theorem readBytes_of_not_within (harena : ¬ memory.WithinArena address length)
    (hresources : ¬ memory.WithinResources address length) :
    memory.readBytes address length = .error (.invalidAddress address) := by
  unfold readBytes
  rw [resolve_of_not_within harena hresources]
  rfl

/-- Bytes beside those that are overwritten are read as before. -/
theorem readBytes_overwritten_beside {place : UInt64} {bytes : List UInt8}
    (harena : memory.WithinArena place bytes.length)
    (hbeside : address.toNat + length ≤ place.toNat ∨
      place.toNat + bytes.length ≤ address.toNat) :
    (memory.overwritten (place.toNat - arenaBase) bytes).readBytes address length =
      memory.readBytes address length := by
  have hsame : (memory.overwritten (place.toNat - arenaBase) bytes).resolve address length =
      memory.resolve address length := rfl
  unfold readBytes
  rw [hsame]
  cases hresolve : memory.resolve address length with
  | error fault => rfl
  | ok region =>
    cases region with
    | resource offset => rfl
    | arena offset =>
      obtain ⟨⟨hbase, -⟩, hoffset⟩ := withinArena_of_resolve hresolve
      obtain ⟨hplace, -⟩ := harena
      have hoffsets : offset + length ≤ place.toNat - arenaBase ∨
          place.toNat - arenaBase + bytes.length ≤ offset := by
        omega
      exact congrArg Except.ok (memory.arena.slice_setBytes_beside length hoffsets)

/-- A value that was written is read back without the bits above its width. -/
theorem read_overwritten (hbounded : memory.Bounded) {value : Value}
    (hstorable : value.type ≠ .void) (harena : memory.WithinArena address value.size) :
    (memory.overwritten (address.toNat - arenaBase) value.bytes).read address value.type =
      .ok value.stored := by
  have hbytes : (memory.overwritten (address.toNat - arenaBase) value.bytes).readBytes address
      value.type.size = _ :=
    readBytes_of_withinArena ⟨hbounded.sp_le, hbounded.capacity_le⟩
      (DataType.size_pos hstorable) harena
  unfold Memory.read
  rw [hbytes]
  exact congrArg Except.ok (memory.arena.valueAt_overwritten value (address.toNat - arenaBase))

end Reading

/-! ## Addresses of the arena -/

section ArenaAddress

variable {memory : Memory} {offset : Nat} (hbounded : memory.Bounded)
  (hoffset : offset < memory.arena.capacity)
include hbounded hoffset

/-- The address of an offset leads to that offset when the bytes there are live. -/
theorem resolve_arenaAddress (length : Nat) :
    memory.resolve (arenaAddress offset) length =
      if offset + length ≤ memory.arena.sp then .ok (.arena offset)
      else .error (Arena.deadOffset offset) := by
  have hlarge : arenaBase + maxArenaSize < 2 ^ 64 := by decide
  have hplace : (arenaAddress offset).toNat = arenaBase + offset := by
    have hcapacity := hbounded.capacity_le
    exact UInt64.toNat_ofNat_of_lt' (show arenaBase + offset < 2 ^ 64 by omega)
  simp only [resolve, hplace, Nat.add_sub_cancel_left]
  rw [if_pos (by omega)]
  rfl

/-- Reading at the address of an offset is reading at the offset. -/
theorem read_arenaAddress (type : DataType) :
    memory.read (arenaAddress offset) type = memory.arena.read offset type := by
  unfold Memory.read readBytes Arena.read
  rw [resolve_arenaAddress hbounded hoffset]
  split <;> rfl

/-- Writing at the address of an offset is writing at the offset. -/
theorem write_arenaAddress (value : Value) :
    write (arenaAddress offset) value memory = onArena (Arena.write offset value) memory := by
  unfold Memory.write writeBytes onArena
  simp only [resolve_arenaAddress hbounded hoffset, Value.length_bytes, Arena.write_eq]
  by_cases hlive : offset + value.size ≤ memory.arena.sp
  · simp only [if_pos hlive]
    rfl
  · simp only [if_neg hlive]

end ArenaAddress

/-! ## Exactness -/

/-- Accesses by address read and change exactly the bytes at their addresses, and are
refused where there are none. -/
structure ExactAccess (memory : Memory) : Prop where
  /-- A write to live bytes of the arena changes these and nothing else. -/
  write_within : ∀ (address : UInt64) (bytes : List UInt8), bytes ≠ [] →
    memory.WithinArena address bytes.length →
      ∃ next, writeBytes address bytes memory = .ok () next ∧
        memory.Overwrites (address.toNat - arenaBase) bytes next
  /-- Any other write is blamed on its address and changes nothing. -/
  write_elsewhere : ∀ (address : UInt64) (bytes : List UInt8), bytes ≠ [] →
    ¬ memory.WithinArena address bytes.length →
      writeBytes address bytes memory = .error (.invalidAddress address) memory
  /-- Live bytes of the arena are read as they are. -/
  read_arena : ∀ (address : UInt64) (length : Nat), 0 < length →
    memory.WithinArena address length →
      memory.readBytes address length =
        .ok ((List.range length).map fun i =>
          memory.arena.byteAt (address.toNat - arenaBase + i))
  /-- Bytes of resources are read as they are. -/
  read_resources : ∀ (address : UInt64) (length : Nat), 0 < length →
    memory.WithinResources address length →
      memory.readBytes address length =
        .ok ((List.range length).map fun i =>
          memory.resourceByte (address.toNat - resourceBase + i))
  /-- Any other reading is blamed on its address. -/
  read_elsewhere : ∀ (address : UInt64) (length : Nat), 0 < length →
    ¬ memory.WithinArena address length → ¬ memory.WithinResources address length →
      memory.readBytes address length = .error (.invalidAddress address)
  /-- A value that is written is read back without the bits above its width. -/
  read_written : ∀ (address : UInt64) (value : Value), value.type ≠ .void →
    memory.WithinArena address value.size →
      ∃ next, write address value memory = .ok () next ∧
        next.read address value.type = .ok (.ofRaw value.type value.raw)
  /-- What is read beside the bytes of a write does not change. -/
  read_beside : ∀ (address : UInt64) (bytes : List UInt8) (next : Memory),
    writeBytes address bytes memory = .ok () next →
      ∀ (other : UInt64) (length : Nat),
        other.toNat + length ≤ address.toNat ∨ address.toNat + bytes.length ≤ other.toNat →
          next.readBytes other length = memory.readBytes other length
  /-- Reading at the address of an offset of the arena is reading at the offset. -/
  read_offset : ∀ offset < memory.arena.capacity, ∀ type,
    memory.read (arenaAddress offset) type = memory.arena.read offset type
  /-- Writing at the address of an offset of the arena is writing at the offset. -/
  write_offset : ∀ offset < memory.arena.capacity, ∀ value,
    write (arenaAddress offset) value memory = onArena (Arena.write offset value) memory

/-- Accesses by address are exact as long as the top lies within the arena and the arena ends
below the resources. -/
theorem exactAccess_of_bounded {memory : Memory} (hbounded : memory.Bounded) :
    memory.ExactAccess where
  write_within address bytes hsome harena :=
    ⟨_, writeBytes_of_withinArena hbounded hsome harena, overwrites_overwritten _ _ _⟩
  write_elsewhere address bytes _ harena := writeBytes_of_not_withinArena harena
  read_arena address length hlength harena :=
    readBytes_of_withinArena hbounded hlength harena
  read_resources address length hlength hresources :=
    readBytes_of_withinResources hbounded.capacity_le hlength hresources
  read_elsewhere address length _ harena hresources :=
    readBytes_of_not_within harena hresources
  read_written address value hstorable harena := by
    have hlength : value.bytes.length = value.size := value.length_bytes
    have hsome : value.bytes ≠ [] := by
      rw [← List.length_pos_iff, hlength]
      exact DataType.size_pos hstorable
    exact ⟨_, writeBytes_of_withinArena hbounded hsome (hlength ▸ harena),
      read_overwritten hbounded hstorable harena⟩
  read_beside address bytes next hwrite other length hbeside := by
    obtain ⟨harena, rfl⟩ := eq_overwritten_of_writeBytes hwrite
    exact readBytes_overwritten_beside harena hbeside
  read_offset offset hoffset type := read_arenaAddress hbounded hoffset type
  write_offset offset hoffset value := write_arenaAddress hbounded hoffset value

/-- A memory with one value in its arena and one resource. -/
def furnished : Memory :=
  (Memory.new 16).after [.onArena (.push ⟨.u32, 7⟩), .place 0 ⟨.utf8, [104, 105]⟩]

theorem exactAccess_of_bounded_furnished :
    furnished.Bounded ∧ furnished.WithinArena 0x10000002 2 ∧
      ¬ furnished.WithinArena 0x10000002 3 ∧ furnished.WithinResources 0x40000000 3 ∧
        furnished.ExactAccess := by
  have hbounded : furnished.Bounded := bounded_after 16 _
  refine ⟨hbounded, ?_, ?_, ?_, exactAccess_of_bounded hbounded⟩
  · exact ⟨by decide, by decide⟩
  · exact fun harena => absurd harena.2 (by decide)
  · exact ⟨by decide, by decide⟩

end Memory

end StackCode
