import StackCode.Proofs.Memory.PackedArena
import StackCode.Proofs.Memory.Regions

/-!
# Memories that cannot be told apart

Two arenas with the same values look the same, whatever bytes lie above them and however
much room is left.  Two memories look the same to a program if moreover one of them holds
the resources of the other one, and perhaps more: an access to the additional ones is a
fault in the first memory.

Main definitions:

- `Arena.Resembles`: arenas with the same values and the same bytes below a mark.
- `Memory.Resembles`: memories with such arenas, of which the second may hold more resources.

Main results:

- Theorem `Arena.Resembles.pushed`, `popped`, `overwritten`, `truncate`: what keeps arenas
  alike.
- Theorem `Memory.Resembles.resolve_eq`: where an access leads.
- Theorems `Memory.Resembles.read_eq`, `readCString_eq`: what can be read.
-/

namespace StackCode

/-! ## Arenas -/

namespace Arena

/-- The arenas hold the same values, which all end below a mark, and the same bytes below
that mark.  The second one has at least as much room, and both fit below the resources. -/
structure Resembles (mark : Nat) (arena other : Arena) : Prop where
  sp_eq : other.sp = arena.sp
  tags_eq : other.tags = arena.tags
  byteAt_eq : ∀ i < mark, other.byteAt i = arena.byteAt i
  sp_le : arena.sp ≤ mark
  tags_le : ∀ tag ∈ arena.tags, tag.1 + tag.2.size ≤ mark
  mark_le : mark ≤ arena.capacity
  capacity_le : arena.capacity ≤ other.capacity
  limit : other.capacity ≤ maxArenaSize

section Resembles

variable {mark : Nat} {arena other : Arena}

/-- Both arenas end below the resources. -/
theorem Resembles.end_le (hresembles : Resembles mark arena other) :
    arenaBase + other.capacity ≤ resourceBase := by
  have hbase : arenaBase ≤ resourceBase := by decide
  have hlimit := hresembles.limit
  unfold maxArenaSize at hlimit
  omega

/-- Arenas without values resemble each other. -/
theorem resembles_clear (hcapacity : arena.capacity ≤ other.capacity)
    (hlimit : other.capacity ≤ maxArenaSize) : Resembles 0 arena.clear other.clear where
  sp_eq := rfl
  tags_eq := rfl
  byteAt_eq := by simp
  sp_le := Nat.le_refl 0
  tags_le := by simp [clear]
  mark_le := Nat.zero_le _
  capacity_le := hcapacity
  limit := hlimit

/-- Bytes below the mark are the same. -/
theorem Resembles.slice_eq (hresembles : Resembles mark arena other) {offset length : Nat}
    (hbelow : offset + length ≤ mark) : other.slice offset length = arena.slice offset length := by
  apply List.map_congr_left
  intro i hi
  have hlt := List.mem_range.mp hi
  exact hresembles.byteAt_eq _ (by omega)

/-- Values below the mark are the same. -/
theorem Resembles.valueAt_eq (hresembles : Resembles mark arena other) {type : DataType}
    {offset : Nat} (hbelow : offset + type.size ≤ mark) :
    other.valueAt type offset = arena.valueAt type offset := by
  unfold valueAt
  rw [hresembles.slice_eq hbelow]

/-- Live values are the same. -/
theorem Resembles.read_eq (hresembles : Resembles mark arena other) (offset : Nat)
    (type : DataType) : other.read offset type = arena.read offset type := by
  unfold read
  rw [hresembles.sp_eq]
  by_cases hlive : offset + type.size ≤ arena.sp
  · rw [if_pos hlive, if_pos hlive, hresembles.valueAt_eq (hlive.trans hresembles.sp_le)]
  · rw [if_neg hlive, if_neg hlive]

/-- A value that fits into the smaller arena is pushed alike, and the mark is raised to its
end. -/
theorem Resembles.pushed (hresembles : Resembles mark arena other) {value : Value}
    (hroom : arena.sp + value.size ≤ arena.capacity) :
    Resembles (max mark (arena.sp + value.size)) (arena.pushed value) (other.pushed value) := by
  have hsp := hresembles.sp_le
  have hmark := hresembles.mark_le
  constructor
  · simp [Arena.pushed, hresembles.sp_eq]
  · simp [Arena.pushed, hresembles.sp_eq, hresembles.tags_eq]
  · intro i hi
    simp only [Arena.pushed, byteAt, getD_setBytes, hresembles.sp_eq, Value.length_bytes]
    by_cases hwritten : arena.sp ≤ i ∧ i < arena.sp + value.size
    · rw [if_pos hwritten, if_pos hwritten]
    · rw [if_neg hwritten, if_neg hwritten]
      exact hresembles.byteAt_eq i (by omega)
  · exact Nat.le_max_right _ _
  · intro tag htag
    rcases List.mem_cons.mp htag with rfl | hlower
    · exact Nat.le_max_right _ _
    · exact (hresembles.tags_le tag hlower).trans (Nat.le_max_left _ _)
  · exact Nat.max_le.mpr ⟨hmark, hroom⟩
  · exact hresembles.capacity_le
  · exact hresembles.limit

/-- Bytes below the mark are overwritten alike. -/
theorem Resembles.overwritten (hresembles : Resembles mark arena other) (offset : Nat)
    (bytes : List UInt8) :
    Resembles mark (arena.overwritten offset bytes) (other.overwritten offset bytes) := by
  refine { hresembles with byteAt_eq := ?_ }
  intro i hi
  simp only [Arena.overwritten, byteAt, getD_setBytes]
  by_cases hwritten : offset ≤ i ∧ i < offset + bytes.length
  · rw [if_pos hwritten, if_pos hwritten]
  · rw [if_neg hwritten, if_neg hwritten]
    exact hresembles.byteAt_eq i hi

/-- The topmost value is removed alike. -/
theorem Resembles.popped (hresembles : Resembles mark arena other) {offset : Nat}
    {type : DataType} {tags : List (Nat × DataType)} (htags : arena.tags = (offset, type) :: tags) :
    Resembles mark { arena with sp := offset, tags } { other with sp := offset, tags } := by
  have htop := hresembles.tags_le (offset, type) (by simp [htags])
  refine { hresembles with sp_eq := rfl, tags_eq := rfl, sp_le := ?_, tags_le := ?_ }
  · simp only at htop ⊢
    omega
  · intro tag htag
    exact hresembles.tags_le tag (by simp [htags, htag])

/-- Values are dropped alike. -/
theorem Resembles.truncate (hresembles : Resembles mark arena other) (offset : Nat) :
    Resembles mark (arena.truncate offset) (other.truncate offset) := by
  refine { hresembles with sp_eq := ?_, tags_eq := ?_, sp_le := ?_, tags_le := ?_ }
  · simp [Arena.truncate, hresembles.sp_eq]
  · simp [Arena.truncate, hresembles.tags_eq]
  · exact (sp_truncate_le arena offset).trans hresembles.sp_le
  · intro tag htag
    exact hresembles.tags_le tag ((List.dropWhile_sublist _).subset htag)

end Resembles

end Arena

/-! ## Memories -/

namespace Memory

/-- The arenas resemble each other, and the resources of the first memory are the first ones
of the second. -/
structure Resembles (memory other : Memory) : Prop where
  arenas : ∃ mark, Arena.Resembles mark memory.arena other.arena
  resources_prefix : memory.resources.data.toList <+: other.resources.data.toList

section Resembles

variable {memory other : Memory}

/-- The second memory holds as many resources as the first one, or more. -/
theorem Resembles.size_le (hresembles : memory.Resembles other) :
    memory.resources.size ≤ other.resources.size := by
  simpa using hresembles.resources_prefix.length_le

/-- Resources of the first memory are found in the second. -/
theorem Resembles.resource_eq (hresembles : memory.Resembles other) {i : Nat}
    (hi : i < memory.resources.size) : other.resourceByte i = memory.resourceByte i := by
  rcases hresembles.resources_prefix with ⟨more, hmore⟩
  simp only [resourceByte_eq, ← Array.getElem?_toList, Array.getD_eq_getD_getElem?, ← hmore]
  rw [List.getElem?_append_left (by simpa using hi)]

/-- An access leads to the same place in both memories, unless it leads nowhere in the first
one.  In that case the second one holds more resources, or the access is one to no bytes at
all at the very end of a full arena. -/
theorem Resembles.resolve_cases (hresembles : memory.Resembles other) (address : UInt64)
    (length : Nat) :
    other.resolve address length = memory.resolve address length ∨
      memory.resolve address length = .error (.invalidAddress address) ∧
        (other.resources ≠ memory.resources ∨
          length = 0 ∧ other.resolve address length = .ok (.arena other.arena.sp)) := by
  rcases hresembles.arenas with ⟨mark, harenas⟩
  have hsp := harenas.sp_le
  have hmark := harenas.mark_le
  have hcapacity := harenas.capacity_le
  have hbelow := harenas.end_le
  have hsize := hresembles.size_le
  unfold resolve
  simp only [harenas.sp_eq]
  -- The places of the regions do not matter, as long as the arenas end below the resources.
  generalize arenaBase = start, resourceBase = shelf, address.toNat = place at hbelow ⊢
  by_cases harena : start ≤ place ∧ place < start + memory.arena.capacity
  · left
    rw [if_pos harena, if_pos (by omega)]
  · rw [if_neg harena]
    by_cases hbeyond : start ≤ place ∧ place < start + other.arena.capacity
    · -- No live byte of either arena lies here.
      have hunshelved : ¬ (shelf ≤ place ∧ place < shelf + memory.resources.size) := by omega
      rw [if_pos hbeyond, if_neg hunshelved]
      by_cases hnothing : place - start + length ≤ memory.arena.sp
      · right
        have htop : place - start = memory.arena.sp := by omega
        rw [if_pos hnothing, htop]
        exact ⟨rfl, .inr ⟨by omega, rfl⟩⟩
      · left
        rw [if_neg hnothing]
    · rw [if_neg hbeyond]
      by_cases hinside : place - shelf + length ≤ memory.resources.size ∧
          place < shelf + memory.resources.size
      · left
        by_cases hresource : shelf ≤ place
        · rw [if_pos ⟨hresource, by omega⟩, if_pos (by omega), if_pos ⟨hresource, hinside.2⟩,
            if_pos hinside.1]
        · rw [if_neg (by omega), if_neg (by omega)]
      · by_cases hsame : other.resources = memory.resources
        · rw [hsame]
          exact .inl rfl
        · right
          refine ⟨?_, .inl hsame⟩
          by_cases hresource : shelf ≤ place ∧ place < shelf + memory.resources.size
          · rw [if_pos hresource, if_neg (by omega)]
          · rw [if_neg hresource]

/-- An access to at least one byte leads to the same place in both memories, unless it leads
nowhere in the first one and the second one holds more resources. -/
theorem Resembles.resolve_eq (hresembles : memory.Resembles other) (address : UInt64)
    {length : Nat} (hlength : 0 < length) :
    other.resolve address length = memory.resolve address length ∨
      memory.resolve address length = .error (.invalidAddress address) ∧
        other.resources ≠ memory.resources := by
  rcases hresembles.resolve_cases address length with hsame | ⟨hnowhere, hmore | ⟨hnone, -⟩⟩
  · exact .inl hsame
  · exact .inr ⟨hnowhere, hmore⟩
  · omega

/-- The same bytes are read, unless there are none in the first memory and the second one holds
more resources. -/
theorem Resembles.readBytes_eq (hresembles : memory.Resembles other) (address : UInt64)
    {length : Nat} (hlength : 0 < length) :
    other.readBytes address length = memory.readBytes address length ∨
      memory.readBytes address length = .error (.invalidAddress address) ∧
        other.resources ≠ memory.resources := by
  unfold readBytes
  rcases hresembles.resolve_eq address hlength with hsame | ⟨hnowhere, hmore⟩
  · left
    rw [hsame]
    cases hresolve : memory.resolve address length with
    | error fault => rfl
    | ok region =>
      cases region with
      | arena offset =>
        rcases hresembles.arenas with ⟨mark, harenas⟩
        have hlive := (live_of_resolve hresolve).trans harenas.sp_le
        exact congrArg Except.ok (harenas.slice_eq hlive)
      | resource offset =>
        have hinside := within_of_resolve hresolve
        apply congrArg Except.ok
        apply List.map_congr_left
        intro i hi
        have hlt := List.mem_range.mp hi
        exact hresembles.resource_eq (by omega)
  · right
    rw [hnowhere]
    exact ⟨rfl, hmore⟩

theorem Resembles.read_eq (hresembles : memory.Resembles other) (address : UInt64)
    {type : DataType} (hstorable : type ≠ .void) :
    other.read address type = memory.read address type ∨
      memory.read address type = .error (.invalidAddress address) ∧
        other.resources ≠ memory.resources := by
  unfold read
  rcases hresembles.readBytes_eq address (DataType.size_pos hstorable) with
    hsame | ⟨hnowhere, hmore⟩
  · rw [hsame]
    exact .inl rfl
  · rw [hnowhere]
    exact .inr ⟨rfl, hmore⟩

/-- Live bytes up to a zero are the same. -/
theorem Resembles.textAt?_arena (hresembles : memory.Resembles other) {offset : Nat}
    (hlive : offset ≤ memory.arena.sp) :
    other.textAt? (.arena offset) = memory.textAt? (.arena offset) := by
  rcases hresembles.arenas with ⟨mark, harenas⟩
  have hsp := harenas.sp_le
  unfold textAt?
  simp only [harenas.sp_eq]
  exact untilZero_congr fun i hi => harenas.byteAt_eq i (by omega)

/-- A zero among the resources of the first memory ends the same string in the second one. -/
theorem Resembles.textAt?_resource (hresembles : memory.Resembles other) {offset : Nat}
    {text : List UInt8} (hfound : memory.textAt? (.resource offset) = some text) :
    other.textAt? (.resource offset) = some text := by
  have hsize := hresembles.size_le
  by_cases hinside : offset ≤ memory.resources.size
  · apply untilZero_eq_some _ (Nat.sub_le_sub_right hsize offset)
    rw [← hfound]
    exact untilZero_congr fun i hi => hresembles.resource_eq (by omega)
  · simp only [textAt?, Nat.sub_eq_zero_of_le (Nat.le_of_not_le hinside), untilZero] at hfound
    cases hfound

/-- The same string is read, unless there is none in the first memory and the second one holds
more resources. -/
theorem Resembles.readCString_eq (hresembles : memory.Resembles other) (address : UInt64) :
    other.readCString address = memory.readCString address ∨
      memory.readCString address = .error (.invalidAddress address) ∧
        other.resources ≠ memory.resources := by
  rw [Memory.readCString_eq, Memory.readCString_eq]
  rcases hresembles.resolve_cases address 0 with hsame | ⟨hnowhere, hmore | ⟨-, htop⟩⟩
  · rw [hsame]
    cases hresolve : memory.resolve address 0 with
    | error fault => exact .inl rfl
    | ok region =>
      cases region with
      | arena offset =>
        left
        have htext : other.textAt? (.arena offset) = memory.textAt? (.arena offset) :=
          hresembles.textAt?_arena (live_of_resolve hresolve)
        simp only [htext]
      | resource offset =>
        cases htext : memory.textAt? (.resource offset) with
        | some text =>
          left
          simp only [htext, hresembles.textAt?_resource htext]
        | none =>
          by_cases hmore : other.resources = memory.resources
          · left
            have hbytes : other.resourceByte = memory.resourceByte := by
              unfold resourceByte
              rw [hmore]
            simp only [textAt?, hmore, hbytes]
          · right
            simp only [htext]
            exact ⟨trivial, hmore⟩
  · right
    rw [hnowhere]
    exact ⟨rfl, hmore⟩
  · left
    rw [hnowhere, htop]
    simp [textAt?, untilZero]

end Resembles

end Memory

end StackCode
