import StackCode.Proofs.Memory.ValueList

/-!
# Accesses within the arena

An arena may be used at any offset, also in the middle of a value.  Truncation there leaves a
tag whose bytes reach above the top, and what is pushed next overlaps it, so the tags do not
tile such an arena.  What every use keeps is weaker: the tags stand in ascending order below
the top, and the bytes of each lie within the capacity.  That is enough for every access to
stay within the store and within the list of tags.

The operations are given a second time on a strict store, which has no answer to an access
that reaches outside.  On the arenas that occur, the strict operations are the operations.

Main definitions:

- `Arena.Ordered`: what every use of an arena keeps.
- `Arena.after`: the arena that a sequence of operations leaves.
- `Arena.slice?`, `Arena.overwritten?`, `Arena.top?`: accesses of a strict store.
- `Arena.push?`, `pop?`, `checkTop?`, `read?`, `write?`: the operations on a strict store.
- `Arena.Strict`: no access of any operation reaches outside.

Main results:

- Theorem `Arena.Ordered.next`: an operation keeps the tags of an arena in order.
- Theorem `Arena.Ordered.strict`: no access to an arena with ordered tags reaches outside.
- Theorem `Arena.strict_after`: nor does any after an arbitrary sequence of operations.
-/

namespace StackCode.Arena

/-! ## Tags in ascending order -/

/-- The tags, which are given topmost first, stand in strictly ascending order below the top,
and the bytes of each of them lie within the capacity. -/
structure Ordered (arena : Arena) : Prop where
  ascending : arena.tags.Pairwise fun upper lower => lower.1 < upper.1
  lt_sp : ∀ tag ∈ arena.tags, tag.1 < arena.sp
  sp_le : arena.sp ≤ arena.capacity
  end_le : ∀ tag ∈ arena.tags, tag.1 + tag.2.size ≤ arena.capacity
  bytes_le : arena.bytes.size ≤ arena.capacity

/-- A new arena has no tags. -/
theorem ordered_new (size : Nat) : (Arena.new size).Ordered :=
  ⟨.nil, by simp [new], Nat.zero_le _, by simp [new], Nat.zero_le _⟩

/-- Dropping ascending tags from the topmost one down to a bound leaves those below it. -/
theorem lt_of_mem_dropWhile {tags : List (Nat × DataType)} {offset : Nat}
    (hascending : tags.Pairwise fun upper lower => lower.1 < upper.1) {tag : Nat × DataType}
    (htag : tag ∈ tags.dropWhile fun tag => decide (offset ≤ tag.1)) : tag.1 < offset := by
  induction tags with
  | nil => simp at htag
  | cons top below ih =>
    obtain ⟨hbelow, hrest⟩ := List.pairwise_cons.mp hascending
    by_cases htop : offset ≤ top.1
    · rw [List.dropWhile_cons_of_pos (by simpa using htop)] at htag
      exact ih hrest htag
    · rw [List.dropWhile_cons_of_neg (by simpa using htop)] at htag
      rcases List.mem_cons.mp htag with rfl | hmem
      · omega
      · have hlt := hbelow tag hmem
        omega

section Steps

variable {arena : Arena}

/-- A pushed value stands above all others and ends within the capacity. -/
theorem Ordered.pushed {value : Value} (hordered : arena.Ordered)
    (hstorable : value.type ≠ .void) (hroom : arena.sp + value.size ≤ arena.capacity) :
    (arena.pushed value).Ordered := by
  have hpos : 0 < value.size := DataType.size_pos hstorable
  have hgrowth := size_setBytes_le arena.bytes arena.sp value.bytes
  have hbytes := hordered.bytes_le
  rw [Value.length_bytes] at hgrowth
  refine ⟨List.pairwise_cons.mpr ⟨hordered.lt_sp, hordered.ascending⟩, ?_, hroom, ?_, ?_⟩
  · intro tag htag
    rcases List.mem_cons.mp htag with rfl | hbelow
    · exact Nat.lt_add_of_pos_right hpos
    · exact Nat.lt_add_right _ (hordered.lt_sp tag hbelow)
  · intro tag htag
    rcases List.mem_cons.mp htag with rfl | hbelow
    · exact hroom
    · exact hordered.end_le tag hbelow
  · simp only [Arena.pushed]
    omega

/-- Below the topmost tag all others stand in order. -/
theorem Ordered.popped {offset : Nat} {type : DataType} {tags : List (Nat × DataType)}
    (hordered : arena.Ordered) (htags : arena.tags = (offset, type) :: tags) :
    ({ arena with sp := offset, tags } : Arena).Ordered := by
  have hsub : ∀ tag ∈ tags, tag ∈ arena.tags := fun tag hmem => by
    rw [htags]
    exact List.mem_cons_of_mem _ hmem
  have hascending := hordered.ascending
  rw [htags] at hascending
  obtain ⟨hbelow, hrest⟩ := List.pairwise_cons.mp hascending
  have hlt : offset < arena.sp := hordered.lt_sp (offset, type) (by rw [htags]; simp)
  exact ⟨hrest, hbelow, Nat.le_trans (Nat.le_of_lt hlt) hordered.sp_le,
    fun tag hmem => hordered.end_le tag (hsub tag hmem), hordered.bytes_le⟩

/-- Overwriting live bytes leaves the tags as they are. -/
theorem Ordered.overwritten {offset : Nat} {bytes : List UInt8} (hordered : arena.Ordered)
    (hlive : offset + bytes.length ≤ arena.sp) : (arena.overwritten offset bytes).Ordered := by
  have hgrowth := size_setBytes_le arena.bytes offset bytes
  have hbytes := hordered.bytes_le
  have hfits := hordered.sp_le
  refine ⟨hordered.ascending, hordered.lt_sp, hordered.sp_le, hordered.end_le, ?_⟩
  simp only [Arena.overwritten]
  omega

/-- Truncation at any offset leaves the tags that stand below it. -/
theorem Ordered.truncate (hordered : arena.Ordered) (offset : Nat) :
    (arena.truncate offset).Ordered := by
  have hsub := List.dropWhile_sublist (l := arena.tags) fun tag => decide (offset ≤ tag.1)
  refine ⟨hordered.ascending.sublist hsub, ?_,
    Nat.le_trans (sp_truncate_le arena offset) hordered.sp_le,
    fun tag htag => hordered.end_le tag (hsub.mem htag), hordered.bytes_le⟩
  intro tag htag
  have hbelow : tag.1 < offset := lt_of_mem_dropWhile hordered.ascending htag
  have hlt : tag.1 < arena.sp := hordered.lt_sp tag (hsub.mem htag)
  simp only [Arena.truncate]
  split <;> omega

/-- An operation keeps the tags of an arena in order, whatever offsets, floors, types and
values it is given. -/
theorem Ordered.next (hordered : arena.Ordered) (operation : Operation) :
    (operation.next arena).Ordered := by
  obtain hsame | heffect := operation.next_cases arena
  · rwa [hsame]
  generalize operation.next arena = next at heffect
  cases heffect with
  | push hstorable hroom => exact hordered.pushed hstorable hroom
  | pop htags => exact hordered.popped htags
  | checkTop => exact hordered
  | read => exact hordered
  | write hlive => exact hordered.overwritten (by simpa using hlive)
  | truncate => exact hordered.truncate _
  | clear => exact ⟨.nil, by simp [clear], Nat.zero_le _, by simp [clear], hordered.bytes_le⟩

end Steps

/-! ## A strict store -/

section Accesses

variable (arena : Arena)

/-- The bytes from an offset on, absent when the store ends before them. -/
def slice? (offset length : Nat) : Option (List UInt8) :=
  if offset + length ≤ arena.capacity then some (arena.slice offset length) else none

/-- The arena with bytes set from an offset on, absent when the store ends before them. -/
def overwritten? (offset : Nat) (bytes : List UInt8) : Option Arena :=
  if offset + bytes.length ≤ arena.capacity then some (arena.overwritten offset bytes) else none

/-- The topmost tags, the lowest of them first, absent when there are fewer. -/
def top? (count : Nat) : Option (List (Nat × DataType)) :=
  if count ≤ arena.tags.length then some (arena.tags.take count).reverse else none

/-- Pushing a value sets its bytes at the top. -/
def push? (value : Value) : Option (EStateM.Result Fault Arena Nat) :=
  if value.type = .void then return .error (.unsupportedType .push .void) arena
  else if arena.capacity < arena.sp + value.size then return .error .stackOverflow arena
  else do
    let stored ← arena.overwritten? arena.sp value.bytes
    return .ok arena.sp
      { stored with sp := arena.sp + value.size, tags := (arena.sp, value.type) :: arena.tags }

/-- Popping a value gets its bytes at the topmost tag. -/
def pop? (expected : DataType) (floor : Nat) : Option (EStateM.Result Fault Arena Value) :=
  match arena.tags with
  | [] => return .error .stackUnderflow arena
  | (offset, found) :: tags =>
    if offset < floor then return .error .stackUnderflow arena
    else if found ≠ expected then return .error (.typeMismatch expected found) arena
    else do
      let bytes ← arena.slice? offset found.size
      return .ok (.ofBytes found bytes) { arena with sp := offset, tags }

/-- The check of topmost types gets as many tags as there are types. -/
def checkTop? (types : List DataType) (floor : Nat) : Option (Except Fault Unit) :=
  if arena.tags.length < types.length then return .error .stackUnderflow
  else do
    let top ← arena.top? types.length
    return checkTags floor top types

/-- Reading gets the bytes of a value. -/
def read? (offset : Nat) (type : DataType) : Option (Except Fault Value) :=
  if offset + type.size ≤ arena.sp then do
    let bytes ← arena.slice? offset type.size
    return .ok (.ofBytes type bytes)
  else return .error (deadOffset offset)

/-- Writing gets the bytes that are there, and sets them. -/
def write? (offset : Nat) (value : Value) : Option (EStateM.Result Fault Arena Unit) :=
  if offset + value.size ≤ arena.sp then do
    let _ ← arena.slice? offset value.size
    let stored ← arena.overwritten? offset value.bytes
    return .ok () stored
  else return .error (deadOffset offset) arena

end Accesses

/-- No access of any operation reaches outside of the store or of the list of tags: each
strict operation has an answer, the one that the operation gives. -/
structure Strict (arena : Arena) : Prop where
  push : ∀ value, arena.push? value = some (push value arena)
  pop : ∀ expected floor, arena.pop? expected floor = some (pop expected floor arena)
  checkTop : ∀ types floor, arena.checkTop? types floor = some (arena.checkTop types floor)
  read : ∀ offset type, arena.read? offset type = some (arena.read offset type)
  write : ∀ offset value, arena.write? offset value = some (write offset value arena)

section Strict

variable {arena : Arena}

theorem slice?_eq {offset length : Nat} (hwithin : offset + length ≤ arena.capacity) :
    arena.slice? offset length = some (arena.slice offset length) :=
  if_pos hwithin

theorem overwritten?_eq {offset : Nat} {bytes : List UInt8}
    (hwithin : offset + bytes.length ≤ arena.capacity) :
    arena.overwritten? offset bytes = some (arena.overwritten offset bytes) :=
  if_pos hwithin

/-- The room that a push asks for is the room that it takes. -/
theorem push?_eq (value : Value) : arena.push? value = some (push value arena) := by
  rw [push?, push_eq]
  split_ifs with hvoid hfull
  · rfl
  · rfl
  · have hwithin : arena.sp + value.bytes.length ≤ arena.capacity := by
      rw [Value.length_bytes]
      exact Nat.not_lt.mp hfull
    rw [overwritten?_eq hwithin]
    rfl

/-- A tag ends within the store, also one whose bytes reach above the top. -/
theorem Ordered.pop?_eq (hordered : arena.Ordered) (expected : DataType) (floor : Nat) :
    arena.pop? expected floor = some (pop expected floor arena) := by
  unfold pop? Arena.pop
  cases htags : arena.tags with
  | nil => rfl
  | cons tag tags =>
    obtain ⟨offset, found⟩ := tag
    have hwithin : offset + found.size ≤ arena.capacity :=
      hordered.end_le (offset, found) (by rw [htags]; simp)
    dsimp only
    split_ifs with hfloor hfound
    · rfl
    · rfl
    · rw [slice?_eq hwithin]
      rfl

/-- As many tags as the check gets are there. -/
theorem checkTop?_eq (types : List DataType) (floor : Nat) :
    arena.checkTop? types floor = some (arena.checkTop types floor) := by
  have hlength : (arena.tags.take types.length).length < types.length ↔
      arena.tags.length < types.length := by
    rw [List.length_take]
    omega
  simp only [checkTop?, checkTop, hlength]
  split_ifs with hshort
  · rfl
  · rw [top?, if_pos (Nat.not_lt.mp hshort)]
    rfl

/-- Live bytes lie within the store. -/
theorem Ordered.read?_eq (hordered : arena.Ordered) (offset : Nat) (type : DataType) :
    arena.read? offset type = some (arena.read offset type) := by
  unfold read? Arena.read
  split_ifs with hlive
  · rw [slice?_eq (Nat.le_trans hlive hordered.sp_le)]
    rfl
  · rfl

theorem Ordered.write?_eq (hordered : arena.Ordered) (offset : Nat) (value : Value) :
    arena.write? offset value = some (write offset value arena) := by
  rw [write?, write_eq]
  split_ifs with hlive
  · have hwithin := Nat.le_trans hlive hordered.sp_le
    rw [slice?_eq hwithin, overwritten?_eq (by rwa [Value.length_bytes])]
    rfl
  · rfl

/-- No access to an arena with ordered tags reaches outside. -/
theorem Ordered.strict (hordered : arena.Ordered) : arena.Strict :=
  ⟨push?_eq, hordered.pop?_eq, checkTop?_eq, hordered.read?_eq, hordered.write?_eq⟩

end Strict

/-! ## Sequences of operations -/

/-- The arena that a sequence of operations leaves, each of which may fail. -/
def after (arena : Arena) (operations : List Operation) : Arena :=
  operations.foldl (fun arena operation => operation.next arena) arena

/-- A sequence of operations keeps the tags of an arena in order. -/
theorem Ordered.after {arena : Arena} (hordered : arena.Ordered)
    (operations : List Operation) : (arena.after operations).Ordered := by
  induction operations generalizing arena with
  | nil => exact hordered
  | cons operation rest ih => exact ih (hordered.next operation)

/-- A sequence of operations does not change how many bytes an arena can take. -/
theorem capacity_after (arena : Arena) (operations : List Operation) :
    (arena.after operations).capacity = arena.capacity := by
  induction operations generalizing arena with
  | nil => rfl
  | cons operation rest ih =>
    exact (ih (operation.next arena)).trans (operation.capacity_next arena)

/-- After any sequence of operations an arena has the size that was asked for, up to the
largest one.  Its tags stand in ascending order below the top and end within the capacity, so
that no access of any further operation reaches outside, and truncation never raises the
top. -/
theorem strict_after (size : Nat) (operations : List Operation) :
    let arena := (Arena.new size).after operations
    arena.capacity = min size maxArenaSize ∧ arena.Ordered ∧ arena.Strict ∧
      ∀ offset, (arena.truncate offset).sp ≤ arena.sp := by
  intro arena
  have hordered : arena.Ordered := (ordered_new size).after operations
  exact ⟨capacity_after (Arena.new size) operations, hordered, hordered.strict,
    arena.sp_truncate_le⟩

/-- Truncation inside a value leaves a tag that reaches above the top and into the next
value. -/
example :
    ((Arena.new 16).after [.push ⟨.u64, 7⟩, .truncate 3, .push ⟨.u16, 5⟩]).tags =
      [(3, .u16), (0, .u64)] := by
  decide

end StackCode.Arena
