import StackCode.Proofs.Memory.PackedArena

/-!
# Histories of an arena

An arena that is only used through its operations is a list of typed values with the
lowest first, and each operation is the operation of that name on the list.  Values
of different widths lie side by side without padding, and only the tags tell them
apart, so this rests on the tags tiling the arena after every history.

Main definitions:

- `Arena.values`: the values read at the tags, the lowest first.
- `Arena.Operation`: the operations, with `Operation.Permitted` for those that respect
  the slots.
- `Arena.Reached`: the arenas that permitted operations lead to.
- `Arena.ActsAsList`: what every operation does, said of the list of values.

Main results:

- Theorem `Arena.Operation.tiled_next`: a permitted operation leaves the tags without gaps.
- Theorem `Arena.Reached.tiled`: so does every history.
- Theorem `Arena.actsAsList_of_reached`: a reached arena acts as the list of its values.
-/

namespace StackCode

namespace Arena

/-! ## The list of values -/

/-- The values read at the tags, the lowest first. -/
def values (arena : Arena) : List Value :=
  arena.tags.reverse.map fun tag => arena.valueAt tag.2 tag.1

/-- Number of bytes that values take. -/
def extent (values : List Value) : Nat := totalSize (values.map Value.type)

@[simp]
theorem extent_reverse (values : List Value) : extent values.reverse = extent values := by
  simp [extent]

/-- Packed values are the values at packed tags. -/
theorem contents_eq_map (arena : Arena) (types : List DataType) :
    arena.contents types = (packedTags types).map fun tag => arena.valueAt tag.2 tag.1 := by
  induction types with
  | nil => rfl
  | cons type below ih => simp [contents, packedTags, ih]

/-- Packed values have the types they are read with. -/
@[simp]
theorem map_type_contents (arena : Arena) (types : List DataType) :
    (arena.contents types).map Value.type = types := by
  rw [contents_eq_map, List.map_map]
  exact map_snd_packedTags types

/-- A packed arena holds the values that are read from it. -/
theorem Packed.holds {arena : Arena} {types : List DataType} (hpacked : arena.Packed types) :
    arena.Holds (arena.contents types) := by
  refine ⟨?_, ?_⟩ <;> rw [map_type_contents]
  exact hpacked

/-- The tags tile the arena. -/
def Tiled (arena : Arena) : Prop := ∃ types, arena.Packed types

section Holds

variable {arena : Arena} {value : Value} {stack : List Value}

/-- The values of an arena that holds given ones are these, in reverse. -/
theorem Holds.values_eq (hholds : arena.Holds stack) : arena.values = stack.reverse := by
  rw [values, List.map_reverse, hholds.packed.tags_eq, ← contents_eq_map, hholds.contents_eq]

/-- An arena whose tags tile it holds its values. -/
theorem Tiled.holds_values (htiled : arena.Tiled) : arena.Holds arena.values.reverse := by
  obtain ⟨types, hpacked⟩ := htiled
  rw [hpacked.holds.values_eq, List.reverse_reverse]
  exact hpacked.holds

/-- The top lies where the values end. -/
theorem Holds.sp_eq_extent (hholds : arena.Holds arena.values.reverse) :
    arena.sp = extent arena.values := by
  rw [hholds.packed.sp_eq, ← extent_reverse]
  rfl

/-- A list around one of its elements, in reverse. -/
theorem reverse_eq_of_getElem? {values : List Value} {index : Nat}
    (hvalue : values[index]? = some value) :
    values.reverse =
      (values.drop (index + 1)).reverse ++ value :: (values.take index).reverse := by
  obtain ⟨hlt, rfl⟩ := List.getElem?_eq_some_iff.mp hvalue
  have hsplit := List.take_append_drop index values
  rw [List.drop_eq_getElem_cons hlt] at hsplit
  conv_lhs => rw [← hsplit]
  simp

/-- A tag stands for the value that is read at it. -/
theorem getElem?_values_of_tag {index : Nat} {tag : Nat × DataType}
    (htag : arena.tags.reverse[index]? = some tag) :
    arena.values[index]? = some (arena.valueAt tag.2 tag.1) := by
  rw [values, List.getElem?_map, htag, Option.map_some]

/-- An element of the list of values is the value at a tag that stands where the
elements before it end. -/
theorem Holds.tag_of_getElem? (hholds : arena.Holds arena.values.reverse) {index : Nat}
    (hvalue : arena.values[index]? = some value) :
    arena.tags.reverse[index]? = some (extent (arena.values.take index), value.type) := by
  have hlt : index < arena.values.length := (List.getElem?_eq_some_iff.mp hvalue).1
  have hbelow : (packedTags ((arena.values.take index).reverse.map Value.type)).reverse.length =
      index := by
    simp only [List.length_reverse, length_packedTags, List.length_map, List.length_take]
    omega
  rw [hholds.packed.tags_eq, reverse_eq_of_getElem? hvalue, List.map_append, List.map_cons,
    packedTags_append, packedTags, List.reverse_append, List.reverse_cons, List.append_assoc,
    List.getElem?_append_right (Nat.le_of_eq hbelow), hbelow, ← extent_reverse]
  simp [extent]

/-- The slots are the places where elements start. -/
theorem Holds.slot_iff (hholds : arena.Holds arena.values.reverse) {index offset : Nat}
    {type : DataType} :
    arena.tags.reverse[index]? = some (offset, type) ↔
      ∃ value, arena.values[index]? = some value ∧ value.type = type ∧
        offset = extent (arena.values.take index) := by
  constructor
  · intro htag
    have hvalue := getElem?_values_of_tag htag
    have hsame := hholds.tag_of_getElem? hvalue
    rw [htag, Option.some.injEq, Prod.mk.injEq] at hsame
    exact ⟨_, hvalue, rfl, hsame.1⟩
  · rintro ⟨value, hvalue, rfl, rfl⟩
    exact hholds.tag_of_getElem? hvalue

end Holds

/-! ## Operations -/

/-- A use of an arena. -/
inductive Operation where
  | push (value : Value)
  | pop (expected : DataType) (floor : Nat)
  | checkTop (types : List DataType) (floor : Nat)
  | read (offset : Nat) (type : DataType)
  | write (offset : Nat) (value : Value)
  | truncate (offset : Nat)
  | clear

namespace Operation

/-- A question to the arena, which leaves it as it is. -/
def ask {α : Type} (question : Arena → Except Fault α) : EStateM Fault Arena Unit := fun arena =>
  match question arena with
  | .ok _ => .ok () arena
  | .error fault => .error fault arena

/-- Carries out an operation and drops what it returns. -/
def run : Operation → EStateM Fault Arena Unit
  | .push value => (fun _ => ()) <$> Arena.push value
  | .pop expected floor => (fun _ => ()) <$> Arena.pop expected floor
  | .checkTop types floor => ask fun arena => arena.checkTop types floor
  | .read offset type => ask fun arena => arena.read offset type
  | .write offset value => Arena.write offset value
  | .truncate offset => modify fun arena => arena.truncate offset
  | .clear => modify Arena.clear

/-- The arena after an operation, whether it failed or not. -/
def next (operation : Operation) (arena : Arena) : Arena :=
  match operation.run arena with
  | .ok _ next => next
  | .error _ next => next

/-- Writing asks for a slot and for a value of its type, truncation for the start of a
slot or for the top.  Everything else may be tried at any time. -/
def Permitted (arena : Arena) : Operation → Prop
  | .write offset value => (offset, value.type) ∈ arena.tags
  | .truncate offset => offset = arena.sp ∨ offset ∈ arena.tags.map Prod.fst
  | _ => True

instance (arena : Arena) : (operation : Operation) → Decidable (operation.Permitted arena)
  | .write _ _ => inferInstanceAs (Decidable (_ ∈ _))
  | .truncate _ => inferInstanceAs (Decidable (_ ∨ _))
  | .push _ | .pop _ _ | .checkTop _ _ | .read _ _ | .clear => inferInstanceAs (Decidable True)

end Operation

/-- The arenas that permitted operations on an empty arena of a given size lead to. -/
inductive Reached (size : Nat) : Arena → Prop
  | new : Reached size (Arena.new size)
  | next {arena : Arena} (operation : Operation) (hreached : Reached size arena)
      (hpermitted : operation.Permitted arena) : Reached size (operation.next arena)

/-! ## What each operation does to the list -/

section Steps

variable {arena : Arena} {value : Value}

/-- A value that finds room is appended as it is stored. -/
theorem Holds.push_room (hholds : arena.Holds arena.values.reverse)
    (hstorable : value.type ≠ .void) (hroom : arena.sp + value.size ≤ arena.capacity) :
    ∃ next, push value arena = .ok arena.sp next ∧
      next.values = arena.values ++ [value.stored] := by
  refine ⟨arena.pushed value, ?_, ?_⟩
  · rw [push_eq, if_neg hstorable, if_neg (Nat.not_lt.mpr hroom)]
  · rw [(hholds.pushed hstorable hroom).values_eq, List.reverse_cons, List.reverse_reverse]

/-- The last value is the one that a pop takes. -/
theorem Holds.pop_concat (hholds : arena.Holds arena.values.reverse) {front : List Value}
    {last : Value} (hvalues : arena.values = front ++ [last]) (expected : DataType) (floor : Nat) :
    ∃ next, next.values = front ∧
      pop expected floor arena =
        if extent front < floor then .error .stackUnderflow arena
        else if last.type ≠ expected then .error (.typeMismatch expected last.type) arena
        else .ok last next := by
  rw [hvalues, List.reverse_concat] at hholds
  have hextent : totalSize (front.reverse.map Value.type) = extent front := extent_reverse front
  have hlast : arena.valueAt last.type (totalSize (front.reverse.map Value.type)) = last :=
    hholds.valueAt_eq []
  refine ⟨arena.restrict (front.reverse.map Value.type), ?_, ?_⟩
  · have hbelow : arena.Holds ([last] ++ front.reverse) := hholds
    rw [(hbelow.restrict [last]).values_eq, List.reverse_reverse]
  · rw [hholds.packed.pop_cons, hlast, hextent]

/-- Nothing can be popped from an arena without values. -/
theorem Holds.pop_empty (hholds : arena.Holds arena.values.reverse) (hvalues : arena.values = [])
    (expected : DataType) (floor : Nat) :
    pop expected floor arena = .error .stackUnderflow arena := by
  rw [hvalues] at hholds
  exact hholds.packed.pop_nil expected floor

section Slot

variable {index : Nat}

/-- A slot lies below the top. -/
theorem Holds.live_slot (hholds : arena.Holds arena.values.reverse)
    (hvalue : arena.values[index]? = some value) :
    extent (arena.values.take index) + value.type.size ≤ arena.sp := by
  have hsplit := congrArg extent (reverse_eq_of_getElem? hvalue)
  rw [extent_reverse, ← hholds.sp_eq_extent] at hsplit
  simp only [extent, List.map_append, List.map_cons, List.map_reverse, totalSize_append,
    totalSize_cons, totalSize_reverse] at hsplit ⊢
  omega

/-- Reading a slot gives its element. -/
theorem Holds.read_slot (hholds : arena.Holds arena.values.reverse)
    (hvalue : arena.values[index]? = some value) :
    arena.read (extent (arena.values.take index)) value.type = .ok value := by
  rw [reverse_eq_of_getElem? hvalue] at hholds
  rw [← extent_reverse]
  exact hholds.read_eq

/-- Writing a slot replaces its element. -/
theorem Holds.write_slot (hholds : arena.Holds arena.values.reverse)
    (hvalue : arena.values[index]? = some value) {fresh : Value} (htype : fresh.type = value.type) :
    ∃ next, write (extent (arena.values.take index)) fresh arena = .ok () next ∧
      next.values = arena.values.set index fresh.stored := by
  have hlt : index < arena.values.length := (List.getElem?_eq_some_iff.mp hvalue).1
  have hlive : extent (arena.values.take index) + fresh.size ≤ arena.sp := by
    rw [Value.size, htype]
    exact hholds.live_slot hvalue
  refine ⟨arena.overwritten (extent (arena.values.take index)) fresh.bytes, ?_, ?_⟩
  · rw [write_eq, if_pos hlive]
  · rw [reverse_eq_of_getElem? hvalue] at hholds
    have hwritten := (hholds.overwritten htype).values_eq
    rw [← extent, extent_reverse] at hwritten
    rw [hwritten, List.set_eq_take_append_cons_drop, if_pos hlt]
    simp

/-- Truncation at the end of the first elements keeps these. -/
theorem Holds.truncate_take (hholds : arena.Holds arena.values.reverse) (index : Nat) :
    (arena.truncate (extent (arena.values.take index))).Holds
      (arena.values.take index).reverse := by
  rw [← List.take_append_drop index arena.values, List.reverse_append] at hholds
  have hpacked := hholds.packed
  rw [List.map_append] at hpacked
  rw [← extent_reverse, extent, hpacked.truncate_eq]
  exact hholds.restrict _

end Slot

/-! ### The check of topmost types -/

/-- The types of the values are those of the tags. -/
theorem map_type_values (arena : Arena) :
    arena.values.map Value.type = arena.tags.reverse.map Prod.snd := by
  rw [values, List.map_map]
  rfl

/-- More values take at least as many bytes. -/
theorem extent_take_le {values : List Value} {few many : Nat} (hle : few ≤ many) :
    extent (values.take few) ≤ extent (values.take many) := by
  have hsplit : values.take many = values.take few ++ (values.take many).drop few := by
    conv_lhs => rw [← List.take_append_drop few (values.take many)]
    rw [List.take_take, Nat.min_eq_left hle]
  rw [hsplit, extent, extent, List.map_append, totalSize_append]
  exact Nat.le_add_right _ _

/-- The tags of the values from an index on stand at or above the start of the first of
them. -/
theorem Holds.le_of_mem_drop (hholds : arena.Holds arena.values.reverse) {index : Nat}
    {tag : Nat × DataType} (htag : tag ∈ arena.tags.reverse.drop index) :
    extent (arena.values.take index) ≤ tag.1 := by
  obtain ⟨after, hafter⟩ := List.mem_iff_getElem?.mp htag
  rw [List.getElem?_drop] at hafter
  have hsame := hholds.tag_of_getElem? (getElem?_values_of_tag hafter)
  rw [hafter, Option.some.injEq] at hsame
  rw [hsame]
  exact extent_take_le (Nat.le_add_right index after)

/-- The check starts with the lowest of the values, so that one decides about the floor. -/
theorem Holds.checkTags_below (hholds : arena.Holds arena.values.reverse) {index floor : Nat}
    {types : List DataType} (hindex : index < arena.values.length) (hsome : types ≠ [])
    (hbelow : extent (arena.values.take index) < floor) :
    checkTags floor (arena.tags.reverse.drop index) types = .error .stackUnderflow := by
  obtain ⟨type, rest, rfl⟩ := List.exists_cons_of_ne_nil hsome
  have htag := hholds.tag_of_getElem? (List.getElem?_eq_getElem hindex)
  obtain ⟨hlt, htag⟩ := List.getElem?_eq_some_iff.mp htag
  rw [List.drop_eq_getElem_cons hlt, htag, checkTags, if_pos hbelow]

/-- The check compares the types of the last values, the lowest of which must lie above
the floor. -/
theorem Holds.checkTop_eq (hholds : arena.Holds arena.values.reverse) (types : List DataType)
    (floor : Nat) :
    arena.checkTop types floor =
      if arena.values.length < types.length then .error .stackUnderflow
      else
        let front := arena.values.length - types.length
        if types ≠ [] ∧ extent (arena.values.take front) < floor then .error .stackUnderflow
        else matchTypes ((arena.values.drop front).map Value.type) types := by
  have hlength : arena.tags.length = arena.values.length := by simp [values]
  rw [checkTop]
  by_cases hshort : arena.values.length < types.length
  · simp [hlength, hshort]
  · have hfull : ¬ (arena.tags.take types.length).length < types.length := by
      simp only [List.length_take]
      omega
    have htop : (arena.tags.take types.length).reverse =
        arena.tags.reverse.drop (arena.values.length - types.length) := by
      rw [List.reverse_take, hlength]
    have htypes : (arena.values.drop (arena.values.length - types.length)).map Value.type =
        (arena.tags.reverse.drop (arena.values.length - types.length)).map Prod.snd := by
      rw [List.map_drop, map_type_values, ← List.map_drop]
    simp only [if_neg hshort, if_neg hfull, htop, htypes]
    split_ifs with hfloor
    · obtain ⟨hsome, hlow⟩ := hfloor
      have hpos : 0 < types.length := List.length_pos_iff.mpr hsome
      exact hholds.checkTags_below (by omega) hsome hlow
    · by_cases hnone : types = []
      · simp [hnone, checkTags, matchTypes]
      · have hlow : floor ≤ extent (arena.values.take (arena.values.length - types.length)) :=
          Nat.not_lt.mp fun hlt => hfloor ⟨hnone, hlt⟩
        exact checkTags_eq_matchTypes
          (fun tag htag => Nat.le_trans hlow (hholds.le_of_mem_drop htag)) types

end Steps

/-! ## What a history keeps -/

namespace Operation

/-- The arena that an operation leaves when it succeeds. -/
inductive Effect (arena : Arena) : Operation → Arena → Prop
  | push {value : Value} (hstorable : value.type ≠ .void)
      (hroom : arena.sp + value.size ≤ arena.capacity) :
      Effect arena (.push value) (arena.pushed value)
  | pop {expected : DataType} {floor offset : Nat} {tags : List (Nat × DataType)}
      (htags : arena.tags = (offset, expected) :: tags) :
      Effect arena (.pop expected floor) { arena with sp := offset, tags }
  | checkTop {types : List DataType} {floor : Nat} : Effect arena (.checkTop types floor) arena
  | read {offset : Nat} {type : DataType} : Effect arena (.read offset type) arena
  | write {offset : Nat} {value : Value} (hlive : offset + value.size ≤ arena.sp) :
      Effect arena (.write offset value) (arena.overwritten offset value.bytes)
  | truncate {offset : Nat} : Effect arena (.truncate offset) (arena.truncate offset)
  | clear : Effect arena .clear arena.clear

/-- The two ways in which a question is answered. -/
theorem ask_cases {α : Type} (question : Arena → Except Fault α) (arena : Arena) :
    (∃ fault, ask question arena = .error fault arena) ∨ ask question arena = .ok () arena := by
  unfold ask
  cases question arena with
  | error fault => exact .inl ⟨fault, rfl⟩
  | ok answer => exact .inr rfl

/-- An operation fails and leaves the arena as it is, or it has its effect. -/
theorem run_cases (operation : Operation) (arena : Arena) :
    (∃ fault, operation.run arena = .error fault arena) ∨
      ∃ next, operation.run arena = .ok () next ∧ Effect arena operation next := by
  cases operation with
  | push value =>
    simp only [run, Functor.map, EStateM.map, push_eq]
    split_ifs with hvoid hfull
    · exact .inl ⟨_, rfl⟩
    · exact .inl ⟨_, rfl⟩
    · exact .inr ⟨_, rfl, .push hvoid (Nat.not_lt.mp hfull)⟩
  | pop expected floor =>
    simp only [run, Functor.map, EStateM.map, Arena.pop]
    cases htags : arena.tags with
    | nil => exact .inl ⟨_, rfl⟩
    | cons tag tags =>
      obtain ⟨offset, found⟩ := tag
      dsimp only
      split_ifs with hfloor hfound
      · exact .inl ⟨_, rfl⟩
      · exact .inl ⟨_, rfl⟩
      · obtain rfl : found = expected := not_not.mp hfound
        exact .inr ⟨_, rfl, .pop htags⟩
  | checkTop types floor =>
    obtain herror | hok := ask_cases (fun arena => arena.checkTop types floor) arena
    · exact .inl herror
    · exact .inr ⟨arena, hok, .checkTop⟩
  | read offset type =>
    obtain herror | hok := ask_cases (fun arena => arena.read offset type) arena
    · exact .inl herror
    · exact .inr ⟨arena, hok, .read⟩
  | write offset value =>
    simp only [run, write_eq]
    split_ifs with hlive
    · exact .inr ⟨_, rfl, .write hlive⟩
    · exact .inl ⟨_, rfl⟩
  | truncate offset => exact .inr ⟨_, rfl, .truncate⟩
  | clear => exact .inr ⟨_, rfl, .clear⟩

variable {operation : Operation} {arena : Arena}

/-- The arena after an operation is the one before it, or has the operation's effect. -/
theorem next_cases (operation : Operation) (arena : Arena) :
    operation.next arena = arena ∨ Effect arena operation (operation.next arena) := by
  unfold next
  obtain ⟨fault, hrun⟩ | ⟨next, hrun, heffect⟩ := operation.run_cases arena
  · rw [hrun]
    exact .inl rfl
  · rw [hrun]
    exact .inr heffect

/-- The number of bytes that an arena can take does not change. -/
theorem capacity_next (operation : Operation) (arena : Arena) :
    (operation.next arena).capacity = arena.capacity := by
  obtain hsame | heffect := operation.next_cases arena
  · rw [hsame]
  · generalize operation.next arena = next at heffect
    cases heffect <;> rfl

/-- The tags below the topmost one tile the arena up to it. -/
theorem tiled_below {offset : Nat} {type : DataType} {tags : List (Nat × DataType)}
    (htiled : arena.Tiled) (htags : arena.tags = (offset, type) :: tags) :
    ({ arena with sp := offset, tags } : Arena).Tiled := by
  obtain ⟨types, hpacked⟩ := htiled
  rw [hpacked.tags_eq] at htags
  cases types with
  | nil => cases htags
  | cons top below =>
    obtain ⟨⟨rfl, rfl⟩, rfl⟩ := htags
    exact ⟨below, Packed.restrict [_] hpacked⟩

/-- Truncation at a slot or at the top leaves the tags without gaps. -/
theorem tiled_truncate {offset : Nat} (htiled : arena.Tiled)
    (hslot : offset = arena.sp ∨ offset ∈ arena.tags.map Prod.fst) :
    (arena.truncate offset).Tiled := by
  have hholds : arena.Holds arena.values.reverse := htiled.holds_values
  obtain ⟨index, rfl⟩ : ∃ index, offset = extent (arena.values.take index) := by
    rcases hslot with rfl | hmem
    · exact ⟨arena.values.length, by rw [List.take_length, hholds.sp_eq_extent]⟩
    · obtain ⟨⟨_, type⟩, htag, rfl⟩ := List.mem_map.mp hmem
      obtain ⟨index, hindex⟩ := List.mem_iff_getElem?.mp (List.mem_reverse.mpr htag)
      obtain ⟨-, -, -, hoffset⟩ := hholds.slot_iff.mp hindex
      exact ⟨index, hoffset⟩
  exact ⟨_, (hholds.truncate_take index).packed⟩

/-- A permitted operation leaves the tags without gaps. -/
theorem tiled_next (htiled : arena.Tiled) (hpermitted : operation.Permitted arena) :
    (operation.next arena).Tiled := by
  obtain hsame | heffect := operation.next_cases arena
  · rwa [hsame]
  have ⟨types, hpacked⟩ := htiled
  generalize operation.next arena = next at heffect
  cases heffect with
  | push hstorable hroom => exact ⟨_, hpacked.pushed hstorable hroom⟩
  | pop htags => exact tiled_below htiled htags
  | checkTop => exact htiled
  | read => exact htiled
  | write hlive => exact ⟨types, hpacked.overwritten (by simpa using hlive)⟩
  | truncate => exact tiled_truncate htiled hpermitted
  | clear => exact ⟨[], packed_clear hpacked.bytes_le⟩

end Operation

/-- A new arena has no tags, so nothing lies between them. -/
theorem tiled_new (size : Nat) : (Arena.new size).Tiled :=
  ⟨[], rfl, rfl, Nat.zero_le _, Nat.zero_le _, by simp⟩

/-- The tags have no gaps after any history. -/
theorem Reached.tiled {size : Nat} {arena : Arena} (hreached : Reached size arena) :
    arena.Tiled := by
  induction hreached with
  | new => exact tiled_new size
  | next operation _ hpermitted ih => exact Operation.tiled_next ih hpermitted

/-- An arena has the size that was asked for, up to the largest one, after any history. -/
theorem Reached.capacity_eq {size : Nat} {arena : Arena} (hreached : Reached size arena) :
    arena.capacity = min size maxArenaSize := by
  induction hreached with
  | new => rfl
  | next operation _ _ ih => rw [operation.capacity_next, ih]

/-! ## The refinement -/

/-- The arena acts as the list of its values. -/
structure ActsAsList (arena : Arena) : Prop where
  /-- The top lies where the values end. -/
  sp_eq : arena.sp = extent arena.values
  /-- A value that finds room is appended, without the bits above its width. -/
  push_room : ∀ value : Value, value.type ≠ .void → arena.sp + value.size ≤ arena.capacity →
    ∃ next, push value arena = .ok arena.sp next ∧ next.values = arena.values ++ [value.stored]
  /-- A value that finds no room is refused. -/
  push_full : ∀ value : Value, value.type ≠ .void → arena.capacity < arena.sp + value.size →
    push value arena = .error .stackOverflow arena
  /-- Nothing can be popped from the empty list. -/
  pop_empty : arena.values = [] → ∀ expected floor,
    pop expected floor arena = .error .stackUnderflow arena
  /-- The last element is popped when it lies above the floor and has the type. -/
  pop_concat : ∀ front last, arena.values = front ++ [last] → ∀ expected floor,
    ∃ next, next.values = front ∧
      pop expected floor arena =
        if extent front < floor then .error .stackUnderflow arena
        else if last.type ≠ expected then .error (.typeMismatch expected last.type) arena
        else .ok last next
  /-- The last elements are compared when the lowest of them lies above the floor. -/
  checkTop_eq : ∀ types floor,
    arena.checkTop types floor =
      if arena.values.length < types.length then .error .stackUnderflow
      else
        let front := arena.values.length - types.length
        if types ≠ [] ∧ extent (arena.values.take front) < floor then .error .stackUnderflow
        else matchTypes ((arena.values.drop front).map Value.type) types
  /-- The slots are the places where elements start. -/
  slot : ∀ index offset type, arena.tags.reverse[index]? = some (offset, type) ↔
    ∃ value, arena.values[index]? = some value ∧ value.type = type ∧
      offset = extent (arena.values.take index)
  /-- Reading a slot gives its element. -/
  read_slot : ∀ index value, arena.values[index]? = some value →
    arena.read (extent (arena.values.take index)) value.type = .ok value
  /-- Writing a slot replaces its element. -/
  write_slot : ∀ index value fresh, arena.values[index]? = some value → fresh.type = value.type →
    ∃ next, write (extent (arena.values.take index)) fresh arena = .ok () next ∧
      next.values = arena.values.set index fresh.stored
  /-- Truncation at a slot or at the top keeps the elements before it. -/
  truncate_take : ∀ index ≤ arena.values.length,
    (arena.truncate (extent (arena.values.take index))).values = arena.values.take index
  /-- Clearing leaves the empty list. -/
  clear_eq : arena.clear.values = []
  /-- An operation that fails leaves the arena as it is. -/
  unchanged : ∀ (operation : Operation) fault next,
    operation.run arena = .error fault next → next = arena

/-- A tiled arena acts as the list of its values. -/
theorem Tiled.actsAsList {arena : Arena} (htiled : arena.Tiled) : arena.ActsAsList := by
  have hholds : arena.Holds arena.values.reverse := htiled.holds_values
  refine
    { sp_eq := hholds.sp_eq_extent
      push_room := fun value hstorable hroom => hholds.push_room hstorable hroom
      push_full := ?_
      pop_empty := fun hvalues => hholds.pop_empty hvalues
      pop_concat := fun front last hvalues => hholds.pop_concat hvalues
      checkTop_eq := hholds.checkTop_eq
      slot := fun index offset type => hholds.slot_iff
      read_slot := fun index value hvalue => hholds.read_slot hvalue
      write_slot := fun index value fresh hvalue htype => hholds.write_slot hvalue htype
      truncate_take := ?_
      clear_eq := rfl
      unchanged := ?_ }
  · intro value hstorable hfull
    rw [push_eq, if_neg hstorable, if_pos hfull]
  · intro index _
    rw [(hholds.truncate_take index).values_eq, List.reverse_reverse]
  · intro operation fault next herror
    obtain ⟨_, hrun⟩ | ⟨_, hrun, _⟩ := operation.run_cases arena
    · rw [hrun] at herror
      cases herror
      rfl
    · rw [hrun] at herror
      cases herror

/-- After every history of permitted operations an arena has the size that was asked for,
up to the largest one, and acts as the list of its values. -/
theorem actsAsList_of_reached {size : Nat} {arena : Arena} (hreached : Reached size arena) :
    arena.capacity = min size maxArenaSize ∧ arena.ActsAsList :=
  ⟨hreached.capacity_eq, hreached.tiled.actsAsList⟩

/-- An arena with values of three widths, the second of which was overwritten after a pop
that failed.  The pattern of the last one had bits above its width. -/
def assorted : Arena :=
  [.push ⟨.i32, 70000⟩, .push ⟨.u16, 1⟩, .pop .i32 0, .write 4 ⟨.u16, 513⟩,
    .push ⟨.u8, 0x1ff⟩].foldl (fun arena operation => Operation.next operation arena)
      (Arena.new 8)

theorem actsAsList_of_reached_assorted :
    Reached 8 assorted ∧
      assorted.values = [⟨.i32, 70000⟩, ⟨.u16, 513⟩, ⟨.u8, 255⟩] ∧
        assorted.capacity = 8 ∧ assorted.ActsAsList := by
  have hreached : Reached 8 assorted :=
    ((((Reached.new.next (.push ⟨.i32, 70000⟩) (by decide)).next (.push ⟨.u16, 1⟩) (by decide)).next
      (.pop .i32 0) (by decide)).next (.write 4 ⟨.u16, 513⟩) (by decide)).next
        (.push ⟨.u8, 0x1ff⟩) (by decide)
  exact ⟨hreached, by decide, actsAsList_of_reached hreached⟩

end Arena

end StackCode
