import StackCode.Proofs.Memory.StoredBytes

/-!
# The arena as a list of typed values

The tags of the arena say where each value lies.  When they tile it without gaps, the
arena is nothing but a list of typed values, and every operation on its bytes is an
operation on that list.  Lists of types and of values are given topmost first, as the
tags are.

Main definitions:

- `totalSize`: the bytes that values of given types take.
- `Arena.Packed`: the tags tile the arena with values of given types.
- `Arena.Holds`: the arena is packed with exactly the given values.
- `Arena.restrict`: the lowest values of an arena.
- `Arena.matchTop`: the check of topmost types, said without offsets.

Main results:

- Theorems `Arena.Packed.pushed`, `Arena.Packed.pop_cons`, `Arena.Packed.truncate_eq` and
  `Arena.Packed.checkTop_eq`: what the operations do to a packed arena.
- Theorems `Arena.contents_congr`, `Arena.byteAt_eq_of_contents`: bytes and values determine
  each other.
- Theorems `Arena.Holds.pushed`, `Arena.Holds.restrict`, `Arena.Holds.read_eq` and
  `Arena.Holds.write`: what they do to its values.
-/

namespace StackCode

/-! ## Sizes -/

/-- Number of bytes that values of the given types take. -/
def totalSize (types : List DataType) : Nat := (types.map DataType.size).sum

@[simp]
theorem totalSize_nil : totalSize [] = 0 :=
  rfl

@[simp]
theorem totalSize_cons (type : DataType) (types : List DataType) :
    totalSize (type :: types) = type.size + totalSize types := by
  simp [totalSize]

@[simp]
theorem totalSize_append (types others : List DataType) :
    totalSize (types ++ others) = totalSize types + totalSize others := by
  simp [totalSize]

@[simp]
theorem totalSize_reverse (types : List DataType) :
    totalSize types.reverse = totalSize types := by
  simp [totalSize, List.sum_reverse]

/-- A type that has storage takes at least one byte. -/
theorem DataType.size_pos {type : DataType} (hstorable : type ≠ .void) : 0 < type.size :=
  Nat.pos_of_ne_zero fun hzero => hstorable (type.size_eq_zero_iff.mp hzero)

namespace Arena

/-! ## Tags without gaps -/

/-- The tags of packed values whose types are given topmost first. -/
def packedTags : List DataType → List (Nat × DataType)
  | [] => []
  | type :: below => (totalSize below, type) :: packedTags below

/-- The types of packed tags are the types they were made for. -/
@[simp]
theorem map_snd_packedTags (types : List DataType) : (packedTags types).map Prod.snd = types := by
  induction types with
  | nil => rfl
  | cons type below ih => simp [packedTags, ih]

@[simp]
theorem length_packedTags (types : List DataType) : (packedTags types).length = types.length := by
  have hlength := congrArg List.length (map_snd_packedTags types)
  rw [List.length_map] at hlength
  exact hlength

/-- Values on top of others lie above all of their bytes. -/
theorem packedTags_append (above below : List DataType) :
    packedTags (above ++ below) =
      (packedTags above).map (fun tag => (tag.1 + totalSize below, tag.2)) ++
        packedTags below := by
  induction above with
  | nil => rfl
  | cons type above ih => simp [packedTags, ih]

/-- Every packed value starts below the end of all of them. -/
theorem offset_lt_of_mem_packedTags {types : List DataType} {tag : Nat × DataType}
    (hstorable : .void ∉ types) (htag : tag ∈ packedTags types) : tag.1 < totalSize types := by
  induction types with
  | nil => simp [packedTags] at htag
  | cons type below ih =>
    have hpos : 0 < type.size := DataType.size_pos fun hvoid => hstorable (by simp [hvoid])
    rcases List.mem_cons.mp htag with rfl | hbelow
    · simp only [totalSize_cons]
      omega
    · have hlt := ih (fun hvoid => hstorable (List.mem_cons_of_mem _ hvoid)) hbelow
      simp only [totalSize_cons]
      omega

/-- Dropping the tags at or above the end of the lowest values leaves these. -/
theorem dropWhile_packedTags {above below : List DataType} (hstorable : .void ∉ below) :
    (packedTags (above ++ below)).dropWhile (fun tag => decide (totalSize below ≤ tag.1)) =
      packedTags below := by
  rw [packedTags_append, List.dropWhile_append_of_pos]
  · cases below with
    | nil => rfl
    | cons type rest =>
      have hmember : (totalSize rest, type) ∈ packedTags (type :: rest) := by simp [packedTags]
      have hlt := offset_lt_of_mem_packedTags hstorable hmember
      rw [packedTags, List.dropWhile_cons_of_neg]
      simp only [decide_eq_true_eq, Nat.not_le]
      exact hlt
  · intro tag htag
    obtain ⟨lower, -, rfl⟩ := List.mem_map.mp htag
    simp

/-! ## Packed arenas -/

/-- The tags tile the arena with values of the given types: each value starts where
the one below it ends, the lowest at zero, and the topmost ends at the top, which lies
within the capacity. -/
structure Packed (arena : Arena) (types : List DataType) : Prop where
  tags_eq : arena.tags = packedTags types
  sp_eq : arena.sp = totalSize types
  sp_le : arena.sp ≤ arena.capacity
  bytes_le : arena.bytes.size ≤ arena.capacity
  storable : .void ∉ types

/-- An arena without values is packed when its bytes fit. -/
theorem packed_clear {arena : Arena} (hbytes : arena.bytes.size ≤ arena.capacity) :
    arena.clear.Packed [] :=
  ⟨rfl, rfl, Nat.zero_le _, hbytes, by simp⟩

/-- The arena with only the lowest values, whose types are given. -/
def restrict (arena : Arena) (types : List DataType) : Arena :=
  { arena with sp := totalSize types, tags := packedTags types }

/-- The arena after a value was pushed. -/
def pushed (arena : Arena) (value : Value) : Arena :=
  { arena with
    bytes := setBytes arena.bytes arena.sp value.bytes
    sp := arena.sp + value.size
    tags := (arena.sp, value.type) :: arena.tags }

/-- The three outcomes of a push. -/
theorem push_eq (value : Value) (arena : Arena) :
    push value arena =
      if value.type = .void then .error (.unsupportedType .push .void) arena
      else if arena.capacity < arena.sp + value.size then .error .stackOverflow arena
      else .ok arena.sp (arena.pushed value) :=
  rfl

/-- The arena after bytes were overwritten. -/
def overwritten (arena : Arena) (offset : Nat) (bytes : List UInt8) : Arena :=
  { arena with bytes := setBytes arena.bytes offset bytes }

/-- The two outcomes of a write. -/
theorem write_eq (offset : Nat) (value : Value) (arena : Arena) :
    write offset value arena =
      if offset + value.size ≤ arena.sp then .ok () (arena.overwritten offset value.bytes)
      else .error (deadOffset offset) arena :=
  rfl

section Packed

variable {arena : Arena} {type : DataType} {types above below : List DataType}

/-- The lowest values of a packed arena are packed. -/
theorem Packed.restrict (above : List DataType) (hpacked : arena.Packed (above ++ below)) :
    (arena.restrict below).Packed below := by
  have hsp := hpacked.sp_eq
  have hfits := hpacked.sp_le
  rw [totalSize_append] at hsp
  refine ⟨rfl, rfl, ?_, hpacked.bytes_le, ?_⟩
  · simp only [Arena.restrict]
    omega
  · exact fun hvoid => hpacked.storable (List.mem_append_right _ hvoid)

/-- A pushed value lies on top of the others. -/
theorem Packed.pushed {value : Value} (hpacked : arena.Packed types)
    (hstorable : value.type ≠ .void) (hroom : arena.sp + value.size ≤ arena.capacity) :
    (arena.pushed value).Packed (value.type :: types) := by
  have hgrowth := size_setBytes_le arena.bytes arena.sp value.bytes
  have hbytes := hpacked.bytes_le
  rw [Value.length_bytes] at hgrowth
  refine ⟨?_, ?_, hroom, ?_, ?_⟩
  · simp [Arena.pushed, packedTags, hpacked.tags_eq, hpacked.sp_eq]
  · simp [Arena.pushed, Value.size, hpacked.sp_eq, Nat.add_comm]
  · simp only [Arena.pushed]
    omega
  · simpa using ⟨fun h => hstorable h.symm, hpacked.storable⟩

/-- Overwriting live bytes keeps an arena packed. -/
theorem Packed.overwritten {offset : Nat} {bytes : List UInt8} (hpacked : arena.Packed types)
    (hlive : offset + bytes.length ≤ arena.sp) : (arena.overwritten offset bytes).Packed types := by
  have hgrowth := size_setBytes_le arena.bytes offset bytes
  have hbytes := hpacked.bytes_le
  have hfits := hpacked.sp_le
  refine ⟨hpacked.tags_eq, hpacked.sp_eq, hpacked.sp_le, ?_, hpacked.storable⟩
  simp only [Arena.overwritten]
  omega

/-- Popping from an arena without values. -/
theorem Packed.pop_nil (hpacked : arena.Packed []) (expected : DataType) (floor : Nat) :
    pop expected floor arena = .error .stackUnderflow arena := by
  simp [pop, hpacked.tags_eq, packedTags]

/-- Popping takes the topmost value when it lies above the floor and has the type. -/
theorem Packed.pop_cons (hpacked : arena.Packed (type :: below)) (expected : DataType)
    (floor : Nat) :
    pop expected floor arena =
      if totalSize below < floor then .error .stackUnderflow arena
      else if type ≠ expected then .error (.typeMismatch expected type) arena
      else .ok (arena.valueAt type (totalSize below)) (arena.restrict below) := by
  simp only [pop, hpacked.tags_eq, packedTags, Arena.restrict]

/-- Truncation at the end of the lowest values leaves these. -/
theorem Packed.truncate_eq (hpacked : arena.Packed (above ++ below)) :
    arena.truncate (totalSize below) = arena.restrict below := by
  have hstorable : .void ∉ below := fun hvoid =>
    hpacked.storable (List.mem_append_right _ hvoid)
  have hle : totalSize below ≤ arena.sp := by
    rw [hpacked.sp_eq, totalSize_append]
    omega
  simp only [truncate, if_pos hle, hpacked.tags_eq, dropWhile_packedTags hstorable,
    Arena.restrict]

end Packed

/-! ## The check of topmost types -/

/-- Whether found types are the expected ones, the first difference being a fault. -/
def matchTypes : List DataType → List DataType → Except Fault Unit
  | found :: others, expected :: types =>
    if found ≠ expected then .error (.typeMismatch expected found) else matchTypes others types
  | _, _ => .ok ()

/-- Whether the topmost of the found types, which are given topmost first, are the
expected ones, the last on top. -/
def matchTop (found expected : List DataType) : Except Fault Unit :=
  if found.length < expected.length then .error .stackUnderflow
  else matchTypes (found.take expected.length).reverse expected

/-- Types match when they are equal. -/
theorem matchTypes_eq_ok_iff {found expected : List DataType}
    (hlength : found.length = expected.length) :
    matchTypes found expected = .ok () ↔ found = expected := by
  induction found generalizing expected with
  | nil =>
    cases expected with
    | nil => simp [matchTypes]
    | cons type types => simp at hlength
  | cons type others ih =>
    cases expected with
    | nil => simp at hlength
    | cons expected types =>
      have htail := ih (Nat.succ.inj hlength)
      by_cases hhead : type = expected
      · simp [matchTypes, hhead, htail]
      · simp [matchTypes, hhead]

/-- The topmost types match when they are the expected ones in reverse. -/
theorem matchTop_eq_ok_iff (found expected : List DataType) :
    matchTop found expected = .ok () ↔ ∃ below, found = expected.reverse ++ below := by
  unfold matchTop
  by_cases hshort : found.length < expected.length
  · rw [if_pos hshort]
    refine ⟨fun h => by simp at h, ?_⟩
    rintro ⟨below, rfl⟩
    simp only [List.length_append, List.length_reverse] at hshort
    omega
  · have hlength : (found.take expected.length).reverse.length = expected.length := by
      simp only [List.length_reverse, List.length_take]
      omega
    rw [if_neg hshort, matchTypes_eq_ok_iff hlength]
    constructor
    · intro heq
      have htake : expected.reverse = found.take expected.length := by
        rw [← heq, List.reverse_reverse, heq]
      exact ⟨found.drop expected.length, by rw [htake, List.take_append_drop]⟩
    · rintro ⟨below, rfl⟩
      have hlength : expected.length = expected.reverse.length := List.length_reverse.symm
      rw [hlength, List.take_left, List.reverse_reverse]

/-- Above the floor the check of tags is a check of their types. -/
theorem checkTags_eq_matchTypes {floor : Nat} {tags : List (Nat × DataType)}
    (habove : ∀ tag ∈ tags, floor ≤ tag.1) (expected : List DataType) :
    checkTags floor tags expected = matchTypes (tags.map Prod.snd) expected := by
  induction tags generalizing expected with
  | nil => simp [checkTags, matchTypes]
  | cons tag tags ih =>
    cases expected with
    | nil => simp [checkTags, matchTypes]
    | cons type types =>
      have hhead : ¬ tag.1 < floor := Nat.not_lt.mpr (habove tag (by simp))
      have htail := ih (fun other hother => habove other (List.mem_cons_of_mem _ hother)) types
      simp only [checkTags, if_neg hhead, List.map_cons, matchTypes, htail]

/-- The check of topmost values of a packed arena compares the types above the floor. -/
theorem Packed.checkTop_eq {arena : Arena} {operands below : List DataType}
    (hpacked : arena.Packed (operands ++ below)) (expected : List DataType) :
    arena.checkTop expected (totalSize below) = matchTop operands expected := by
  have hstorable : .void ∉ below := fun hvoid =>
    hpacked.storable (List.mem_append_right _ hvoid)
  have hlower : ((packedTags operands).map
      (fun tag => (tag.1 + totalSize below, tag.2))).length = operands.length := by
    simp
  unfold checkTop matchTop
  rw [hpacked.tags_eq, packedTags_append]
  by_cases hshort : operands.length < expected.length
  · rw [if_pos hshort, List.take_append, hlower,
      List.take_of_length_le (by rw [hlower]; omega)]
    -- The lowest tag that is looked at lies in the values below the floor.
    cases hrest : ((packedTags below).take (expected.length - operands.length)).reverse with
    | nil =>
      have hnone : ((packedTags below).take (expected.length - operands.length)) = [] := by
        simpa using hrest
      simp [hnone, hshort]
    | cons lowest others =>
      have hmem : lowest ∈ packedTags below := by
        have : lowest ∈ ((packedTags below).take (expected.length - operands.length)).reverse := by
          rw [hrest]
          simp
        exact List.mem_of_mem_take (List.mem_reverse.mp this)
      have hdeep : lowest.1 < totalSize below := offset_lt_of_mem_packedTags hstorable hmem
      simp only [List.reverse_append, hrest]
      cases expected with
      | nil => simp at hshort
      | cons type types =>
        simp [checkTags, hdeep]
  · have hle : expected.length ≤ operands.length := Nat.not_lt.mp hshort
    rw [if_neg hshort, List.take_append_of_le_length (by rw [hlower]; exact hle), if_neg]
    · rw [checkTags_eq_matchTypes]
      · rw [List.map_reverse, List.map_take, List.map_map]
        have htypes : Prod.snd ∘ (fun tag : Nat × DataType => (tag.1 + totalSize below, tag.2)) =
            Prod.snd := rfl
        rw [htypes, map_snd_packedTags]
      · intro tag htag
        obtain ⟨lower, -, rfl⟩ := List.mem_map.mp (List.mem_of_mem_take (List.mem_reverse.mp htag))
        simp
    · rw [List.length_take, hlower]
      omega

/-! ## Values -/

/-- The values of the given types that lie packed in the arena. -/
def contents (arena : Arena) : List DataType → List Value
  | [] => []
  | type :: below => arena.valueAt type (totalSize below) :: arena.contents below

/-- The arena is packed with exactly the given values. -/
structure Holds (arena : Arena) (values : List Value) : Prop where
  packed : arena.Packed (values.map Value.type)
  contents_eq : arena.contents (values.map Value.type) = values

/-- Values depend only on the bytes below their end. -/
theorem contents_congr {arena other : Arena} {types : List DataType}
    (hbytes : ∀ i < totalSize types, arena.byteAt i = other.byteAt i) :
    arena.contents types = other.contents types := by
  induction types with
  | nil => rfl
  | cons type below ih =>
    rw [totalSize_cons] at hbytes
    have hslice : arena.slice (totalSize below) type.size =
        other.slice (totalSize below) type.size := by
      apply List.map_congr_left
      intro i hi
      exact hbytes _ (by have := List.mem_range.mp hi; omega)
    simp only [contents, valueAt, hslice, ih fun i hi => hbytes i (by omega)]

@[simp]
theorem length_slice (arena : Arena) (offset length : Nat) :
    (arena.slice offset length).length = length := by
  simp [slice]

/-- A value is stored in the bytes it is read from. -/
theorem bytes_valueAt (arena : Arena) (type : DataType) (offset : Nat) :
    (arena.valueAt type offset).bytes = arena.slice offset type.size :=
  Value.bytes_ofBytes (by simp)

/-- Values determine the bytes below their end. -/
theorem byteAt_eq_of_contents {arena other : Arena} {types : List DataType}
    (hcontents : arena.contents types = other.contents types) {i : Nat}
    (hi : i < totalSize types) : arena.byteAt i = other.byteAt i := by
  induction types with
  | nil => simp at hi
  | cons type below ih =>
    rw [contents, contents, List.cons.injEq] at hcontents
    rw [totalSize_cons] at hi
    by_cases hbelow : i < totalSize below
    · exact ih hcontents.2 hbelow
    · have hslice : arena.slice (totalSize below) type.size =
          other.slice (totalSize below) type.size := by
        rw [← bytes_valueAt, ← bytes_valueAt, hcontents.1]
      have hbyte := congrArg (fun bytes => bytes[i - totalSize below]?) hslice
      have hinside : i - totalSize below < type.size := by omega
      have hoffset : totalSize below + (i - totalSize below) = i := by omega
      simpa [slice, List.getElem?_range hinside, hoffset] using hbyte

/-- Setting bytes at or above the end of values does not change them. -/
theorem contents_overwritten_above (arena : Arena) {types : List DataType} {offset : Nat}
    (habove : totalSize types ≤ offset) (bytes : List UInt8) :
    (arena.overwritten offset bytes).contents types = arena.contents types := by
  apply contents_congr
  intro i hi
  simp only [byteAt, Arena.overwritten, getD_setBytes]
  rw [if_neg (by omega)]

/-- A value that was just written is read back as it is stored. -/
theorem valueAt_overwritten (arena : Arena) (value : Value) (offset : Nat) :
    (arena.overwritten offset value.bytes).valueAt value.type offset = value.stored := by
  have hslice := slice_setBytes_same arena offset value.bytes
  rw [Value.length_bytes] at hslice
  rw [← Value.ofBytes_bytes]
  exact congrArg (Value.ofBytes value.type) hslice

section Holds

variable {arena : Arena} {value : Value} {values above below : List Value}

/-- A pushed value is the topmost one. -/
theorem Holds.pushed (hholds : arena.Holds values) (hstorable : value.type ≠ .void)
    (hroom : arena.sp + value.size ≤ arena.capacity) :
    (arena.pushed value).Holds (value.stored :: values) := by
  refine ⟨hholds.packed.pushed hstorable hroom, ?_⟩
  have hbelow : (arena.pushed value).contents (values.map Value.type) = values := by
    have hsame : (arena.pushed value).contents (values.map Value.type) =
        (arena.overwritten arena.sp value.bytes).contents (values.map Value.type) :=
      contents_congr fun i _ => rfl
    rw [hsame, contents_overwritten_above arena (Nat.le_of_eq hholds.packed.sp_eq.symm),
      hholds.contents_eq]
  have hvalue : (arena.pushed value).valueAt value.type
      (totalSize (values.map Value.type)) = value.stored := by
    rw [← hholds.packed.sp_eq]
    exact arena.valueAt_overwritten value arena.sp
  simp only [List.map_cons, Value.type_stored, contents, hbelow, hvalue]

/-- The lowest values of an arena are still there when the others are dropped. -/
theorem Holds.restrict (above : List Value) (hholds : arena.Holds (above ++ below)) :
    (arena.restrict (below.map Value.type)).Holds below := by
  obtain ⟨hpacked, hcontents⟩ := hholds
  rw [List.map_append] at hpacked hcontents
  refine ⟨hpacked.restrict (above.map Value.type), ?_⟩
  have hsame : (arena.restrict (below.map Value.type)).contents (below.map Value.type) =
      arena.contents (below.map Value.type) := contents_congr fun i _ => rfl
  rw [hsame]
  clear hsame hpacked
  -- Values are listed topmost first, so the lowest ones are a tail of the list.
  induction above with
  | nil => simpa using hcontents
  | cons top above ih =>
    simp only [List.map_cons, List.cons_append, contents, List.cons.injEq] at hcontents
    exact ih hcontents.2

/-- A value is read at the offset where the values below it end. -/
theorem Holds.valueAt_eq (above : List Value)
    (hholds : arena.Holds (above ++ value :: below)) :
    arena.valueAt value.type (totalSize (below.map Value.type)) = value := by
  have hlower := (hholds.restrict above).contents_eq
  simp only [List.map_cons, contents, List.cons.injEq] at hlower
  exact hlower.1

/-- The bytes of a value start where the values below it end. -/
theorem Holds.slice_eq (above : List Value) (hholds : arena.Holds (above ++ value :: below)) :
    arena.slice (totalSize (below.map Value.type)) value.size = value.bytes := by
  rw [Value.size, ← bytes_valueAt, hholds.valueAt_eq above]

/-- Reading at the offset where the values below a value end gives that value. -/
theorem Holds.read_eq (hholds : arena.Holds (above ++ value :: below)) :
    arena.read (totalSize (below.map Value.type)) value.type = .ok value := by
  have hlive : totalSize (below.map Value.type) + value.type.size ≤ arena.sp := by
    rw [hholds.packed.sp_eq]
    simp only [List.map_append, List.map_cons, totalSize_append, totalSize_cons]
    omega
  rw [read, if_pos hlive, hholds.valueAt_eq above]

/-- Overwriting one value leaves the others as they are. -/
theorem Holds.overwritten {fresh : Value} (hholds : arena.Holds (above ++ value :: below))
    (htype : fresh.type = value.type) :
    (arena.overwritten (totalSize (below.map Value.type)) fresh.bytes).Holds
      (above ++ fresh.stored :: below) := by
  obtain ⟨hpacked, hcontents⟩ := hholds
  have hlive : totalSize (below.map Value.type) + fresh.bytes.length ≤ arena.sp := by
    rw [hpacked.sp_eq, Value.length_bytes, Value.size, htype]
    simp only [List.map_append, List.map_cons, totalSize_append, totalSize_cons]
    omega
  have hsame : (above ++ fresh.stored :: below).map Value.type =
      (above ++ value :: below).map Value.type := by
    simp [htype]
  refine ⟨?_, ?_⟩
  · rw [hsame]
    exact hpacked.overwritten hlive
  · clear hsame hlive hpacked
    induction above with
    | nil =>
      simp only [List.nil_append, List.map_cons, contents, List.cons.injEq] at hcontents
      have hbelow := arena.contents_overwritten_above
        (Nat.le_refl (totalSize (below.map Value.type))) fresh.bytes
      simp only [List.nil_append, List.map_cons, Value.type_stored, contents,
        valueAt_overwritten, hbelow, hcontents.2]
    | cons top above ih =>
      simp only [List.cons_append, List.map_cons, contents, List.cons.injEq] at hcontents
      have hend : totalSize (below.map Value.type) + fresh.bytes.length ≤
          totalSize ((above ++ value :: below).map Value.type) := by
        rw [Value.length_bytes, Value.size, htype]
        simp only [List.map_append, List.map_cons, totalSize_append, totalSize_cons]
        omega
      have hbeside := slice_setBytes_beside arena top.type.size (.inr hend)
      have hsize : totalSize ((above ++ fresh.stored :: below).map Value.type) =
          totalSize ((above ++ value :: below).map Value.type) := by
        simp [htype]
      simp only [List.cons_append, List.map_cons, contents, ih hcontents.2, hsize]
      congr 1
      rw [← hcontents.1]
      exact congrArg (Value.ofBytes top.type) hbeside

end Holds

end Arena

end StackCode
