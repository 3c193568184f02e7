import Mathlib.Algebra.BigOperators.Group.Finset.Basic
import StackCode.Proofs.Memory.Accesses
import StackCode.Proofs.Memory.Strings

/-!
# Buffers of resources

A resource is copied into memory when it is first asked for, behind those that were asked
for before it, and stays there.  So the buffers of different indices lie side by side in the
order of the first requests, and nothing that happens to the memory afterwards moves or
changes them.

Main definitions:

- `Memory.firstRequest?`, `Memory.requested`: the requests in a history.
- `Memory.FirstAnswer`: the address that the first request for an index returns.
- `Memory.Buffered`: where the buffer of a resource lies.
- `Memory.ServedAt`: what a program sees of a buffer.

Main results:

- Theorem `Memory.Buffered.next`: no use of a memory touches a buffer.
- Theorem `Memory.Buffered.after`: nor does any history.
- Theorem `Memory.demand_eq_sum`: the bytes that a history demands.
- Theorem `Memory.buffers_after`: the buffers after any history.
-/

namespace StackCode.Memory

/-! ## Requests -/

/-- The resource that a use asks for under an index, if it asks for one. -/
def Operation.request? (index : ResourceIndex) : Operation → Option Resource
  | .place other resource => if other = index then some resource else none
  | _ => none

/-- The index under which a use asks for a resource, if it asks for one. -/
def Operation.index? : Operation → Option ResourceIndex
  | .place index _ => some index
  | _ => none

/-- The resource that is first asked for under an index. -/
def firstRequest? (operations : List Operation) (index : ResourceIndex) : Option Resource :=
  operations.findSome? (Operation.request? index)

/-- The indices under which resources are asked for. -/
def requested (operations : List Operation) : Finset ResourceIndex :=
  (operations.filterMap Operation.index?).toFinset

/-- Number of bytes of a resource in memory, with its terminator. -/
def bufferLength (resource : Resource) : Nat :=
  resource.bytes.length + resource.kind.terminatorLength

theorem length_terminated (resource : Resource) :
    resource.terminated.length = bufferLength resource := by
  simp [Resource.terminated, bufferLength]

/-- Number of bytes of the resource that is first asked for under an index. -/
def requestedLength (operations : List Operation) (index : ResourceIndex) : Nat :=
  ((firstRequest? operations index).map bufferLength).getD 0

/-- The first request of a history comes before those for the other indices. -/
theorem requestedLength_place (index other : ResourceIndex) (resource : Resource)
    (rest : List Operation) :
    requestedLength (.place index resource :: rest) other =
      if index = other then bufferLength resource else requestedLength rest other := by
  unfold requestedLength firstRequest?
  rw [List.findSome?_cons, Operation.request?]
  by_cases hsame : index = other
  · simp [hsame]
  · simp [hsame]

/-- A request adds nothing to the bytes that are asked for under other indices. -/
theorem sum_requestedLength_place {index : ResourceIndex} (resource : Resource)
    (rest : List Operation) {indices : Finset ResourceIndex} (hother : index ∉ indices) :
    ∑ other ∈ indices, requestedLength (.place index resource :: rest) other =
      ∑ other ∈ indices, requestedLength rest other := by
  apply Finset.sum_congr rfl
  intro other hmem
  have hne : index ≠ other := fun hsame => hother (hsame ▸ hmem)
  rw [requestedLength_place, if_neg hne]

/-- A history demands the bytes of the resources that it asks for first under indices that
are not known. -/
theorem demand_eq_sum (known : List ResourceIndex) (operations : List Operation) :
    demand known operations =
      ∑ index ∈ requested operations \ known.toFinset, requestedLength operations index := by
  induction operations generalizing known with
  | nil => simp [demand, requested]
  | cons operation rest ih =>
    cases operation with
    | onArena operation => exact ih known
    | write address bytes => exact ih known
    | place index resource =>
      have hindices : requested (.place index resource :: rest) =
          insert index (requested rest) := by
        simp [requested, Operation.index?]
      rw [demand, hindices]
      by_cases hknown : index ∈ known
      · rw [if_pos hknown, ih, Finset.insert_sdiff_of_mem _ (List.mem_toFinset.mpr hknown),
          sum_requestedLength_place resource rest (by simp [hknown])]
      · have hsplit : insert index (requested rest) \ known.toFinset =
            insert index (requested rest \ (index :: known).toFinset) := by
          ext other
          by_cases hother : other = index
          · simp [hother, hknown]
          · simp [hother]
        have hnew : index ∉ requested rest \ (index :: known).toFinset := by simp
        rw [if_neg hknown, ih, hsplit, Finset.sum_insert hnew, requestedLength_place, if_pos rfl,
          length_terminated, sum_requestedLength_place resource rest hnew]

/-! ## Where buffers lie -/

/-- A resource lies in memory under its index, from an offset of the resources on. -/
structure Buffered (memory : Memory) (index : ResourceIndex) (resource : Resource)
    (offset : Nat) : Prop where
  lookup_eq : memory.placed.lookup index = some offset
  bytes_eq : ∃ front rest : ByteArray, front.size = offset ∧
    memory.resources = front ++ resource.terminated.toByteArray ++ rest

section Steps

variable {memory : Memory} {index : ResourceIndex} {resource : Resource} {offset : Nat}

/-- A buffer ends within the resources. -/
theorem Buffered.end_le (hbuffered : memory.Buffered index resource offset) :
    offset + bufferLength resource ≤ memory.resources.size := by
  obtain ⟨front, rest, rfl, hresources⟩ := hbuffered.bytes_eq
  rw [hresources, ByteArray.size_append, ByteArray.size_append, List.size_toByteArray,
    length_terminated]
  exact Nat.le_add_right _ _

/-- An index that has a place keeps it; any other gets one when it is first asked for, where
the resources end. -/
theorem lookup_next (memory : Memory) (index : ResourceIndex) (operation : Operation) :
    (operation.next memory).placed.lookup index =
      (memory.placed.lookup index).or
        ((operation.request? index).map fun _ => memory.resources.size) := by
  cases operation with
  | onArena operation => simp [Operation.next, Operation.request?]
  | write address bytes =>
    rw [Operation.next, (memory.written_resources address bytes).2]
    simp [Operation.request?]
  | place other resource =>
    unfold Operation.next placeResource Operation.request?
    cases hlookup : memory.placed.lookup other with
    | some offset =>
      by_cases hsame : other = index
      · subst hsame
        simp [hlookup]
      · simp [hlookup, hsame]
    | none =>
      by_cases hsame : other = index
      · subst hsame
        simp [hlookup]
      · have hne : (index == other) = false := beq_false_of_ne (Ne.symm hsame)
        simp [hlookup, hsame, hne, List.lookup_cons]

/-- The resources grow at their end. -/
theorem exists_resources_next (memory : Memory) (operation : Operation) :
    ∃ more, (operation.next memory).resources = memory.resources ++ more := by
  cases operation with
  | onArena operation => exact ⟨.empty, by simp [Operation.next]⟩
  | write address bytes =>
    refine ⟨.empty, ?_⟩
    rw [Operation.next, (memory.written_resources address bytes).1, ByteArray.append_empty]
  | place index resource =>
    rw [Operation.next, snd_placeResource]
    split
    · exact ⟨.empty, by simp⟩
    · exact ⟨_, appended_eq memory.resources resource⟩

/-- No use of a memory touches a buffer. -/
theorem Buffered.next (hbuffered : memory.Buffered index resource offset)
    (operation : Operation) : (operation.next memory).Buffered index resource offset := by
  obtain ⟨hlookup, front, rest, hfront, hresources⟩ := hbuffered
  refine ⟨?_, ?_⟩
  · rw [lookup_next, hlookup]
    rfl
  · obtain ⟨more, hmore⟩ := memory.exists_resources_next operation
    refine ⟨front, rest ++ more, hfront, ?_⟩
    rw [hmore, hresources, ByteArray.append_assoc]

/-- No history touches a buffer. -/
theorem Buffered.after (hbuffered : memory.Buffered index resource offset)
    (operations : List Operation) : (memory.after operations).Buffered index resource offset := by
  induction operations generalizing memory with
  | nil => exact hbuffered
  | cons operation rest ih => exact ih (hbuffered.next operation)

/-- An index has no place before it is first asked for. -/
theorem lookup_after_eq_none {operations : List Operation}
    (hnone : memory.placed.lookup index = none)
    (hnever : firstRequest? operations index = none) :
    (memory.after operations).placed.lookup index = none := by
  induction operations generalizing memory with
  | nil => exact hnone
  | cons operation rest ih =>
    obtain ⟨hother, hrest⟩ : operation.request? index = none ∧
        firstRequest? rest index = none := by
      simpa [firstRequest?] using hnever
    apply ih _ hrest
    rw [lookup_next, hnone, hother]
    rfl

/-- The first request for an index returns the address where the resources end, and puts the
resource there. -/
theorem placeResource_new (hnone : memory.placed.lookup index = none) (resource : Resource) :
    (memory.placeResource index resource).1 = (resourceBase + memory.resources.size).toUInt64 ∧
      (memory.placeResource index resource).2.Buffered index resource memory.resources.size := by
  unfold placeResource
  rw [hnone]
  refine ⟨rfl, by simp, memory.resources, .empty, rfl, ?_⟩
  rw [ByteArray.append_empty]
  exact appended_eq memory.resources resource

end Steps

/-! ## What a program sees -/

/-- The buffer of a resource as a program sees it at an address. -/
structure ServedAt (memory : Memory) (index : ResourceIndex) (resource : Resource)
    (address : UInt64) : Prop where
  /-- Every request for the index returns the address and changes nothing. -/
  request : ∀ other, memory.placeResource index other = (address, memory)
  /-- The bytes of the resource are read there with one zero after them, or with two after a
  text in UTF-16. -/
  read : memory.readBytes address (bufferLength resource) =
    .ok (resource.bytes ++ List.replicate (if resource.kind = .utf16 then 2 else 1) 0)
  /-- A write that starts in the buffer or reaches into it fails. -/
  write : ∀ (place : UInt64) (bytes : List UInt8),
    place.toNat < address.toNat + bufferLength resource →
      address.toNat ≤ place.toNat ∨ address.toNat < place.toNat + bytes.length →
        writeBytes place bytes memory = .error (.invalidAddress place) memory
  /-- A string inside the buffer has the bytes up to the next zero, which lies inside. -/
  string : ∀ place : UInt64, address.toNat ≤ place.toNat →
    place.toNat < address.toNat + bufferLength resource →
      ∃ text, memory.readCString place = .ok text ∧
        text = (resource.terminated.drop (place.toNat - address.toNat)).takeWhile (· ≠ 0) ∧
          place.toNat + text.length < address.toNat + bufferLength resource

section Resources

variable (resource : Resource)

/-- A resource has a terminator. -/
theorem bufferLength_pos : 0 < bufferLength resource := by
  unfold bufferLength
  cases resource.kind <;> simp [ResourceKind.terminatorLength]

/-- A resource with its terminator ends at the same zero as its bytes do. -/
theorem takeWhile_terminated :
    resource.terminated.takeWhile (· ≠ 0) = resource.bytes.takeWhile (· ≠ 0) := by
  obtain ⟨rest, hterminated⟩ := exists_terminated_eq resource
  rw [hterminated]
  induction resource.bytes with
  | nil => rfl
  | cons byte bytes ih =>
    by_cases hzero : byte = 0
    · simp [hzero]
    · simp only [List.cons_append, List.takeWhile_cons, ih]

/-- What remains of a resource behind one of its bytes is a resource with its terminator. -/
theorem exists_terminated_eq_drop {i : Nat} (hi : i < bufferLength resource) :
    ∃ inner : Resource, inner.terminated = resource.terminated.drop i := by
  by_cases hbytes : i ≤ resource.bytes.length
  · refine ⟨⟨resource.kind, resource.bytes.drop i⟩, ?_⟩
    rw [Resource.terminated, Resource.terminated, List.drop_append_of_le_length hbytes]
  · -- Only the second zero of a longer terminator lies behind the first one.
    refine ⟨⟨.bytes, []⟩, ?_⟩
    have hrest : resource.kind.terminatorLength - (i - resource.bytes.length) = 1 := by
      unfold bufferLength at hi
      cases hkind : resource.kind <;> simp only [hkind, ResourceKind.terminatorLength] at hi ⊢ <;>
        omega
    rw [Resource.terminated, Resource.terminated, List.drop_append, List.drop_replicate, hrest,
      List.drop_of_length_le (by omega)]
    rfl

end Resources

/-- A slice of the resources that starts where bytes were appended shows these bytes. -/
theorem resourceSlice_append {memory : Memory} {front rest : ByteArray} {bytes : List UInt8}
    (hresources : memory.resources = front ++ bytes.toByteArray ++ rest) :
    memory.resourceSlice front.size bytes.length = bytes := by
  apply List.ext_getElem
  · simp [resourceSlice]
  · intro i hleft hright
    have hfront : front.data.size = front.size := rfl
    simp only [resourceSlice, List.getElem_map, List.getElem_range, resourceByte_eq, hresources,
      ByteArray.data_append, List.data_toByteArray, Array.getD_eq_getD_getElem?]
    grind

section Served

variable {memory : Memory} {index : ResourceIndex} {resource : Resource} {offset : Nat}
  (hbuffered : memory.Buffered index resource offset)
include hbuffered

/-- A string inside a buffer ends inside. -/
theorem Buffered.readCString_inside (hcapacity : memory.arena.capacity ≤ maxArenaSize) {i : Nat}
    (hi : i < bufferLength resource) {place : UInt64}
    (hplace : place.toNat = resourceBase + (offset + i)) :
    ∃ text, memory.readCString place = .ok text ∧
      text = (resource.terminated.drop i).takeWhile (· ≠ 0) ∧
        i + text.length < bufferLength resource := by
  obtain ⟨front, rest, rfl, hresources⟩ := hbuffered.bytes_eq
  obtain ⟨inner, hinner⟩ := exists_terminated_eq_drop resource hi
  have hlength : (resource.terminated.take i).length = i := by
    rw [List.length_take, length_terminated]
    omega
  have hsplit : memory.resources = (front ++ (resource.terminated.take i).toByteArray) ++
      inner.terminated.toByteArray ++ rest := by
    rw [hinner, @ByteArray.append_assoc front, ← List.toByteArray_append, List.take_append_drop,
      hresources]
  have hsize : (front ++ (resource.terminated.take i).toByteArray).size = front.size + i := by
    rw [ByteArray.size_append, List.size_toByteArray, hlength]
  have hlt : resourceBase + (front.size + i) < 2 ^ 64 := hplace ▸ place.toNat_lt
  have haddress : (resourceBase + (front.size + i)).toUInt64 = place := by
    rw [← hplace]
    exact UInt64.ofNat_toNat
  have hread := readCString_resource hsplit hcapacity (hsize ▸ hlt)
  rw [hsize, haddress] at hread
  refine ⟨_, hread, ?_, ?_⟩
  · rw [← hinner, takeWhile_terminated]
  · have hbytes : (inner.bytes.takeWhile (· ≠ 0)).length ≤ inner.bytes.length :=
      (List.takeWhile_sublist _).length_le
    have hrest : inner.terminated.length = bufferLength resource - i := by
      rw [hinner, List.length_drop, length_terminated]
    have hpos : 0 < inner.kind.terminatorLength := by
      cases inner.kind <;> decide
    rw [length_terminated, bufferLength] at hrest
    omega

/-- The address of a buffer does not wrap around. -/
theorem Buffered.toNat_address (hfits : resourceBase + memory.resources.size ≤ 2 ^ 64) :
    (resourceBase + offset).toUInt64.toNat = resourceBase + offset := by
  have hend := hbuffered.end_le
  have hpos := bufferLength_pos resource
  exact UInt64.toNat_ofNat_of_lt' (show resourceBase + offset < 2 ^ 64 by omega)

/-- A program finds a buffer at its address. -/
theorem Buffered.servedAt (hbounded : memory.Bounded)
    (hfits : resourceBase + memory.resources.size ≤ 2 ^ 64) :
    memory.ServedAt index resource (resourceBase + offset).toUInt64 := by
  have hplace := hbuffered.toNat_address hfits
  have hend := hbuffered.end_le
  refine ⟨fun other => ?_, ?_, fun place bytes hbefore hinto => ?_, fun place hfrom hto => ?_⟩
  · rw [placeResource, hbuffered.lookup_eq]
  · obtain ⟨front, rest, rfl, hresources⟩ := hbuffered.bytes_eq
    have hwithin : memory.WithinResources (resourceBase + front.size).toUInt64
        (bufferLength resource) := by
      rw [WithinResources, hplace]
      omega
    rw [readBytes_of_withinResources hbounded.capacity_le (bufferLength_pos resource) hwithin,
      hplace, Nat.add_sub_cancel_left, ← length_terminated, resourceSlice_append hresources,
      Resource.terminated]
    cases resource.kind <;> rfl
  · rw [hplace] at hinto
    rcases hinto with hstarts | hreaches
    · exact writeBytes_of_resourceBase_le hbounded.capacity_le (by omega) bytes
    · apply writeBytes_of_not_withinArena
      rintro ⟨-, hlive⟩
      have hsp := hbounded.sp_le
      have hcapacity := hbounded.capacity_le
      have hbase : resourceBase = arenaBase + maxArenaSize := rfl
      omega
  · rw [hplace] at hfrom hto ⊢
    obtain ⟨i, hi⟩ := Nat.exists_eq_add_of_le hfrom
    have hinner : place.toNat = resourceBase + (offset + i) := by rw [hi, Nat.add_assoc]
    obtain ⟨text, hread, htext, hinside⟩ :=
      hbuffered.readCString_inside hbounded.capacity_le (by omega) hinner
    refine ⟨text, hread, ?_, by omega⟩
    rw [htext, hi, Nat.add_sub_cancel_left]

end Served

/-! ## Histories -/

/-- In a history of a new memory an index is first asked for with a resource, and this
request returns an address. -/
def FirstAnswer (size : Nat) (operations : List Operation) (index : ResourceIndex)
    (resource : Resource) (address : UInt64) : Prop :=
  ∃ before later, operations = before ++ .place index resource :: later ∧
    firstRequest? before index = none ∧
      (((Memory.new size).after before).placeResource index resource).1 = address

section Histories

variable {size : Nat} {operations : List Operation} {index other : ResourceIndex}
  {resource otherResource : Resource} {address otherAddress : UInt64}

/-- A history is carried out piece by piece. -/
theorem after_append (memory : Memory) (first second : List Operation) :
    memory.after (first ++ second) = (memory.after first).after second :=
  List.foldl_append

/-- An index that is asked for has a first answer. -/
theorem exists_firstAnswer (size : Nat) (hrequested : index ∈ requested operations) :
    ∃ resource address, FirstAnswer size operations index resource address := by
  obtain ⟨operation, hmem, hindex⟩ := List.mem_filterMap.mp (List.mem_toFinset.mp hrequested)
  have hasked : (operation.request? index).isSome := by
    cases operation with
    | place other resource => simp_all [Operation.index?, Operation.request?]
    | onArena _ => cases hindex
    | write _ _ => cases hindex
  obtain ⟨resource, hfirst⟩ :=
    Option.isSome_iff_exists.mp (List.findSome?_isSome_iff.mpr ⟨operation, hmem, hasked⟩)
  obtain ⟨before, first, later, hsplit, hplace, hnever⟩ := List.findSome?_eq_some_iff.mp hfirst
  obtain rfl : first = .place index resource := by
    cases first with
    | place other resource => simp_all [Operation.request?]
    | onArena _ => cases hplace
    | write _ _ => cases hplace
  exact ⟨resource, _, before, later, hsplit, List.findSome?_eq_none_iff.mpr hnever, rfl⟩

/-- The first request for an index is the one whose resource counts. -/
theorem FirstAnswer.firstRequest?_eq
    (hfirst : FirstAnswer size operations index resource address) :
    firstRequest? operations index = some resource := by
  obtain ⟨before, later, rfl, hnever, -⟩ := hfirst
  unfold firstRequest? at hnever ⊢
  simp [List.findSome?_append, hnever, Operation.request?]

section Placed

variable {before : List Operation} (hnever : firstRequest? before index = none) (size : Nat)
  (resource : Resource) (later : List Operation)
include hnever

/-- The first request for an index returns the address behind everything that was placed
before it. -/
theorem address_of_first :
    (((Memory.new size).after before).placeResource index resource).1 =
      (resourceBase + ((Memory.new size).after before).resources.size).toUInt64 :=
  (placeResource_new (lookup_after_eq_none rfl hnever) resource).1

/-- The resource of the first request for an index stays behind everything that was placed
before it. -/
theorem buffered_of_first :
    ((Memory.new size).after (before ++ .place index resource :: later)).Buffered index resource
      ((Memory.new size).after before).resources.size := by
  rw [after_append]
  exact (placeResource_new (lookup_after_eq_none rfl hnever) resource).2.after later

end Placed

section Fits

variable (hfirst : FirstAnswer size operations index resource address)
  (hfits : resourceBase + ((Memory.new size).after operations).resources.size ≤ 2 ^ 64)
include hfirst hfits

/-- A program finds the buffer of a resource at the address that the first request for it
returned. -/
theorem FirstAnswer.servedAt :
    ((Memory.new size).after operations).ServedAt index resource address := by
  obtain ⟨before, later, rfl, hnever, rfl⟩ := hfirst
  rw [address_of_first hnever]
  exact (buffered_of_first hnever size resource later).servedAt (bounded_after size _) hfits

/-- The first answer is the number of the address behind everything that was placed before. -/
theorem FirstAnswer.exists_before :
    ∃ before later, operations = before ++ .place index resource :: later ∧
      firstRequest? before index = none ∧
        address.toNat = resourceBase + ((Memory.new size).after before).resources.size := by
  obtain ⟨before, later, rfl, hnever, rfl⟩ := hfirst
  refine ⟨before, later, rfl, hnever, ?_⟩
  rw [address_of_first hnever,
    (buffered_of_first hnever size resource later).toNat_address hfits]

end Fits

/-- Two requests of one history come one after the other. -/
theorem split_cases {first second third fourth : List Operation} {left right : Operation}
    (hsame : first ++ left :: second = third ++ right :: fourth) (hne : left ≠ right) :
    (∃ middle, third = first ++ left :: middle) ∨ ∃ middle, first = third ++ right :: middle := by
  rcases List.append_eq_append_iff.mp hsame with ⟨rest, hthird, hrest⟩ | ⟨rest, hfirst, hrest⟩
  · cases rest with
    | nil => exact absurd (List.cons.inj hrest).1 hne
    | cons operation middle =>
      obtain ⟨rfl, -⟩ := List.cons.inj hrest
      exact .inl ⟨middle, hthird⟩
  · cases rest with
    | nil => exact absurd (List.cons.inj hrest).1.symm hne
    | cons operation middle =>
      obtain ⟨rfl, -⟩ := List.cons.inj hrest
      exact .inr ⟨middle, hfirst⟩

/-- The buffers of different indices have no byte in common. -/
theorem FirstAnswer.disjoint (hfirst : FirstAnswer size operations index resource address)
    (hother : FirstAnswer size operations other otherResource otherAddress) (hne : index ≠ other)
    (hfits : resourceBase + ((Memory.new size).after operations).resources.size ≤ 2 ^ 64) :
    address.toNat + bufferLength resource ≤ otherAddress.toNat ∨
      otherAddress.toNat + bufferLength otherResource ≤ address.toNat := by
  obtain ⟨before, later, hsplit, hnever, haddress⟩ := hfirst.exists_before hfits
  obtain ⟨otherBefore, otherLater, hotherSplit, hotherNever, hotherAddress⟩ :=
    hother.exists_before hfits
  have hplaces : Operation.place index resource ≠ .place other otherResource := by
    intro hsame
    cases hsame
    exact hne rfl
  -- Whichever was asked for later was put behind the buffer of the other one.
  rcases split_cases (hsplit.symm.trans hotherSplit) hplaces with
    ⟨middle, rfl⟩ | ⟨middle, rfl⟩
  · have hend := (buffered_of_first hnever size resource middle).end_le
    left
    omega
  · have hend := (buffered_of_first hotherNever size otherResource middle).end_le
    right
    omega

end Histories

/-- After any history whose resources fit into the address space, these take the bytes of the
indices that were asked for.  A program finds the buffer of each at the address that the
first request returned, and the buffers of different indices have no byte in common. -/
theorem buffers_after (size : Nat) (operations : List Operation)
    (hfits : resourceBase + ((Memory.new size).after operations).resources.size ≤ 2 ^ 64) :
    let memory := (Memory.new size).after operations
    memory.resources.size =
        ∑ index ∈ requested operations, requestedLength operations index ∧
      (∀ index ∈ requested operations, ∃ resource address,
        FirstAnswer size operations index resource address) ∧
      (∀ index resource address, FirstAnswer size operations index resource address →
        firstRequest? operations index = some resource ∧
          memory.ServedAt index resource address) ∧
      ∀ index resource address other otherResource otherAddress,
        FirstAnswer size operations index resource address →
          FirstAnswer size operations other otherResource otherAddress → index ≠ other →
            address.toNat + bufferLength resource ≤ otherAddress.toNat ∨
              otherAddress.toNat + bufferLength otherResource ≤ address.toNat := by
  intro memory
  refine ⟨?_, fun index hrequested => exists_firstAnswer size hrequested,
    fun index resource address hfirst => ⟨hfirst.firstRequest?_eq, hfirst.servedAt hfits⟩,
    fun index resource address other otherResource otherAddress hfirst hother hne =>
      hfirst.disjoint hother hne hfits⟩
  have hgrown := (Memory.new size).size_resources_after operations
  have hnew : (Memory.new size).resources.size = 0 := rfl
  have hnone : (Memory.new size).placed.map Prod.fst = [] := rfl
  rw [hnew, hnone, Nat.zero_add, demand_eq_sum] at hgrown
  simpa using hgrown

/-- A history in which a text in UTF-16 and an empty resource are asked for, the first one a
second time under other bytes, and in which the first buffer is written to. -/
def traffic : List Operation :=
  [.place 1 ⟨.utf16, [104, 0]⟩, .onArena (.push ⟨.u32, 5⟩), .write 0x10000000 [1, 2],
    .place 0 ⟨.bytes, []⟩, .write 0x40000000 [9], .place 1 ⟨.utf8, [1, 2, 3]⟩]

theorem buffers_after_traffic :
    resourceBase + ((Memory.new 16).after traffic).resources.size ≤ 2 ^ 64 ∧
      FirstAnswer 16 traffic 1 ⟨.utf16, [104, 0]⟩ 0x40000000 ∧
        FirstAnswer 16 traffic 0 ⟨.bytes, []⟩ 0x40000004 ∧
          ((Memory.new 16).after traffic).ServedAt 1 ⟨.utf16, [104, 0]⟩ 0x40000000 ∧
            ((Memory.new 16).after traffic).ServedAt 0 ⟨.bytes, []⟩ 0x40000004 := by
  have hfits : resourceBase + ((Memory.new 16).after traffic).resources.size ≤ 2 ^ 64 := by
    decide
  have htext : FirstAnswer 16 traffic 1 ⟨.utf16, [104, 0]⟩ 0x40000000 :=
    ⟨[], _, rfl, rfl, by decide⟩
  have hempty : FirstAnswer 16 traffic 0 ⟨.bytes, []⟩ 0x40000004 :=
    ⟨traffic.take 3, _, rfl, rfl, by decide⟩
  obtain ⟨-, -, hserved, -⟩ := buffers_after 16 traffic hfits
  exact ⟨hfits, htext, hempty, (hserved _ _ _ htext).2, (hserved _ _ _ hempty).2⟩

end StackCode.Memory
