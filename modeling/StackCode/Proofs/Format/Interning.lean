import StackCode.Proofs.Format.Capacity

/-!
# Interning byte strings one after another

A pool only ever grows at its end, so what was recorded for a string when it was new, an
offset and a length, stays true of every later pool, however far the blob has grown.  After any
calls the table, the blob and the lookup still agree with one another and with the indices that
the calls returned.

Main definitions:

- `Pool.internAll`: interning byte strings one after another.
- `Pool.Interned`: what a pool has recorded, and the indices that were handed out.

Main results:

- Theorem `Pool.Represents.internAll`: what interning keeps.
- Theorem `Pool.Represents.getElem?_internAll`: where the strings stand in every later pool.
- Theorem `Pool.internAll_grows`: what was recorded stays.
- Theorem `Pool.interned_of_internAll`: interning is faithful.
-/

namespace StackCode.Format.Pool

/-- Interns byte strings one after another and gives the index of each. -/
def internAll (pool : Pool) : List (List UInt8) → Except EncodeError (List UInt32 × Pool)
  | [] => .ok ([], pool)
  | bytes :: rest => do
    let (index, next) ← pool.intern bytes
    let (indices, last) ← next.internAll rest
    return (index :: indices, last)

/-! ## The pools on the way -/

section Sequence

variable {pool after : Pool} {bytes : List UInt8} {known strings before later : List (List UInt8)}
  {indices : List UInt32}

/-- The first string is interned before the others. -/
theorem internAll_cons_eq_ok
    (hinterned : pool.internAll (bytes :: strings) = .ok (indices, after)) :
    ∃ index next others, pool.intern bytes = .ok (index, next) ∧
      next.internAll strings = .ok (others, after) ∧ indices = index :: others := by
  obtain ⟨⟨index, next⟩, hfirst, hinterned⟩ := exists_of_bind_eq_ok hinterned
  obtain ⟨⟨others, last⟩, hothers, hinterned⟩ := exists_of_bind_eq_ok hinterned
  cases hinterned
  exact ⟨index, next, others, hfirst, hothers, rfl⟩

/-- Later strings are interned into the pool that earlier ones leave. -/
theorem internAll_append_eq_ok
    (hinterned : pool.internAll (before ++ later) = .ok (indices, after)) :
    ∃ middle, pool.internAll before = .ok (indices.take before.length, middle) ∧
      middle.internAll later = .ok (indices.drop before.length, after) := by
  induction before generalizing pool indices with
  | nil => exact ⟨pool, rfl, hinterned⟩
  | cons bytes before ih =>
    obtain ⟨index, next, others, hfirst, hothers, rfl⟩ := internAll_cons_eq_ok hinterned
    obtain ⟨middle, hbefore, hlater⟩ := ih hothers
    refine ⟨middle, ?_, hlater⟩
    rw [internAll, hfirst]
    simp only [bind, Except.bind, hbefore]
    rfl

/-- What interning records, step by step, is what is known of the strings. -/
theorem Represents.internAll (hpool : pool.Represents known)
    (hinterned : pool.internAll strings = .ok (indices, after)) :
    after.Represents (adjoinAll known strings) := by
  induction strings generalizing pool known indices with
  | nil =>
    cases hinterned
    exact hpool
  | cons bytes strings ih =>
    obtain ⟨index, next, others, hfirst, hothers, rfl⟩ := internAll_cons_eq_ok hinterned
    exact ih (hpool.intern hfirst).1 hothers

/-- Each string stands at its index from the call on. -/
theorem Represents.getElem?_internAll (hpool : pool.Represents known)
    (hinterned : pool.internAll strings = .ok (indices, after)) :
    List.Forall₂ (fun bytes index => (adjoinAll known strings)[index.toNat]? = some bytes)
      strings indices := by
  induction strings generalizing pool known indices with
  | nil =>
    cases hinterned
    exact .nil
  | cons bytes strings ih =>
    obtain ⟨index, next, others, hfirst, hothers, rfl⟩ := internAll_cons_eq_ok hinterned
    obtain ⟨hnext, hplace⟩ := hpool.intern hfirst
    refine .cons ?_ (ih hnext hothers)
    rw [adjoinAll_cons]
    exact getElem?_of_grown hplace (prefix_adjoinAll (adjoin known bytes) strings)

/-- What was recorded for earlier strings is not touched by later ones. -/
theorem record_grows (pool : Pool) (bytes : List UInt8) :
    pool.entries.toList <+: (pool.record bytes).entries.toList ∧
      pool.blob.toList <+: (pool.record bytes).blob.toList := by
  simp [record]

theorem intern_grows {index : UInt32} (hintern : pool.intern bytes = .ok (index, after)) :
    pool.entries.toList <+: after.entries.toList ∧ pool.blob.toList <+: after.blob.toList := by
  unfold intern at hintern
  split at hintern
  · cases hintern
    exact ⟨List.prefix_refl _, List.prefix_refl _⟩
  · split_ifs at hintern
    cases hintern
    exact record_grows pool bytes

theorem internAll_grows (hinterned : pool.internAll strings = .ok (indices, after)) :
    pool.entries.toList <+: after.entries.toList ∧ pool.blob.toList <+: after.blob.toList := by
  induction strings generalizing pool indices with
  | nil =>
    cases hinterned
    exact ⟨List.prefix_refl _, List.prefix_refl _⟩
  | cons bytes strings ih =>
    obtain ⟨index, next, others, hfirst, hothers, rfl⟩ := internAll_cons_eq_ok hinterned
    obtain ⟨hentries, hblob⟩ := intern_grows hfirst
    obtain ⟨hentriesLater, hblobLater⟩ := ih hothers
    exact ⟨hentries.trans hentriesLater, hblob.trans hblobLater⟩

end Sequence

/-- What the table says of an index is the span of the string that stands there. -/
theorem Represents.slice_eq {pool : Pool} {strings : List (List UInt8)} {bytes : List UInt8}
    {i : Nat} (hpool : pool.Represents strings) (hstring : strings[i]? = some bytes) :
    ∃ offset length, pool.entries[i]? = some (offset, length) ∧
      PoolView.slice pool.blob.toList (offset.toNat, length.toNat) = .ok bytes := by
  obtain ⟨span, hspan, hslice⟩ := slice_flatten hstring
  rw [← hpool.entries_eq, List.getElem?_map, Array.getElem?_toList] at hspan
  rw [← hpool.blob_eq] at hslice
  cases hentry : pool.entries[i]? with
  | none =>
    rw [hentry] at hspan
    cases hspan
  | some entry =>
    rw [hentry] at hspan
    cases hspan
    exact ⟨entry.1, entry.2, rfl, hslice⟩

/-! ## Faithful interning -/

/-- What a pool has recorded after strings were interned into it, and how that fits the indices
that were handed out for them. -/
structure Interned (strings : List (List UInt8)) (indices : List UInt32) (pool : Pool) :
    Prop where
  /-- Every call returned an index. -/
  length_eq : indices.length = strings.length
  /-- Two calls returned the same index exactly when they were for the same string. -/
  index_eq_iff : ∀ call ∈ strings.zip indices, ∀ other ∈ strings.zip indices,
    call.2 = other.2 ↔ call.1 = other.1
  /-- The blob that was recorded is the distinct strings one after another, in the order in
  which they first came. -/
  blob_eq : pool.blob.toList = strings.eraseDups.flatten
  /-- The table has one entry for each distinct string, and no other ones. -/
  size_eq : pool.entries.size = strings.eraseDups.length
  /-- The offset and the length that were recorded at an index cover the string that was
  interned. -/
  entry : ∀ call ∈ strings.zip indices, ∃ offset length,
    pool.entries[call.2.toNat]? = some (offset, length) ∧
      PoolView.slice pool.blob.toList (offset.toNat, length.toNat) = .ok call.1
  /-- The lookup gives the index of every string that was interned. -/
  lookup_eq : ∀ call ∈ strings.zip indices, pool.lookup.lookup call.1 = some call.2
  /-- It finds nothing else. -/
  lookup_eq_none : ∀ bytes ∉ strings, pool.lookup.lookup bytes = none
  /-- What was recorded at any time has stayed: the table and the blob have only grown. -/
  grown : ∀ before later, strings = before ++ later → ∃ earlier,
    empty.internAll before = .ok (indices.take before.length, earlier) ∧
      earlier.entries.toList <+: pool.entries.toList ∧ earlier.blob.toList <+: pool.blob.toList
  /-- The pool can be written exactly when the length of its blob fits four bytes. -/
  writable : (∃ written, pool.encode = .ok written) ↔ pool.blob.size < 2 ^ 32
  /-- What was written is read back from the front of any input, and every index refers to the
  string that was interned. -/
  read_back : ∀ written, pool.encode = .ok written → ∃ view,
    Reader.Reads PoolView.read written view ∧
      ∀ call ∈ strings.zip indices, view.bytes call.2 = .ok call.1

/-- After any calls that were all successful, interning has been faithful. -/
theorem interned_of_internAll {strings : List (List UInt8)} {indices : List UInt32} {pool : Pool}
    (hinterned : empty.internAll strings = .ok (indices, pool)) :
    Interned strings indices pool := by
  have hpool := represents_empty.internAll hinterned
  have hplaces := represents_empty.getElem?_internAll hinterned
  rw [adjoinAll_nil] at hpool
  simp only [adjoinAll_nil] at hplaces
  obtain ⟨hlength, hplaced⟩ := List.forall₂_iff_zip.mp hplaces
  have hstring : ∀ call ∈ strings.zip indices,
      strings.eraseDups[call.2.toNat]? = some call.1 := fun call hcall => hplaced hcall
  refine
    { length_eq := hlength.symm
      index_eq_iff := ?_
      blob_eq := hpool.blob_eq
      size_eq := hpool.size_entries
      entry := fun call hcall => hpool.slice_eq (hstring call hcall)
      lookup_eq := fun call hcall => hpool.lookup_iff.mpr (hstring call hcall)
      lookup_eq_none := fun bytes hnew => hpool.lookup_eq_none (mt List.mem_eraseDups.mp hnew)
      grown := ?_
      writable := ?_
      read_back := ?_ }
  · intro call hcall other hother
    have hfirst := hstring call hcall
    have hsecond := hstring other hother
    constructor
    · intro hsame
      rw [hsame, hsecond] at hfirst
      exact (Option.some.inj hfirst).symm
    · intro hsame
      -- the strings of a pool are distinct, so a string stands at one place only
      rw [← hsame, ← hfirst] at hsecond
      have hinside := (List.getElem?_eq_some_iff.mp hfirst).1
      have hplace := (List.getElem?_inj hinside hpool.distinct).mp hsecond.symm
      exact UInt32.toNat_inj.mp hplace
  · rintro before later rfl
    obtain ⟨earlier, hbefore, hlater⟩ := internAll_append_eq_ok hinterned
    exact ⟨earlier, hbefore, internAll_grows hlater⟩
  · rw [hpool.size_blob]
    constructor
    · rintro ⟨written, hwritten⟩
      exact ((encode_sized hpool).of_ok hwritten).1
    · exact fun hfits => (encode_sized hpool).exists_ok hfits
  · intro written hwritten
    exact ⟨strings.eraseDups, read_reads hpool hwritten, fun call hcall =>
      bytes_of_getElem? (hstring call hcall) (List.prefix_refl _)⟩

/-- Strings of which one is empty and one a part of another, some of them interned again. -/
def overlapping : List (List UInt8) :=
  [[104, 105], [], [105], [104, 105], [104], []]

/-- The table, the blob and the lookup after the strings were interned. -/
def overlapped : Pool where
  entries := #[(0, 2), (2, 0), (2, 1), (3, 1)]
  blob := #[104, 105, 105, 104]
  lookup := [([104], 3), ([105], 2), ([], 1), ([104, 105], 0)]

/-- An equal string gets its index again, and a part of a string an index of its own. -/
theorem interned_of_internAll_overlapping :
    empty.internAll overlapping = .ok ([0, 1, 2, 0, 3, 1], overlapped) ∧
      Interned overlapping [0, 1, 2, 0, 3, 1] overlapped :=
  ⟨by decide, interned_of_internAll (by decide)⟩

end StackCode.Format.Pool
