import StackCode.Proofs.Format.Reading
import StackCode.Proofs.Format.Spans

/-!
# Strings in the data pool

A pool stands for the distinct strings that were interned into it, in the order in which they
first came.  Interning keeps what a pool records about them consistent: the spans of the table
are those of the strings in the blob, and the lookup finds each string at its place in the
table.  Strings are only ever added behind the others, so an index that was handed out refers
to the same string in every later pool.  The data section holds the strings of the last pool,
and reading it gives them back.

Main definitions:

- `Pool.Represents`: what a pool records about the strings that it stands for.
- `Pool.adjoin`, `Pool.adjoinAll`: strings with others that are added where they are new.

Main results:

- Theorem `Text.ofUtf8?_utf8`: strict decoding undoes encoding.
- Theorem `Pool.Represents.intern`: interning keeps the records consistent.
- Theorem `Pool.Represents.exists_intern`: a string for which there is room is interned.
- Theorem `Pool.bytes_of_intern`: what an index refers to.
- Theorem `Pool.read_reads`: the data section.
-/

namespace StackCode

/-- Strict decoding undoes encoding. -/
theorem Text.ofUtf8?_utf8 (text : String) : Text.ofUtf8? (Text.utf8 text) = some text := by
  unfold Text.ofUtf8? Text.utf8
  rw [Array.toArray_toList]
  exact dif_pos text.isValidUTF8

namespace Format

namespace Pool

/-! ## Strings without repetitions -/

/-- The strings with another one, which is added at the end if it is new. -/
def adjoin (known : List (List UInt8)) (bytes : List UInt8) : List (List UInt8) :=
  if bytes ∈ known then known else known ++ [bytes]

/-- The strings with others that are added one after another. -/
def adjoinAll (known strings : List (List UInt8)) : List (List UInt8) := strings.foldl adjoin known

section Adjoin

variable {known : List (List UInt8)} {bytes : List UInt8}

theorem adjoin_of_mem (hmember : bytes ∈ known) : adjoin known bytes = known := if_pos hmember

theorem adjoin_of_notMem (hnew : bytes ∉ known) : adjoin known bytes = known ++ [bytes] :=
  if_neg hnew

theorem prefix_adjoin (known : List (List UInt8)) (bytes : List UInt8) :
    known <+: adjoin known bytes := by
  unfold adjoin
  split
  · exact List.prefix_refl known
  · exact List.prefix_append known [bytes]

theorem adjoinAll_cons (known : List (List UInt8)) (bytes : List UInt8)
    (strings : List (List UInt8)) :
    adjoinAll known (bytes :: strings) = adjoinAll (adjoin known bytes) strings :=
  rfl

theorem adjoinAll_append (known strings others : List (List UInt8)) :
    adjoinAll known (strings ++ others) = adjoinAll (adjoinAll known strings) others :=
  List.foldl_append

/-- The strings that are known keep their places. -/
theorem prefix_adjoinAll (known strings : List (List UInt8)) :
    known <+: adjoinAll known strings := by
  induction strings generalizing known with
  | nil => exact List.prefix_refl known
  | cons bytes strings ih => exact (prefix_adjoin known bytes).trans (ih _)

/-- Known strings come first, then those that are new, each where it came first. -/
theorem adjoinAll_eq_loop (known strings : List (List UInt8)) :
    adjoinAll known strings = List.eraseDupsBy.loop (· == ·) strings known.reverse := by
  induction strings generalizing known with
  | nil => exact (List.reverse_reverse _).symm
  | cons bytes strings ih =>
    have hknown : known.reverse.any (bytes == ·) = decide (bytes ∈ known) := by
      rw [List.any_reverse, List.any_beq]
      exact List.elem_eq_mem bytes known
    rw [adjoinAll_cons, ih, List.eraseDupsBy.loop, hknown]
    by_cases hmember : bytes ∈ known
    · rw [adjoin_of_mem hmember, decide_eq_true hmember]
    · rw [adjoin_of_notMem hmember, decide_eq_false hmember, List.reverse_append]
      rfl

/-- From none on, the distinct strings are left in the order in which they first came. -/
theorem adjoinAll_nil (strings : List (List UInt8)) : adjoinAll [] strings = strings.eraseDups :=
  adjoinAll_eq_loop [] strings

end Adjoin

/-! ## What a pool records -/

/-- What stands in a list stays where it is in a longer one. -/
theorem getElem?_of_grown {α : Type} {items others : List α} {item : α} {i : Nat}
    (hitem : items[i]? = some item) (hgrown : items <+: others) : others[i]? = some item := by
  obtain ⟨hlt, rfl⟩ := List.getElem?_eq_some_iff.mp hitem
  exact List.prefix_iff_getElem?.mp hgrown i hlt

/-- What stands in a list with one more item. -/
theorem getElem?_concat_eq_some_iff {α : Type} {items : List α} {last item : α} {i : Nat} :
    (items ++ [last])[i]? = some item ↔ items[i]? = some item ∨ i = items.length ∧ last = item := by
  rcases Nat.lt_trichotomy i items.length with hlt | rfl | hgt
  · rw [List.getElem?_append_left hlt]
    simp [Nat.ne_of_lt hlt]
  · simp
  · rw [List.getElem?_append_right (Nat.le_of_lt hgt)]
    simp [Nat.ne_of_gt hgt, List.getElem?_eq_none (Nat.le_of_lt hgt), Nat.sub_ne_zero_of_lt hgt]

/-- The pool stands for the strings: they are distinct, the table has the span of each, the
blob is their concatenation, and the lookup finds exactly the places where they stand. -/
structure Represents (pool : Pool) (strings : List (List UInt8)) : Prop where
  distinct : strings.Nodup
  entries_eq : pool.entries.toList.map (fun entry => (entry.1.toNat, entry.2.toNat)) =
    spans 0 strings
  blob_eq : pool.blob.toList = strings.flatten
  lookup_iff : ∀ {bytes : List UInt8} {index : UInt32},
    pool.lookup.lookup bytes = some index ↔ strings[index.toNat]? = some bytes

theorem represents_empty : empty.Represents [] := ⟨List.nodup_nil, rfl, rfl, by simp [empty]⟩

namespace Represents

variable {pool after : Pool} {known : List (List UInt8)} {bytes : List UInt8} {index : UInt32}

theorem size_entries (hpool : pool.Represents known) : pool.entries.size = known.length := by
  have hlength := congrArg List.length hpool.entries_eq
  rwa [List.length_map, length_spans, Array.length_toList] at hlength

theorem size_blob (hpool : pool.Represents known) : pool.blob.size = known.flatten.length := by
  rw [← hpool.blob_eq, Array.length_toList]

/-- The last string was recorded at an offset that fits four bytes. -/
theorem room (hpool : pool.Represents known) : known.dropLast.flatten.length < 2 ^ 32 := by
  rcases known.eq_nil_or_concat' with rfl | ⟨front, last, rfl⟩
  · decide
  · have hspans := hpool.entries_eq
    rw [spans_concat] at hspans
    have hmember : (front.flatten.length, last.length) ∈
        pool.entries.toList.map (fun entry => (entry.1.toNat, entry.2.toNat)) := by
      rw [hspans]
      exact List.mem_append_right _ (List.mem_singleton_self _)
    obtain ⟨entry, -, hentry⟩ := List.mem_map.mp hmember
    have hoffset : entry.1.toNat = front.flatten.length := congrArg Prod.fst hentry
    rw [List.dropLast_concat, ← hoffset]
    exact entry.1.toNat_lt

/-- A pool has indices for all of its strings. -/
theorem length_lt (hpool : pool.Represents known) : known.length < 2 ^ 32 := by
  have hle := two_mul_length_le (hpool.distinct.sublist (List.dropLast_sublist _))
  have hroom := hpool.room
  rw [List.length_dropLast] at hle
  omega

/-- A string that the pool has is looked up at its place. -/
theorem exists_lookup (hpool : pool.Represents known) (hmember : bytes ∈ known) :
    ∃ index, pool.lookup.lookup bytes = some index := by
  obtain ⟨i, hlt, rfl⟩ := List.getElem_of_mem hmember
  have hfits : i < 2 ^ 32 := hlt.trans hpool.length_lt
  have htoNat : i.toUInt32.toNat = i := UInt32.toNat_ofNat_of_lt hfits
  exact ⟨i.toUInt32, hpool.lookup_iff.mpr (by rw [htoNat, List.getElem?_eq_getElem hlt])⟩

/-- A string that the pool does not have is not found. -/
theorem lookup_eq_none (hpool : pool.Represents known) (hnew : bytes ∉ known) :
    pool.lookup.lookup bytes = none := by
  cases hfound : pool.lookup.lookup bytes with
  | none => rfl
  | some index => exact absurd (List.mem_of_getElem? (hpool.lookup_iff.mp hfound)) hnew

/-- A new string is recorded behind the others. -/
theorem record (hpool : pool.Represents known) (hnew : bytes ∉ known)
    (hoffset : known.flatten.length < 2 ^ 32) (hlength : bytes.length < 2 ^ 32) :
    (pool.record bytes).Represents (known ++ [bytes]) := by
  have hle := two_mul_length_le hpool.distinct
  have hindices : known.length < 2 ^ 32 := by omega
  have hindex : pool.entries.size.toUInt32.toNat = known.length := by
    rw [hpool.size_entries]
    exact UInt32.toNat_ofNat_of_lt hindices
  refine ⟨hpool.distinct.append (List.nodup_singleton bytes) (by simpa using hnew), ?_, ?_, ?_⟩
  · have hentry : (pool.blob.size.toUInt32.toNat, bytes.length.toUInt32.toNat) =
        (known.flatten.length, bytes.length) := by
      rw [hpool.size_blob]
      exact Prod.ext (UInt32.toNat_ofNat_of_lt hoffset) (UInt32.toNat_ofNat_of_lt hlength)
    rw [spans_concat, ← hpool.entries_eq, Pool.record, Array.toList_push, List.map_append, ← hentry]
    rfl
  · rw [Pool.record, Array.toList_appendList, hpool.blob_eq, List.flatten_concat]
  · intro other index
    rw [Pool.record, List.lookup_cons, getElem?_concat_eq_some_iff]
    by_cases hother : other = bytes
    · subst hother
      -- the string was not there before, so it stands at the end only
      have hnone : known[index.toNat]? ≠ some other := fun hfound =>
        hnew (List.mem_of_getElem? hfound)
      simp only [beq_self_eq_true, Option.some.injEq, hnone, false_or, and_true]
      rw [← hindex, UInt32.toNat_inj, eq_comm]
    · simp only [beq_eq_false_iff_ne.mpr hother, hpool.lookup_iff, Ne.symm hother, and_false,
        or_false]

/-- A string that the pool has is not recorded again. -/
theorem intern_of_mem (hpool : pool.Represents known) (hmember : bytes ∈ known) :
    ∃ index, pool.intern bytes = .ok (index, pool) ∧ known[index.toNat]? = some bytes := by
  obtain ⟨index, hfound⟩ := hpool.exists_lookup hmember
  refine ⟨index, ?_, hpool.lookup_iff.mp hfound⟩
  unfold Pool.intern
  rw [hfound]

theorem intern_of_notMem (hpool : pool.Represents known) (hnew : bytes ∉ known) :
    pool.intern bytes =
      if 2 ^ 32 ≤ known.flatten.length then .error .poolTooLarge
      else if 2 ^ 32 ≤ bytes.length then .error .entryTooLarge
      else .ok (pool.entries.size.toUInt32, pool.record bytes) := by
  unfold Pool.intern
  rw [hpool.lookup_eq_none hnew, hpool.size_blob]
  rfl

/-- Interning a string keeps the records consistent, and it stands at its index. -/
theorem intern (hpool : pool.Represents known) (hintern : pool.intern bytes = .ok (index, after)) :
    after.Represents (adjoin known bytes) ∧ (adjoin known bytes)[index.toNat]? = some bytes := by
  by_cases hmember : bytes ∈ known
  · obtain ⟨found, hfound, hplace⟩ := hpool.intern_of_mem hmember
    rw [hfound] at hintern
    cases hintern
    rw [adjoin_of_mem hmember]
    exact ⟨hpool, hplace⟩
  · rw [hpool.intern_of_notMem hmember] at hintern
    split_ifs at hintern with hoffset hlength
    cases hintern
    have hrecorded := hpool.record hmember (Nat.not_le.mp hoffset) (Nat.not_le.mp hlength)
    rw [adjoin_of_notMem hmember]
    refine ⟨hrecorded, hrecorded.lookup_iff.mp ?_⟩
    rw [Pool.record, List.lookup_cons_self]

/-- Only a string for which the pool has no room is refused. -/
theorem exists_intern (hpool : pool.Represents known)
    (hroom : (adjoin known bytes).flatten.length < 2 ^ 32) :
    ∃ index after, pool.intern bytes = .ok (index, after) := by
  by_cases hmember : bytes ∈ known
  · obtain ⟨index, hintern, -⟩ := hpool.intern_of_mem hmember
    exact ⟨index, pool, hintern⟩
  · rw [adjoin_of_notMem hmember, List.flatten_concat, List.length_append] at hroom
    rw [hpool.intern_of_notMem hmember, if_neg (by omega), if_neg (by omega)]
    exact ⟨_, _, rfl⟩

end Represents

/-! ## Indices -/

section Intern

variable {pool after : Pool} {known : List (List UInt8)} {bytes : List UInt8} {index : UInt32}

/-- What stands at an index stays there when strings are added. -/
theorem bytes_of_getElem? {view : PoolView} (hstring : known[index.toNat]? = some bytes)
    (hview : known <+: view) : view.bytes index = .ok bytes := by
  unfold PoolView.bytes
  rw [getElem?_of_grown hstring hview]

/-- In every later pool, an index refers to the string that was interned. -/
theorem bytes_of_intern (hpool : pool.Represents known)
    (hintern : pool.intern bytes = .ok (index, after)) {view : PoolView}
    (hview : adjoin known bytes <+: view) : view.bytes index = .ok bytes :=
  bytes_of_getElem? (hpool.intern hintern).2 hview

/-- So is a text that was interned. -/
theorem string_of_intern {text : String} (hpool : pool.Represents known)
    (hintern : pool.intern (Text.utf8 text) = .ok (index, after)) {view : PoolView}
    (hview : adjoin known (Text.utf8 text) <+: view) : view.string index = .ok text := by
  unfold PoolView.string
  rw [bytes_of_intern hpool hintern hview]
  simp only [bind, Except.bind, Text.ofUtf8?_utf8]
  rfl

end Intern

/-! ## The data section -/

/-- An entry of the table is read back as the span that it records. -/
theorem readSpan_reads (entry : UInt32 × UInt32) :
    Reader.Reads PoolView.readSpan (encodeEntry entry) (entry.1.toNat, entry.2.toNat) :=
  (Reader.word32_reads entry.1).bind ((Reader.word32_reads entry.2).map _)

/-- The data section holds the strings of its pool. -/
theorem read_reads {pool : Pool} {strings : List (List UInt8)} {bytes : List UInt8}
    (hpool : pool.Represents strings) (hencoded : pool.encode = .ok bytes) :
    Reader.Reads PoolView.read bytes strings := by
  obtain ⟨count, hcount, hencoded⟩ := exists_of_bind_eq_ok hencoded
  obtain ⟨size, hsize, hencoded⟩ := exists_of_bind_eq_ok hencoded
  cases hencoded
  obtain ⟨n, hn, hreadsCount⟩ := Reader.count_reads hcount
  obtain ⟨total, htotal, hreadsSize⟩ := Reader.count_reads hsize
  have hspans : Reader.ReadsEach PoolView.readSpan (pool.entries.toList.flatMap encodeEntry)
      (spans 0 strings) := by
    rw [← hpool.entries_eq]
    exact Reader.ReadsEach.of_flatMap_map fun entry _ => readSpan_reads entry
  refine hreadsCount.bind ?_
  refine (Reader.many_reads hspans ?_).bind ?_
  · rw [hn, length_spans, hpool.size_entries]
  refine hreadsSize.bind ?_
  have hslices : PoolView.slices pool.blob.toList [] (spans 0 strings) = .ok strings := by
    rw [hpool.blob_eq]
    exact slices_spans strings [] []
  have hlength : pool.blob.toList.length = total.toNat := by rw [htotal, Array.length_toList]
  refine (Reader.take_reads hlength).bind_nil ?_
  rw [hslices]
  exact Reader.Reads.pure strings

end Pool

end Format

end StackCode
