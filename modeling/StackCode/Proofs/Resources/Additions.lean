import Mathlib.Data.List.Nodup
import StackCode.Resource

/-!
# Additions to a resource table

A table grows only where bytes are added that it does not have.  So after any additions its
entries are those whose bytes were new when they came, in that order, and an index that an
addition returned stays the index of its bytes.  This holds across kinds: a text in UTF-16
and a plain byte string with the same bytes are one entry, which has the kind that came first.

Main definitions:

- `ResourceTable.Addition`: what can be added to a table.
- `ResourceTable.performAll`: additions one after another, with the indices they return.
- `ResourceTable.firsts`: the resources whose bytes did not come before.
- `ResourceTable.Deduplicated`: what is known of a table after additions.

Main results:

- Theorem `ResourceTable.find?_eq_some_iff`: where bytes are found.
- Theorem `ResourceTable.find?_add`: bytes are found at the index that their addition returns.
- Theorem `ResourceTable.entries_performAll`: the entries after any additions.
- Theorem `ResourceTable.performAll_of_found`: additions of bytes that are there.
- Theorem `ResourceTable.deduplicated_performAll`: the table after any additions.
-/

namespace StackCode.ResourceTable

/-! ## Finding bytes -/

section Find

variable {table other : ResourceTable} {resource : Resource} {bytes : List UInt8}
  {index : UInt32}

/-- Bytes are not found exactly when no entry has them. -/
theorem find?_eq_none_iff :
    table.find? bytes = none ↔ bytes ∉ table.entries.map Resource.bytes := by
  unfold find?
  rw [Option.map_eq_none_iff, List.findIdx?_eq_none_iff]
  simp only [beq_eq_false_iff_ne, List.mem_map, not_exists, not_and, ne_eq]

/-- In a table with distinct bytes whose indices do not run out, bytes are found at the index
of the entry that has them. -/
theorem find?_eq_some_iff (hdistinct : (table.entries.map Resource.bytes).Nodup)
    (hroom : table.size ≤ UInt32.size) :
    table.find? bytes = some index ↔
      ∃ entry, table.get? index = some entry ∧ entry.bytes = bytes := by
  have hplace : ∀ i < table.entries.length, i.toUInt32.toNat = i := fun i hi =>
    UInt32.toNat_ofNat_of_lt' (Nat.lt_of_lt_of_le hi hroom)
  unfold find? get?
  rw [Option.map_eq_some_iff]
  constructor
  · rintro ⟨i, hfound, rfl⟩
    obtain ⟨hi, hbytes, -⟩ := List.findIdx?_eq_some_iff_getElem.mp hfound
    refine ⟨table.entries[i], ?_, eq_of_beq hbytes⟩
    rw [hplace i hi, List.getElem?_eq_getElem hi]
  · rintro ⟨entry, hentry, rfl⟩
    obtain ⟨hi, rfl⟩ := List.getElem?_eq_some_iff.mp hentry
    refine ⟨index.toNat, ?_, UInt32.ofNat_toNat⟩
    rw [List.findIdx?_eq_some_iff_getElem]
    refine ⟨hi, beq_self_eq_true _, fun j hj => ?_⟩
    -- an earlier entry with the same bytes would be a second one
    have hne := List.pairwise_iff_getElem.mp hdistinct j index.toNat (by simp; omega)
      (by simpa using hi) hj
    simpa using hne

/-- Bytes that are found stay at their index when entries are appended. -/
theorem find?_of_grown (hgrown : table.entries <+: other.entries)
    (hfound : table.find? bytes = some index) : other.find? bytes = some index := by
  obtain ⟨more, hmore⟩ := hgrown
  obtain ⟨i, hi, rfl⟩ := Option.map_eq_some_iff.mp hfound
  unfold find?
  rw [← hmore, List.findIdx?_append, hi]
  rfl

end Find

/-! ## One addition -/

section Add

variable (table : ResourceTable) (resource : Resource)

/-- Bytes that the table has are not added. -/
theorem add_of_find? {table : ResourceTable} {resource : Resource} {index : UInt32}
    (hfound : table.find? resource.bytes = some index) : table.add resource = (table, index) := by
  rw [add, hfound]

/-- Bytes that the table does not have are appended. -/
theorem add_of_notMem {table : ResourceTable} {resource : Resource}
    (hnew : resource.bytes ∉ table.entries.map Resource.bytes) :
    table.add resource = (⟨table.entries ++ [resource]⟩, table.size.toUInt32) := by
  rw [add, find?_eq_none_iff.mpr hnew]

/-- The entries that are there keep their places. -/
theorem prefix_add : table.entries <+: (table.add resource).1.entries := by
  cases hfound : table.find? resource.bytes with
  | some index =>
    exact ⟨[], by rw [add_of_find? hfound, List.append_nil]⟩
  | none =>
    exact ⟨[resource], by rw [add_of_notMem (find?_eq_none_iff.mp hfound)]⟩

/-- Bytes are found at the index that their addition returns. -/
theorem find?_add :
    (table.add resource).1.find? resource.bytes = some (table.add resource).2 := by
  cases hfound : table.find? resource.bytes with
  | some index =>
    rw [add_of_find? hfound]
    exact hfound
  | none =>
    rw [add_of_notMem (find?_eq_none_iff.mp hfound)]
    unfold find? at hfound ⊢
    rw [List.findIdx?_append, Option.map_eq_none_iff.mp hfound]
    simp [size]

/-- No addition makes a second entry with the same bytes. -/
theorem nodup_add (hdistinct : (table.entries.map Resource.bytes).Nodup) :
    ((table.add resource).1.entries.map Resource.bytes).Nodup := by
  cases hfound : table.find? resource.bytes with
  | some index =>
    rw [add_of_find? hfound]
    exact hdistinct
  | none =>
    have hnew := find?_eq_none_iff.mp hfound
    rw [add_of_notMem hnew, List.map_append]
    exact hdistinct.append (List.nodup_singleton _) (by simpa using hnew)

end Add

/-! ## Additions one after another -/

/-- An addition to a table. -/
inductive Addition where
  | add (resource : Resource)
  | addString (text : String)
  | addUtf16 (text : String)
deriving DecidableEq, Repr

/-- The resource that is added. -/
def Addition.resource : Addition → Resource
  | add resource => resource
  | addString text => ⟨.utf8, Text.utf8 text⟩
  | addUtf16 text => ⟨.utf16, Text.utf16 text⟩

/-- The table after an addition, with the index that it returns. -/
def perform (table : ResourceTable) : Addition → ResourceTable × UInt32
  | .add resource => table.add resource
  | .addString text => table.addString text
  | .addUtf16 text => table.addUtf16 text

/-- The table after additions one after another, with the indices that they return. -/
def performAll (table : ResourceTable) : List Addition → ResourceTable × List UInt32
  | [] => (table, [])
  | addition :: rest =>
    let (next, index) := table.perform addition
    let (last, indices) := next.performAll rest
    (last, index :: indices)

/-- Whether two resources have the same bytes, of whatever kind. -/
def sameBytes (resource other : Resource) : Bool := resource.bytes == other.bytes

/-- The resources whose bytes did not come before. -/
def firsts (resources : List Resource) : List Resource := resources.eraseDupsBy sameBytes

section Histories

variable (table : ResourceTable)

/-- Every addition is one of a resource. -/
theorem perform_eq (addition : Addition) :
    table.perform addition = table.add addition.resource := by
  cases addition <;> rfl

theorem performAll_cons (addition : Addition) (rest : List Addition) :
    table.performAll (addition :: rest) =
      (((table.add addition.resource).1.performAll rest).1,
        (table.add addition.resource).2 ::
          ((table.add addition.resource).1.performAll rest).2) := by
  rw [performAll, perform_eq]

/-- The entries that are there keep their places. -/
theorem prefix_performAll (additions : List Addition) :
    table.entries <+: (table.performAll additions).1.entries := by
  induction additions generalizing table with
  | nil => exact List.prefix_refl _
  | cons addition rest ih =>
    rw [performAll_cons]
    exact (table.prefix_add addition.resource).trans (ih _)

/-- Later additions go on with the table that earlier ones leave. -/
theorem fst_performAll_append (before later : List Addition) :
    (table.performAll (before ++ later)).1 =
      ((table.performAll before).1.performAll later).1 := by
  induction before generalizing table with
  | nil => rfl
  | cons addition rest ih =>
    rw [List.cons_append, performAll_cons, performAll_cons]
    exact ih _

/-- Additions keep the bytes of a table distinct. -/
theorem nodup_performAll (hdistinct : (table.entries.map Resource.bytes).Nodup)
    (additions : List Addition) :
    ((table.performAll additions).1.entries.map Resource.bytes).Nodup := by
  induction additions generalizing table with
  | nil => exact hdistinct
  | cons addition rest ih =>
    rw [performAll_cons]
    exact ih _ (table.nodup_add addition.resource hdistinct)

/-- The bytes of every addition are found at the index that it returned. -/
theorem found_performAll (additions : List Addition) :
    List.Forall₂ (fun addition index =>
        (table.performAll additions).1.find? addition.resource.bytes = some index)
      additions (table.performAll additions).2 := by
  induction additions generalizing table with
  | nil => exact .nil
  | cons addition rest ih =>
    rw [performAll_cons]
    exact .cons (find?_of_grown (prefix_performAll _ rest) (table.find?_add addition.resource))
      (ih _)

/-- Additions of bytes that a table has leave it as it is and return the indices where these
are found. -/
theorem performAll_of_found {additions : List Addition} {indices : List UInt32}
    (hfound : List.Forall₂ (fun addition index =>
      table.find? addition.resource.bytes = some index) additions indices) :
    table.performAll additions = (table, indices) := by
  induction hfound with
  | nil => rfl
  | cons hfirst _ ih => rw [performAll_cons, add_of_find? hfirst, ih]

/-- The entries that a table has before it count as earlier additions. -/
theorem entries_performAll (additions : List Addition) :
    (table.performAll additions).1.entries =
      List.eraseDupsBy.loop sameBytes (additions.map Addition.resource) table.entries.reverse := by
  induction additions generalizing table with
  | nil => exact (List.reverse_reverse _).symm
  | cons addition rest ih =>
    have hknown : table.entries.reverse.any (sameBytes addition.resource) =
        (table.find? addition.resource.bytes).isSome := by
      unfold find?
      rw [List.any_reverse, Option.isSome_map, List.findIdx?_isSome]
      congr 1
      funext entry
      exact Bool.beq_comm
    rw [performAll_cons, ih, List.map_cons, List.eraseDupsBy.loop, hknown]
    cases hfound : table.find? addition.resource.bytes with
    | some index =>
      rw [add_of_find? hfound]
      rfl
    | none =>
      rw [add_of_notMem (find?_eq_none_iff.mp hfound), List.reverse_append]
      rfl

end Histories

/-! ## The table after any additions -/

/-- A table that came from additions is a list of distinct byte strings to which they only
ever append. -/
structure Deduplicated (additions : List Addition) (table : ResourceTable)
    (indices : List UInt32) : Prop where
  /-- No two entries have the same bytes. -/
  distinct : (table.entries.map Resource.bytes).Nodup
  /-- The entries are the resources whose bytes were new, in the order of their additions. -/
  entries_eq : table.entries = firsts (additions.map Addition.resource)
  /-- Every addition returned the index of the entry with its bytes. -/
  index : List.Forall₂ (fun addition index =>
    ∃ entry, table.get? index = some entry ∧ entry.bytes = addition.resource.bytes)
      additions indices
  /-- The entries that were there at any time have kept their places. -/
  kept : ∀ before later, additions = before ++ later →
    (empty.performAll before).1.entries <+: table.entries
  /-- Bytes are found at an index exactly when its entry has them. -/
  found : ∀ bytes index, table.find? bytes = some index ↔
    ∃ entry, table.get? index = some entry ∧ entry.bytes = bytes
  /-- The same additions once more return the same indices and change nothing. -/
  replay : table.performAll additions = (table, indices)

/-- After any additions to an empty table, as long as the indices do not run out, the table
is the list of the distinct byte strings that were added. -/
theorem deduplicated_performAll (additions : List Addition)
    (hroom : (empty.performAll additions).1.size ≤ UInt32.size) :
    Deduplicated additions (empty.performAll additions).1 (empty.performAll additions).2 := by
  have hdistinct := empty.nodup_performAll List.nodup_nil additions
  have hfound := empty.found_performAll additions
  exact
    { distinct := hdistinct
      entries_eq := empty.entries_performAll additions
      index := hfound.imp fun addition index h => (find?_eq_some_iff hdistinct hroom).mp h
      kept := by
        rintro before later rfl
        rw [fst_performAll_append]
        exact prefix_performAll _ later
      found := fun bytes index => find?_eq_some_iff hdistinct hroom
      replay := performAll_of_found _ hfound }

/-- Additions of all kinds, some with the same bytes: U+7868 in UTF-16 has the bytes of "hx",
and the empty text has no bytes in either encoding. -/
def coinciding : List Addition :=
  [.addUtf16 "\u7868", .addString "", .add ⟨.bytes, [104, 120]⟩, .addString "x", .addUtf16 "x",
    .addUtf16 "", .addString "hx"]

theorem deduplicated_performAll_coinciding :
    (empty.performAll coinciding).1.size ≤ UInt32.size ∧
      (empty.performAll coinciding).1.entries =
        [⟨.utf16, [104, 120]⟩, ⟨.utf8, []⟩, ⟨.utf8, [120]⟩, ⟨.utf16, [120, 0]⟩] ∧
      (empty.performAll coinciding).2 = [0, 1, 0, 2, 3, 1, 0] ∧
      Deduplicated coinciding (empty.performAll coinciding).1 (empty.performAll coinciding).2 :=
  have hroom : (empty.performAll coinciding).1.size ≤ UInt32.size := by decide
  ⟨hroom, by decide, by decide, deduplicated_performAll coinciding hroom⟩

end StackCode.ResourceTable
