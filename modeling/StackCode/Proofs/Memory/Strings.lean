import Mathlib.Data.List.GetD
import StackCode.Proofs.Memory.Regions

/-!
# Strings in memory

A resource lies in memory with zero bytes after it, so a string that is read at its address
ends, and has the bytes of the resource up to the first zero among them.  In the encoding of
a text these are the bytes of its characters up to the first null character, because no
other character has a zero byte in its encoding.

Main results:

- Theorem `Text.takeWhile_utf8`: the bytes of an encoding up to the first zero.
- Theorem `Memory.untilZero_eq_takeWhile`: a search that comes to a zero.
- Theorem `Memory.readCString_resource`: the string at the address of a resource.
-/

namespace StackCode

/-! ## Encoded texts -/

namespace Text

/-- Only the null character has a zero byte in its encoding. -/
theorem zero_mem_utf8EncodeChar (c : Char) : 0 ∈ String.utf8EncodeChar c ↔ c = '\x00' := by
  have hnull : c = '\x00' ↔ c.val.toNat = 0 := by
    constructor
    · rintro rfl
      rfl
    · intro hzero
      exact Char.ext (UInt32.toNat_inj.mp hzero)
  have hbyte : ∀ n : Nat, n < 256 → (0 = UInt8.ofNat n ↔ n = 0) := by
    intro n hn
    rw [← UInt8.toNat_inj, UInt8.toNat_ofNat', Nat.mod_eq_of_lt hn]
    exact eq_comm
  rw [hnull, String.utf8EncodeChar]
  generalize c.val.toNat = code
  -- the bytes of all longer encodings have their highest bit set
  split_ifs with hone htwo hthree
  · rw [List.mem_singleton, hbyte code (by omega)]
  · simp (disch := omega) only [List.mem_cons, List.not_mem_nil, or_false, hbyte]
    omega
  · simp (disch := omega) only [List.mem_cons, List.not_mem_nil, or_false, hbyte]
    omega
  · simp (disch := omega) only [List.mem_cons, List.not_mem_nil, or_false, hbyte]
    omega

theorem utf8_ofList (chars : List Char) :
    utf8 (String.ofList chars) = chars.flatMap String.utf8EncodeChar := by
  simp [utf8, String.toUTF8, List.utf8Encode]

/-- The bytes of an encoding up to the first zero encode the characters up to the first null
character. -/
theorem takeWhile_utf8 (text : String) :
    (utf8 text).takeWhile (· ≠ 0) =
      utf8 (String.ofList (text.toList.takeWhile (· ≠ '\x00'))) := by
  have hnull : String.utf8EncodeChar '\x00' = [0] := rfl
  rw [← @String.ofList_toList text, String.toList_ofList, utf8_ofList, utf8_ofList]
  induction text.toList with
  | nil => rfl
  | cons c chars ih =>
    by_cases hc : c = '\x00'
    · rw [hc, List.flatMap_cons, hnull]
      simp
    · have hnonzero : ∀ byte ∈ String.utf8EncodeChar c, decide (byte ≠ 0) = true := by
        intro byte hbyte
        rw [decide_eq_true_eq]
        rintro rfl
        exact hc ((zero_mem_utf8EncodeChar c).mp hbyte)
      rw [List.flatMap_cons, List.takeWhile_append_of_pos hnonzero, ih,
        List.takeWhile_cons_of_pos (by simpa using hc), List.flatMap_cons]

end Text

/-! ## Resources -/

namespace Memory

/-- A search through bytes that a zero follows finds those before the first zero. -/
theorem untilZero_eq_takeWhile {byteAt : Nat → UInt8} {offset : Nat} {bytes : List UInt8}
    (hbytes : ∀ i (hi : i < bytes.length), byteAt (offset + i) = bytes[i])
    (hend : byteAt (offset + bytes.length) = 0) :
    untilZero byteAt offset (bytes.length + 1) = some (bytes.takeWhile (· ≠ 0)) := by
  induction bytes generalizing offset with
  | nil =>
    have hzero : byteAt offset = 0 := hend
    simp [untilZero, hzero]
  | cons byte bytes ih =>
    have hfirst : byteAt offset = byte := hbytes 0 (Nat.zero_lt_succ _)
    have hrest : untilZero byteAt (offset + 1) (bytes.length + 1) =
        some (bytes.takeWhile (· ≠ 0)) := by
      apply ih
      · intro i hi
        rw [Nat.add_assoc, Nat.add_comm 1]
        exact hbytes (i + 1) (Nat.succ_lt_succ hi)
      · rwa [List.length_cons, Nat.add_comm bytes.length, ← Nat.add_assoc] at hend
    rw [List.length_cons, untilZero, hfirst, hrest]
    by_cases hzero : byte = 0
    · simp [hzero]
    · simp [hzero]

/-- At least one zero byte follows a resource in memory. -/
theorem exists_terminated_eq (resource : Resource) :
    ∃ rest, resource.terminated = resource.bytes ++ 0 :: rest := by
  unfold Resource.terminated
  cases resource.kind with
  | bytes => exact ⟨[], rfl⟩
  | utf8 => exact ⟨[], rfl⟩
  | utf16 => exact ⟨[0], rfl⟩

/-- At the address of a resource that lies in memory there is a string, which ends with the
resource or at the first zero within it. -/
theorem readCString_resource {memory : Memory} {front rest : ByteArray} {resource : Resource}
    (hresources : memory.resources = front ++ resource.terminated.toByteArray ++ rest)
    (hcapacity : memory.arena.capacity ≤ maxArenaSize)
    (haddress : resourceBase + front.size < 2 ^ 64) :
    memory.readCString (resourceBase + front.size).toUInt64 =
      .ok (resource.bytes.takeWhile (· ≠ 0)) := by
  obtain ⟨zeros, hterminated⟩ := exists_terminated_eq resource
  have hsize : memory.resources.size =
      front.size + (resource.bytes.length + 1 + zeros.length) + rest.size := by
    simp [hresources, hterminated]
    omega
  have hresolve : memory.resolve (resourceBase + front.size).toUInt64 0 =
      .ok (.resource front.size) := by
    have hplace : (resourceBase + front.size).toUInt64.toNat = resourceBase + front.size :=
      UInt64.toNat_ofNat_of_lt' haddress
    have hbelow : ¬ (arenaBase ≤ resourceBase + front.size ∧
        resourceBase + front.size < arenaBase + memory.arena.capacity) := by
      unfold maxArenaSize at hcapacity
      omega
    have hwithin : resourceBase ≤ resourceBase + front.size ∧
        resourceBase + front.size < resourceBase + memory.resources.size := by
      omega
    simp only [resolve, hplace, if_neg hbelow, if_pos hwithin]
    rw [Nat.add_sub_cancel_left, if_pos (by omega)]
  have hbyte : ∀ i ≤ resource.bytes.length,
      memory.resourceByte (front.size + i) = resource.bytes.getD i 0 := by
    intro i hi
    have hfront : front.data.size = front.size := rfl
    rw [resourceByte_eq, hresources, hterminated, ByteArray.data_append, ByteArray.data_append,
      List.data_toByteArray, Array.getD_eq_getD_getElem?, List.getD_eq_getElem?_getD]
    grind
  have htext : memory.textAt? (.resource front.size) =
      some (resource.bytes.takeWhile (· ≠ 0)) := by
    refine untilZero_eq_some (untilZero_eq_takeWhile ?_ ?_) (by omega)
    · intro i hi
      rw [hbyte i hi.le, List.getD_eq_getElem _ _ hi]
    · rw [hbyte _ le_rfl, List.getD_eq_default _ _ le_rfl]
  simp only [readCString_eq, hresolve, htext]

end Memory

end StackCode
