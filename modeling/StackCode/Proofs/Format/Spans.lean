import Mathlib.Data.List.Nodup
import Mathlib.Data.List.Perm.Subperm
import StackCode.Format.Decode

/-!
# Strings laid end to end

Strings that lie one after another in a blob are told apart by the offset and the length of
each.  Strings that are distinct cannot be many without being long: there are only 257 with
fewer than two bytes.

Main definitions:

- `Pool.spans`: the offset and the length of each string.

Main results:

- Theorem `Pool.slices_spans`: cutting a blob at the spans of its strings.
- Theorem `Pool.slice_flatten`: cutting it at one span.
- Theorem `Pool.two_mul_length_le`: distinct strings take room.
-/

namespace StackCode.Format.Pool

/-! ## Spans -/

/-- The offset and the length of each string, the first one starting at `offset`. -/
def spans (offset : Nat) : List (List UInt8) → List (Nat × Nat)
  | [] => []
  | bytes :: rest => (offset, bytes.length) :: spans (offset + bytes.length) rest

@[simp]
theorem length_spans (offset : Nat) (strings : List (List UInt8)) :
    (spans offset strings).length = strings.length := by
  induction strings generalizing offset with
  | nil => rfl
  | cons string strings ih => rw [spans, List.length_cons, ih, List.length_cons]

/-- The spans of further strings come after those that are there. -/
theorem spans_append (offset : Nat) (strings others : List (List UInt8)) :
    spans offset (strings ++ others) =
      spans offset strings ++ spans (offset + strings.flatten.length) others := by
  induction strings generalizing offset with
  | nil => rfl
  | cons bytes strings ih =>
    simp only [List.cons_append, spans, ih, List.flatten_cons, List.length_append, Nat.add_assoc]

/-- A string has its span behind the strings before it. -/
theorem spans_concat (strings : List (List UInt8)) (bytes : List UInt8) :
    spans 0 (strings ++ [bytes]) = spans 0 strings ++ [(strings.flatten.length, bytes.length)] := by
  rw [spans_append, Nat.zero_add]
  rfl

/-- Cutting the strings at their spans gives them back. -/
theorem slices_spans (strings before : List (List UInt8)) (front : List UInt8) :
    PoolView.slices (front ++ strings.flatten) before (spans front.length strings) =
      .ok (before.reverse ++ strings) := by
  induction strings generalizing before front with
  | nil => simp [spans, PoolView.slices]
  | cons string strings ih =>
    have hslice : PoolView.slice (front ++ (string :: strings).flatten)
        (front.length, string.length) = .ok string := by
      unfold PoolView.slice
      rw [if_pos (by simp)]
      simp
    unfold spans PoolView.slices
    rw [hslice]
    simp only
    have hnext := ih (string :: before) (front ++ string)
    rw [List.append_assoc, List.length_append, List.reverse_cons, List.append_assoc] at hnext
    exact hnext

/-- Each string has its span, and the span covers its bytes. -/
theorem slice_flatten {strings : List (List UInt8)} {i : Nat} {bytes : List UInt8}
    (hstring : strings[i]? = some bytes) :
    ∃ span, (spans 0 strings)[i]? = some span ∧
      PoolView.slice strings.flatten span = .ok bytes := by
  obtain ⟨hlt, rfl⟩ := List.getElem?_eq_some_iff.mp hstring
  have hfront : (strings.take i).length = i := List.length_take_of_le (Nat.le_of_lt hlt)
  have hsplit : strings = strings.take i ++ strings[i] :: strings.drop (i + 1) := by
    rw [← List.drop_eq_getElem_cons hlt, List.take_append_drop]
  refine ⟨((strings.take i).flatten.length, strings[i].length), ?_, ?_⟩
  · have hspans := congrArg (spans 0) hsplit
    rw [spans_append, spans, Nat.zero_add] at hspans
    have hplace : (spans 0 (strings.take i)).length = i := (length_spans 0 _).trans hfront
    rw [hspans, List.getElem?_append_right (Nat.le_of_eq hplace), hplace, Nat.sub_self]
    rfl
  · have hblob := congrArg List.flatten hsplit
    rw [List.flatten_append, List.flatten_cons] at hblob
    unfold PoolView.slice
    rw [hblob, if_pos (by simp only [List.length_append]; omega), List.drop_left, List.take_left]

/-! ## Room for indices -/

/-- Whether a string has fewer than two bytes. -/
def isShort (bytes : List UInt8) : Bool := bytes.length < 2

/-- A number below 257 that tells the strings with fewer than two bytes apart. -/
def shortKey : List UInt8 → Nat
  | [] => 0
  | byte :: _ => byte.toNat + 1

theorem shortKey_lt (bytes : List UInt8) : shortKey bytes < 257 := by
  cases bytes with
  | nil => decide
  | cons byte rest =>
    have hlt := byte.toNat_lt
    rw [shortKey]
    omega

theorem isShort_cases {bytes : List UInt8} (hshort : isShort bytes) :
    bytes = [] ∨ ∃ byte, bytes = [byte] := by
  rw [isShort, decide_eq_true_iff, Nat.lt_succ_iff, Nat.le_one_iff_eq_zero_or_eq_one] at hshort
  exact hshort.imp List.eq_nil_of_length_eq_zero List.length_eq_one_iff.mp

theorem shortKey_inj {bytes other : List UInt8} (hbytes : isShort bytes) (hother : isShort other)
    (hsame : shortKey bytes = shortKey other) : bytes = other := by
  rcases isShort_cases hbytes with rfl | ⟨byte, rfl⟩ <;>
    rcases isShort_cases hother with rfl | ⟨another, rfl⟩
  · rfl
  · cases hsame
  · cases hsame
  · have htoNat : byte.toNat = another.toNat := Nat.succ.inj hsame
    rw [UInt8.toNat_inj.mp htoNat]

/-- Distinct strings with fewer than two bytes are at most 257. -/
theorem countP_isShort_le {strings : List (List UInt8)} (hdistinct : strings.Nodup) :
    strings.countP isShort ≤ 257 := by
  have hkeys : ((strings.filter isShort).map shortKey).Nodup :=
    (hdistinct.filter _).map_on fun bytes hbytes other hother =>
      shortKey_inj (List.mem_filter.mp hbytes).2 (List.mem_filter.mp hother).2
  have hbelow : (strings.filter isShort).map shortKey ⊆ List.range 257 := by
    intro key hkey
    obtain ⟨bytes, -, rfl⟩ := List.mem_map.mp hkey
    exact List.mem_range.mpr (shortKey_lt bytes)
  have hle := (List.subperm_of_subset hkeys hbelow).length_le
  rwa [List.length_map, List.length_range, ← List.countP_eq_length_filter] at hle

/-- All but the short strings take two bytes. -/
theorem two_mul_length_le_add (strings : List (List UInt8)) :
    2 * strings.length ≤ strings.flatten.length + 2 * strings.countP isShort := by
  induction strings with
  | nil => simp
  | cons bytes strings ih =>
    rw [List.length_cons, List.flatten_cons, List.length_append, List.countP_cons]
    by_cases hshort : isShort bytes
    · rw [if_pos hshort]
      omega
    · rw [isShort, decide_eq_true_iff] at hshort
      omega

/-- Distinct strings take room. -/
theorem two_mul_length_le {strings : List (List UInt8)} (hdistinct : strings.Nodup) :
    2 * strings.length ≤ strings.flatten.length + 514 := by
  have hall := two_mul_length_le_add strings
  have hshort := countP_isShort_le hdistinct
  omega

end StackCode.Format.Pool
