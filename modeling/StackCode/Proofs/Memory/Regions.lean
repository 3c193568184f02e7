import Mathlib.Algebra.Order.Ring.Nat
import StackCode.Memory

/-!
# Where an access leads

An access by address is let through only to live bytes of the arena and to resources that
are in memory; every other one is blamed on its address.

Main results:

- Theorems `Memory.live_of_resolve`, `Memory.within_of_resolve`: accesses that are let
  through.
- Theorem `Memory.fault_of_resolve`: accesses that are not.
- Theorem `Memory.readCString_eq`: strings.
- Theorem `Memory.untilZero_eq_some`: the bytes before the first zero do not depend on what
  comes after it.
-/

namespace StackCode.Memory

section Resolve

variable {memory : Memory} {address : UInt64} {length offset : Nat}

/-- An access that lies in the arena lies in its live bytes. -/
theorem live_of_resolve (hregion : memory.resolve address length = .ok (.arena offset)) :
    offset + length ≤ memory.arena.sp := by
  unfold Memory.resolve at hregion
  generalize arenaBase = arenaStart, resourceBase = resourceStart at hregion
  grind

/-- An access that lies among the resources lies within them. -/
theorem within_of_resolve (hregion : memory.resolve address length = .ok (.resource offset)) :
    offset + length ≤ memory.resources.size := by
  unfold Memory.resolve at hregion
  generalize arenaBase = arenaStart, resourceBase = resourceStart at hregion
  grind

/-- An access that leads nowhere is blamed on its address. -/
theorem fault_of_resolve {fault : Fault} (hresolve : memory.resolve address length = .error fault) :
    fault = .invalidAddress address := by
  unfold Memory.resolve at hresolve
  generalize arenaBase = arenaStart, resourceBase = resourceStart at hresolve
  grind

end Resolve

/-! ## Bytes before a zero -/

section UntilZero

variable {byteAt other : Nat → UInt8} {offset length : Nat}

/-- The bytes before the first zero depend on the searched bytes only. -/
theorem untilZero_congr (hbytes : ∀ i < offset + length, other i = byteAt i) :
    untilZero other offset length = untilZero byteAt offset length := by
  induction length generalizing offset with
  | zero => rfl
  | succ length ih =>
    unfold untilZero
    rw [hbytes offset (by omega), ih fun i hi => hbytes i (by omega)]

/-- A zero that was found is found as well when more bytes are searched. -/
theorem untilZero_eq_some {more : Nat} {text : List UInt8}
    (hfound : untilZero byteAt offset length = some text) (hmore : length ≤ more) :
    untilZero byteAt offset more = some text := by
  induction length generalizing offset more text with
  | zero => simp [untilZero] at hfound
  | succ length ih =>
    rcases Nat.exists_eq_add_of_le' (Nat.lt_of_lt_of_le (Nat.succ_pos length) hmore) with
      ⟨rest, rfl⟩
    unfold untilZero at hfound ⊢
    by_cases hzero : byteAt offset = 0
    · rwa [if_pos hzero] at hfound ⊢
    · rw [if_neg hzero, Option.map_eq_some_iff] at hfound
      rcases hfound with ⟨tail, htail, rfl⟩
      rw [if_neg hzero, ih htail (by omega)]
      rfl

end UntilZero

/-- The bytes from a place in memory up to the first zero. -/
def textAt? (memory : Memory) : Region → Option (List UInt8)
  | .arena offset => untilZero memory.arena.byteAt offset (memory.arena.sp - offset)
  | .resource offset =>
    untilZero memory.resourceByte offset (memory.resources.size - offset)

/-- A string is read where its address leads, if it ends there. -/
theorem readCString_eq (memory : Memory) (address : UInt64) :
    memory.readCString address =
      match memory.resolve address 0 with
      | .error fault => .error fault
      | .ok region =>
        match memory.textAt? region with
        | some text => .ok text
        | none => .error (.invalidAddress address) := by
  unfold readCString
  cases memory.resolve address 0 with
  | error fault => rfl
  | ok region =>
    cases region with
    | arena offset => rfl
    | resource offset => rfl

end StackCode.Memory
