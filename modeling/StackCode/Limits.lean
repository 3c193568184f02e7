/-!
# Limits of an execution

Main definition: `Limits`, with the defaults of a plain run.
-/

namespace StackCode

/-- How much an execution may use: bytes of the arena, nested activations, and
instructions if they are limited. -/
structure Limits where
  stackSize : Nat
  maxCallDepth : Nat
  fuel : Option Nat
deriving DecidableEq, Repr

/-- The limits of a plain run: an arena of one mebibyte, 16384 nested activations
and any number of instructions. -/
def Limits.default : Limits := ⟨1048576, 16384, none⟩

end StackCode
