import StackCode.Builder

/-!
# Sample programs

Three small modules that exercise loops, recursion and host calls.

Main definitions:

- `Samples.count`: prints the numbers from one to a limit.
- `Samples.pow`: prints a power, computed by recursion.
- `Samples.hello`: prints a text through the host.
-/

namespace StackCode.Samples

/-- Pushes a 32-bit integer. -/
def pushInt (n : Int) : Instruction := .pushConst (.ofInt .i32 n)

/-- An operation on 32-bit integers. -/
def onInt (opcode : Opcode) : Instruction := .typed opcode .i32

/-- Returns from the running routine. -/
def ret : Instruction := .simple .ret

/-- Prints the numbers from one to `limit`, one to a line. -/
def count (limit : Int) : Module :=
  let main : Routine :=
    { Routine.empty 0 entryName with
      code := #[pushInt limit, .callDefinition 1, ret] }
  let count : Routine :=
    { Routine.empty 1 "count" with
      parameters := [.i32]
      locals := #[.i32]
      labels := #[3, 8]
      code := #[
        pushInt 0,
        .popLocal 0,
        .jump 1,
        .pushLocal 0,
        onInt .increment,
        .popLocal 0,
        .pushLocal 0,
        onInt .print,
        .pushLocal 0,
        .pushArgument 0,
        .guard .lessThan .i32,
        .jump 0,
        ret] }
  ⟨"count", [.routine main, .routine count], .empty⟩

/-- Prints `base` raised to `exponent`, which is at least one. -/
def pow (base exponent : Int) : Module :=
  let main : Routine :=
    { Routine.empty 0 entryName with
      code := #[pushInt base, pushInt exponent, .callDefinition 1, onInt .print, ret] }
  let pow : Routine :=
    { Routine.empty 1 "pow" with
      returnType := .i32
      parameters := [.i32, .i32]
      labels := #[6]
      code := #[
        .pushArgument 1,
        pushInt 1,
        .guard .notEqual .i32,
        .jump 0,
        .pushArgument 0,
        ret,
        .pushArgument 0,
        .pushArgument 0,
        .pushArgument 1,
        onInt .decrement,
        .callDefinition 1,
        onInt .multiply,
        ret] }
  ⟨"pow", [.routine main, .routine pow], .empty⟩

/-- Prints a text and ends the line. -/
def hello (text : String) : Module :=
  let (resources, message) := ResourceTable.empty.addString text
  let main : Routine :=
    { Routine.empty 0 entryName with
      code := #[.pushResource message, .callDefinition 1, .discard .i32, ret] }
  let puts : External := ⟨1, "puts", .i32, [.pointer], "c", .cdecl⟩
  ⟨"hello", [.routine main, .external puts], resources⟩

end StackCode.Samples
