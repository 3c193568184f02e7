import StackCode.Samples

/-!
# How the sample programs are built

The sample programs are written down as finished modules.  This file builds them step by
step: the builder hands out the identifiers, indices and labels that their instructions
name, and labels are moved after jumps to them were emitted.

Main definitions:

- `Samples.buildCount`, `Samples.buildPow`, `Samples.buildHello`.

Main results:

- Theorems `Samples.buildCount_eq`, `Samples.buildPow_eq`, `Samples.buildHello_eq`: no step
  fails, and the finished modules are those of `Samples`.
-/

namespace StackCode.Samples

/-- Emits the instructions of a routine under construction. -/
def emitIn (builder : Builder) (id : DefinitionId) (instructions : List Instruction) :
    Except BuildError Builder := do
  let (builder, _) ← builder.onRoutine id fun routine => .ok (routine.emit instructions, ())
  return builder

/-- Builds the routine that counts: the jump to the test comes before the test has its
place, and the body has its label moved to it. -/
def buildCounter (routine : Routine.Draft) : Except BuildError (Routine.Draft × Unit) := do
  let (routine, _) ← Routine.addParameter .i32 routine
  let (routine, i) ← routine.addLocal .i32
  let routine := routine.emit [pushInt 0, .popLocal i]
  let (routine, body) := routine.addLabel
  let (routine, check) := routine.addLabel
  let routine := routine.emit [.jump check]
  let routine ← routine.moveLabel body
  let routine := routine.emit
    [.pushLocal i, onInt .increment, .popLocal i, .pushLocal i, onInt .print]
  let routine ← routine.moveLabel check
  let routine := routine.emit
    [.pushLocal i, .pushArgument 0, .guard .lessThan .i32, .jump body, ret]
  return (routine, ())

/-- Builds the module that prints the numbers from one to a limit. -/
def buildCount (limit : Int) : Except BuildError Module := do
  let (builder, main) := (Builder.new "count" 0).addRoutine entryName
  let (builder, count) := builder.addRoutine "count"
  let builder ← emitIn builder main [pushInt limit, .callDefinition count, ret]
  let (builder, _) ← builder.onRoutine count buildCounter
  return builder.build

theorem buildCount_eq (limit : Int) : buildCount limit = .ok (count limit) := by
  cbv

/-- Builds the routine that raises its first argument to its second one.  The recursive case
follows the simple one, so its label is moved there. -/
def buildPower (pow : DefinitionId) (routine : Routine.Draft) :
    Except BuildError (Routine.Draft × Unit) := do
  let routine := routine.setReturnType .i32
  let (routine, x) ← Routine.addParameter .i32 routine
  let (routine, y) ← Routine.addParameter .i32 routine
  let (routine, recurse) := routine.addLabel
  let routine := routine.emit
    [.pushArgument y, pushInt 1, .guard .notEqual .i32, .jump recurse, .pushArgument x, ret]
  let routine ← routine.moveLabel recurse
  let routine := routine.emit
    [.pushArgument x, .pushArgument x, .pushArgument y, onInt .decrement, .callDefinition pow,
      onInt .multiply, ret]
  return (routine, ())

/-- Builds the module that prints a power. -/
def buildPow (base exponent : Int) : Except BuildError Module := do
  let (builder, main) := (Builder.new "pow" 0).addRoutine entryName
  let (builder, pow) := builder.addRoutine "pow"
  let builder ← emitIn builder main
    [pushInt base, pushInt exponent, .callDefinition pow, onInt .print, ret]
  let (builder, _) ← builder.onRoutine pow (buildPower pow)
  return builder.build

theorem buildPow_eq (base exponent : Int) : buildPow base exponent = .ok (pow base exponent) := by
  cbv

/-- Builds the module that prints a text through the host. -/
def buildHello (text : String) : Except BuildError Module := do
  let (builder, main) := (Builder.new "hello" 0).addRoutine entryName
  let (builder, puts) := builder.addExternal "puts"
  let (builder, message) := builder.addString text
  let (builder, _) ← builder.onExternal puts fun function => do
    let function := { function with library := "c", convention := .cdecl, returnType := .i32 }
    let (function, _) ← External.addParameter .pointer function
    return (function, ())
  let builder ← emitIn builder main
    [.pushResource message, .callDefinition puts, .discard .i32, ret]
  return builder.build

theorem buildHello_eq (text : String) : buildHello text = .ok (hello text) :=
  rfl

end StackCode.Samples
