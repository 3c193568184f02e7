import StackCode.Machine.Call
import StackCode.Numeric

/-!
# Instructions

What each instruction does to a machine.

Main definitions:

- `Machine.pushOperand`, `popOperand`: moves between operands and slots.
- `Machine.typed`: instructions on one data type.
- `Machine.execute`: any instruction.
-/

namespace StackCode.Machine

/-! ## Moves -/

/-- The offset and the type of a local variable. -/
def localSlot (routine : Routine) (index : LocalIndex) : Exec (Nat × DataType) := do
  let current ← frame
  match current.locals[index.toNat]?, routine.locals[index.toNat]? with
  | some offset, some type => return (offset, type)
  | _, _ => throw (.invalidLocal index)

/-- The offset and the type of an argument. -/
def argumentSlot (routine : Routine) (index : ArgumentIndex) : Exec (Nat × DataType) := do
  let current ← frame
  match current.arguments[index.toNat]?, routine.parameters[index.toNat]? with
  | some offset, some type => return (offset, type)
  | _, _ => throw (.invalidArgument index)

/-- The value that an operand stands for. -/
def operandValue (module : Module) (routine : Routine) : Operand → Exec Value
  | .const value => return value
  | .localVar index => do
    let (offset, type) ← localSlot routine index
    readSlot offset type
  | .argument index => do
    let (offset, type) ← argumentSlot routine index
    readSlot offset type
  | .localAddress index => do
    let (offset, _) ← localSlot routine index
    return .pointer (arenaAddress offset)
  | .argumentAddress index => do
    let (offset, _) ← argumentSlot routine index
    return .pointer (arenaAddress offset)
  | .resource index =>
    match module.resources.get? index with
    | none => throw (.invalidResource index)
    | some resource => do return .pointer (← placeResource index resource)
  | .routine id =>
    if (module.find? id).isNone then throw (.unresolvedCall (.definition id))
    else return .pointer (functionAddress id)

/-- Pushes the value of an operand. -/
def pushOperand (module : Module) (routine : Routine) (operand : Operand) : Exec Unit := do
  push (← operandValue module routine operand)

/-- Pops into an operand. -/
def popOperand (routine : Routine) : Operand → Exec Unit
  | .const value => do
    let _ ← pop value.type
    return ()
  | .localVar index => do
    let (offset, type) ← localSlot routine index
    writeSlot offset (← pop type)
  | .argument index => do
    let (offset, type) ← argumentSlot routine index
    writeSlot offset (← pop type)
  | _ => throw .malformedInstruction

/-! ## Typed instructions -/

/-- Replaces an address by the value stored there. -/
def load (type : DataType) : Exec Unit := do
  let address ← pop .pointer
  let value ← inspect fun machine => machine.memory.read address.raw type
  push value

/-- Stores a value at the address below it. -/
def store (type : DataType) : Exec Unit := do
  let value ← pop type
  let address ← pop .pointer
  onMemory (Memory.write address.raw value)

/-- Replaces the topmost operand. -/
def unary (opcode : Opcode) (type : DataType) : Exec Unit := do
  let a ← pop type
  push (← lift (Numeric.unary opcode type a))

/-- Replaces the two topmost operands. -/
def binary (opcode : Opcode) (type : DataType) : Exec Unit := do
  let b ← pop type
  let a ← pop type
  push (← lift (Numeric.binary opcode type a b))

/-- Pops a value and prints it on a line. -/
def printValue (type : DataType) : Exec Unit := do
  let value ← pop type
  print (Text.utf8 (value.text ++ "\n"))

/-- Executes an instruction on one data type. -/
def typed (opcode : Opcode) (type : DataType) : Exec Unit :=
  if type = .void then throw (.unsupportedType opcode .void)
  else
    match opcode with
    | .load => load type
    | .store => store type
    | .negate | .increment | .decrement | .not => unary opcode type
    | .print => printValue type
    | _ => binary opcode type

/-! ## Other instructions -/

/-- Pops the operands of a comparison and decides it. -/
def test (comparison : Comparison) (type : DataType) : Exec Bool := do
  let b ← if comparison.arity = 2 then pop type else pure (.zero type)
  let a ← pop type
  lift (Numeric.compare comparison type a b)

/-- Skips the next instruction. -/
def skip : Exec Unit := do
  let current ← frame
  onCalls (CallStack.jump (current.ip + 1))

/-- Continues at a label, which must not lie past the end of the routine. -/
def jump (routine : Routine) (label : Label) : Exec Unit :=
  match routine.target? label with
  | some position =>
    if position ≤ routine.code.size then onCalls (CallStack.jump position)
    else throw (.invalidLabel label)
  | none => throw (.invalidLabel label)

/-- Executes an instruction without operands. -/
def simple (opcode : Opcode) : Exec Flow :=
  match opcode with
  | .nop => return .proceed
  | .ret => leave
  | .printChar => do
    let value ← pop .u8
    print [value.raw.toUInt8]
    return .proceed
  | .readChar => do
    match ← readChar with
    | some byte => push (.ofNat .i32 byte.toNat)
    | none => push (.ofInt .i32 (-1))
    return .proceed
  | _ => throw .malformedInstruction

/-- Executes a comparison: a guard skips the next instruction unless it holds, and
any other opcode pushes its truth. -/
def conditional (opcode : Opcode) (comparison : Comparison) (type : DataType) : Exec Unit := do
  let holds ← test comparison type
  if opcode = .guard then
    if holds then return () else skip
  else push (.ofNat .i8 (if holds then 1 else 0))

/-- Executes an instruction of a routine. -/
def execute (setup : Setup) (routine : Routine) (instruction : Instruction) : Exec Flow :=
  if !instruction.isWellFormed then throw .malformedInstruction
  else
    match instruction with
    | .simple opcode => simple opcode
    | .typed opcode type => do typed opcode type; return .proceed
    | .convert _ source target => do
      let value ← pop source
      push (← lift (Numeric.cast value target))
      return .proceed
    | .conditional opcode comparison type => do
      conditional opcode comparison type
      return .proceed
    | .branch _ label => do jump routine label; return .proceed
    | .stack .push operand => do pushOperand setup.module routine operand; return .proceed
    | .stack _ operand => do popOperand routine operand; return .proceed
    | .call _ mode target => call setup mode target

end StackCode.Machine
