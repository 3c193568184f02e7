import StackCode.Machine.State

/-!
# Calls and returns

Opening, replacing and closing activations, and calls of host functions.

Main definitions:

- `Machine.enter`: opens an activation on top of its arguments.
- `Machine.tailEnter`: replaces the running activation.
- `Machine.leave`: closes the running activation and resumes its caller.
- `Machine.callExternal`: calls a host function.
- `Machine.call`: executes a call instruction.
-/

namespace StackCode

/-- What the machine does after an instruction. -/
inductive Flow where
  | proceed
  | finished (result : Option Value)
deriving DecidableEq, Repr

namespace Machine

/-! ## Activations -/

/-- The offsets of values that end at `top`, whose types are given topmost first, in
front of offsets found before; with the offset of the lowest.  Absent when they would
start below zero. -/
def offsetsBelow (top : Nat) (offsets : List Nat) : List DataType → Option (List Nat × Nat)
  | [] => some (offsets, top)
  | type :: rest =>
    if top < type.size then none
    else offsetsBelow (top - type.size) ((top - type.size) :: offsets) rest

/-- Pushes zero values of the given types and returns their offsets after those
pushed before, which are given in reverse. -/
def pushLocals (reversed : List Nat) : List DataType → Exec (List Nat)
  | [] => return reversed.reverse
  | type :: rest => do
    let offset ← onArena (Arena.push (.zero type))
    pushLocals (offset :: reversed) rest

/-- Lays out an activation on top of its arguments. -/
def layOut (routine : Routine) (savedFp : UInt64) (savedIp : UInt32) : Exec Unit := do
  let header ← sp
  match offsetsBelow header [] routine.parameters.reverse with
  | none => throw .stackUnderflow
  | some (arguments, base) =>
    push (.pointer savedFp)
    push ⟨.u32, savedIp.toUInt64⟩
    let fp ← sp
    let locals ← pushLocals [] routine.locals.toList
    let floor ← sp
    pushFrame ⟨routine, 0, fp, floor, base, arguments, locals⟩

/-- Opens an activation of a routine whose arguments are on top. -/
def enter (limits : Limits) (routine : Routine) : Exec Unit := do
  let (depth, savedFp, savedIp) ← inspect fun machine =>
    .ok (machine.calls.depth,
      match machine.calls.top? with
      | some frame => (frame.fp.toUInt64, frame.ip.toUInt32)
      | none => (0, 0))
  if limits.maxCallDepth ≤ depth then throw .stackOverflow
  else
    checkTop routine.parameters
    layOut routine savedFp savedIp

/-- The saved frame and position of an activation. -/
def savedRegisters (fp : Nat) : Exec (UInt64 × UInt32) :=
  if fp < headerSize then throw .stackUnderflow
  else do
    let savedFp ← readSlot (fp - headerSize) .pointer
    let savedIp ← readSlot (fp - headerSize + 8) .u32
    return (savedFp.raw, savedIp.raw.toUInt32)

/-- Replaces the running activation by one of a routine whose arguments are on top.
It returns where the replaced one would have returned. -/
def tailEnter (routine : Routine) : Exec Unit := do
  checkTop routine.parameters
  let arguments ← popMany routine.parameters
  let old ← frame
  onCalls CallStack.pop
  let (savedFp, savedIp) ← savedRegisters old.fp
  truncate old.base
  pushMany arguments
  layOut routine savedFp savedIp

/-- The value that the running routine returns. -/
def popResult (type : DataType) : Exec (Option Value) :=
  if type = .void then return none
  else do return some (← pop type)

/-- Closes the running activation and resumes its caller with the returned value. -/
def leave : Exec Flow := do
  let old ← frame
  let result ← popResult old.routine.returnType
  let (_, savedIp) ← savedRegisters old.fp
  truncate old.base
  onCalls CallStack.pop
  let isLast ← inspect fun machine => .ok machine.calls.frames.isEmpty
  if isLast then return .finished result
  else
    onCalls (CallStack.jump savedIp.toNat)
    match result with
    | some value => push value
    | none => pure ()
    return .proceed

/-! ## Host calls -/

/-- Runs a host function. -/
def runHost (program : HostProgram) : Exec (Option Value) := fun machine =>
  match machine with
  | ⟨memory, console, notes, calls, fuel, executed, peak⟩ =>
    match program.run ⟨memory, console, notes⟩ with
    | .ok result ⟨memory, console, notes⟩ =>
      .ok result ⟨memory, console, notes, calls, fuel, executed, peak⟩
    | .error message ⟨memory, console, notes⟩ =>
      .error (.hostFunction message) ⟨memory, console, notes, calls, fuel, executed, peak⟩

/-- Calls a host function and pushes what it returns, which must have the declared
type. -/
def callExternal (host : Host) (function : External) : Exec Unit := do
  checkTop function.parameters
  match host.find? function.library function.name with
  | none => throw (.unresolvedCall (.host function.library function.name))
  | some program =>
    let arguments ← popMany function.parameters
    match ← runHost (program arguments) with
    | some value =>
      if value.type = function.returnType then push value
      else throw (.typeMismatch function.returnType value.type)
    | none =>
      if function.returnType = .void then return ()
      else throw (.typeMismatch function.returnType .void)

/-! ## Call instructions -/

/-- The definition that a function value refers to. -/
def functionAt (module : Module) (address : UInt64) : Except Fault Definition :=
  match (functionId? address).bind module.find? with
  | some definition => .ok definition
  | none =>
    if address.toNat < functionBase then .error (.invalidAddress address)
    else .error (.unresolvedCall (.functionValue address))

/-- The definition that a call reaches. -/
def callee (module : Module) : CallTarget → Exec Definition
  | .definition id =>
    match module.find? id with
    | some definition => return definition
    | none => throw (.unresolvedCall (.definition id))
  | .indirect expected => do
    let address ← pop .pointer
    let definition ← lift (functionAt module address.raw)
    if definition.signature = expected then return definition
    else throw (.signatureMismatch expected definition.signature)

/-- Executes a call. -/
def call (setup : Setup) (mode : CallMode) (target : CallTarget) : Exec Flow := do
  match ← callee setup.module target, mode with
  | .routine routine, .direct => enter setup.limits routine; return .proceed
  | .routine routine, .tail => tailEnter routine; return .proceed
  | .external function, .direct => callExternal setup.host function; return .proceed
  | .external function, .tail => callExternal setup.host function; leave

end Machine

end StackCode
