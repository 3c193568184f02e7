import StackCode.Proofs.Machine.FrameLayout

/-!
# A machine with structured activations

A second machine for the same instructions.  Its state is a list of activation records
with lists of values in them; it has no arena, no offsets and no saved registers.  An
instruction acts on the running activation alone, and what it asks for beyond that, a
call or a return, is carried out afterwards.  Only the total size of all values, laid
out side by side, and the number of activations limit it.

The machine has no addresses of locals and arguments, does not load or store, and has no
host functions.

Main definitions:

- `Structured.Activation`: an activation record.
- `Structured.Scene`, `Structured.execute`: what an instruction does to the running
  activation.
- `Structured.enter`, `Structured.tailEnter`, `Structured.leave`: calls and returns.
- `Structured.step`, `Structured.runFor`, `Structured.runUpTo`: runs.
-/

namespace StackCode

namespace Structured

/-! ## Activations -/

/-- Number of bytes that values take side by side. -/
def packedSize (values : List Value) : Nat := totalSize (values.map Value.type)

/-- An activation record.  `ip` is the index of the next instruction, operands are listed
topmost first, and `resume` is the position at which the caller goes on. -/
structure Activation where
  routine : Routine
  ip : Nat
  arguments : List Value
  locals : List Value
  operands : List Value
  resume : Nat
deriving DecidableEq, Repr

namespace Activation

/-- Number of bytes of an activation: arguments, header, locals and operands. -/
def size (activation : Activation) : Nat :=
  packedSize activation.arguments + headerSize + packedSize activation.locals +
    packedSize activation.operands

/-- A new activation of a routine, whose locals are zero. -/
def opened (routine : Routine) (arguments : List Value) (resume : Nat) : Activation :=
  ⟨routine, 0, arguments, routine.locals.toList.map .zero, [], resume⟩

/-- The value that an activation returns: its topmost operand, unless its routine returns
nothing. -/
def result (activation : Activation) : Except Fault (Option Value) :=
  if activation.routine.returnType = .void then .ok none
  else
    match activation.operands with
    | [] => .error .stackUnderflow
    | value :: _ =>
      if value.type ≠ activation.routine.returnType then
        .error (.typeMismatch activation.routine.returnType value.type)
      else .ok (some value)

/-- The arguments for a call among the operands, the last on top, and the operands below
them. -/
def takeArguments (activation : Activation) (parameters : List DataType) :
    Except Fault (List Value × List Value) :=
  match Arena.matchTop (activation.operands.map Value.type) parameters with
  | .error fault => .error fault
  | .ok _ => .ok ((activation.operands.take parameters.length).reverse,
      activation.operands.drop parameters.length)

end Activation

/-- Number of bytes of all activations. -/
def usedBytes (activations : List Activation) : Nat := (activations.map Activation.size).sum

theorem usedBytes_cons (activation : Activation) (activations : List Activation) :
    usedBytes (activation :: activations) = activation.size + usedBytes activations := by
  simp [usedBytes]

/-! ## The running activation -/

/-- Where resources were placed: the offset of each one, and the next free offset. -/
structure Placement where
  next : Nat
  offsets : List (ResourceIndex × Nat)
deriving DecidableEq, Repr

/-- The address of a resource, which gets the next free offset when it is first asked
for. -/
def Placement.place (placement : Placement) (index : ResourceIndex) (resource : Resource) :
    UInt64 × Placement :=
  match placement.offsets.lookup index with
  | some offset => ((resourceBase + offset).toUInt64, placement)
  | none =>
    ((resourceBase + placement.next).toUInt64,
      ⟨placement.next + resource.terminated.length,
        (index, placement.next) :: placement.offsets⟩)

/-- What an instruction acts on: the running activation, the console and the placed
resources. -/
structure Scene where
  current : Activation
  console : Console
  placement : Placement

/-- A computation on the running activation that can end with a fault. -/
abbrev Act := EStateM Fault Scene

/-- What an instruction asks for when it is done with the running activation. -/
inductive Effect where
  | next
  | call (mode : CallMode) (routine : Routine)
  | leave
deriving DecidableEq, Repr

/-- The running activation. -/
def running : Act Activation := fun scene => .ok scene.current scene

@[simp]
theorem running_bind {α : Type} (next : Activation → Act α) (scene : Scene) :
    (running >>= next) scene = next scene.current scene := rfl

/-- Changes the running activation. -/
def update (change : Activation → Activation) : Act Unit := fun scene =>
  .ok () { scene with current := change scene.current }

/-- A result that can be a fault. -/
def lift {α : Type} (result : Except Fault α) : Act α := fun scene =>
  match result with
  | .ok result => .ok result scene
  | .error fault => .error fault scene

/-- Pushes an operand, of which the bits of its type are kept, when the activation has
room for it. -/
def push (room : Nat) (value : Value) : Act Unit := fun scene =>
  if value.type = .void then .error (.unsupportedType .push .void) scene
  else if room < scene.current.size + value.size then .error .stackOverflow scene
  else update (fun current =>
    { current with operands := value.stored :: current.operands }) scene

/-- Pops an operand of a type. -/
def pop (type : DataType) : Act Value := fun scene =>
  match scene.current.operands with
  | [] => .error .stackUnderflow scene
  | value :: operands =>
    if value.type ≠ type then .error (.typeMismatch type value.type) scene
    else .ok value { scene with current := { scene.current with operands } }

/-- Continues at a position of the running routine. -/
def jumpTo (position : Nat) : Act Unit := update fun current => { current with ip := position }

/-- Writes bytes to the console. -/
def print (bytes : List UInt8) : Act Unit := fun scene =>
  .ok () { scene with console := scene.console.write bytes }

/-- Takes the next byte of the input. -/
def readChar : Act (Option UInt8) := fun scene =>
  let (byte?, console) := scene.console.readByte
  .ok byte? { scene with console }

/-- The address of a resource. -/
def placeResource (index : ResourceIndex) (resource : Resource) : Act UInt64 := fun scene =>
  let (address, placement) := scene.placement.place index resource
  .ok address { scene with placement }

/-- Two computations give a result when the first one does and the second one does from
there. -/
theorem bind_eq_ok {α β : Type} {first : Act α} {next : α → Act β} {scene last : Scene}
    {result : β} :
    (first >>= next) scene = .ok result last ↔
      ∃ middle sceneAfter, first scene = .ok middle sceneAfter ∧
        next middle sceneAfter = .ok result last := by
  change EStateM.bind first next scene = _ ↔ _
  unfold EStateM.bind
  cases first scene with
  | ok middle sceneAfter =>
    constructor
    · intro hnext
      exact ⟨middle, sceneAfter, rfl, hnext⟩
    · rintro ⟨found, sceneFound, hfound, hnext⟩
      cases hfound
      exact hnext
  | error fault sceneAfter => simp

/-- A lifted result changes nothing. -/
theorem lift_eq_ok {α : Type} {result : Except Fault α} {scene last : Scene} {found : α} :
    lift result scene = .ok found last ↔ result = .ok found ∧ scene = last := by
  unfold lift
  cases result <;> simp

/-- Popping takes the topmost operand off the running activation. -/
theorem pop_eq_ok {type : DataType} {scene last : Scene} {value : Value} :
    pop type scene = .ok value last ↔ ∃ operands, scene.current.operands = value :: operands ∧
      value.type = type ∧
        last = { scene with current := { scene.current with operands } } := by
  unfold pop
  cases hoperands : scene.current.operands with
  | nil => simp
  | cons top rest =>
    by_cases htype : top.type = type
    · simp only [ne_eq, htype, not_true_eq_false, if_false]
      constructor
      · intro hpopped
        cases hpopped
        exact ⟨rest, rfl, htype, rfl⟩
      · rintro ⟨operands, hsame, -, rfl⟩
        cases hsame
        rfl
    · simp only [ne_eq, htype, not_false_eq_true, if_true]
      constructor
      · intro hpopped
        cases hpopped
      · rintro ⟨operands, hsame, hfound, -⟩
        cases hsame
        exact absurd hfound htype

/-! ## Instructions -/

/-- The value that an operand stands for. -/
def operandValue (module : Module) : Operand → Act Value
  | .const value => return value
  | .localVar index => do
    match (← running).locals[index.toNat]? with
    | some value => return value
    | none => throw (.invalidLocal index)
  | .argument index => do
    match (← running).arguments[index.toNat]? with
    | some value => return value
    | none => throw (.invalidArgument index)
  | .resource index =>
    match module.resources.get? index with
    | none => throw (.invalidResource index)
    | some resource => do return .pointer (← placeResource index resource)
  | .routine id =>
    if (module.find? id).isNone then throw (.unresolvedCall (.definition id))
    else return .pointer (functionAddress id)
  | _ => throw .malformedInstruction

/-- Pushes the value of an operand. -/
def pushOperand (module : Module) (room : Nat) (operand : Operand) : Act Unit := do
  push room (← operandValue module operand)

/-- Pops into an operand. -/
def popOperand : Operand → Act Unit
  | .const value => do
    let _ ← pop value.type
    return ()
  | .localVar index => do
    match (← running).locals[index.toNat]? with
    | none => throw (.invalidLocal index)
    | some old => do
      let value ← pop old.type
      update fun current => { current with locals := current.locals.set index.toNat value }
  | .argument index => do
    match (← running).arguments[index.toNat]? with
    | none => throw (.invalidArgument index)
    | some old => do
      let value ← pop old.type
      update fun current =>
        { current with arguments := current.arguments.set index.toNat value }
  | _ => throw .malformedInstruction

/-- Executes an instruction on one data type. -/
def typed (room : Nat) (opcode : Opcode) (type : DataType) : Act Unit :=
  if type = .void then throw (.unsupportedType opcode .void)
  else
    match opcode with
    | .load | .store => throw .malformedInstruction
    | .negate | .increment | .decrement | .not => do
      let a ← pop type
      push room (← lift (Numeric.unary opcode type a))
    | .print => do
      let value ← pop type
      print (Text.utf8 (value.text ++ "\n"))
    | _ => do
      let b ← pop type
      let a ← pop type
      push room (← lift (Numeric.binary opcode type a b))

/-- Pops the operands of a comparison and decides it. -/
def test (comparison : Comparison) (type : DataType) : Act Bool := do
  let b ← if comparison.arity = 2 then pop type else pure (.zero type)
  let a ← pop type
  lift (Numeric.compare comparison type a b)

/-- Executes a comparison: a guard skips the next instruction unless it holds, and any
other opcode pushes its truth. -/
def conditional (room : Nat) (opcode : Opcode) (comparison : Comparison) (type : DataType) :
    Act Unit := do
  let holds ← test comparison type
  if opcode = .guard then
    if holds then return () else jumpTo ((← running).ip + 1)
  else push room (.ofNat .i8 (if holds then 1 else 0))

/-- Continues at a label, which must not lie past the end of the routine. -/
def jump (label : Label) : Act Unit := do
  let current ← running
  match current.routine.target? label with
  | some position =>
    if position ≤ current.routine.code.size then jumpTo position
    else throw (.invalidLabel label)
  | none => throw (.invalidLabel label)

/-- Executes an instruction without operands. -/
def simple (room : Nat) (opcode : Opcode) : Act Effect :=
  match opcode with
  | .nop => return .next
  | .ret => return .leave
  | .printChar => do
    let value ← pop .u8
    print [value.raw.toUInt8]
    return .next
  | .readChar => do
    match ← readChar with
    | some byte => push room (.ofNat .i32 byte.toNat)
    | none => push room (.ofInt .i32 (-1))
    return .next
  | _ => throw .malformedInstruction

/-- The definition that a call reaches. -/
def callee (module : Module) : CallTarget → Act Definition
  | .definition id =>
    match module.find? id with
    | some definition => return definition
    | none => throw (.unresolvedCall (.definition id))
  | .indirect expected => do
    let address ← pop .pointer
    let definition ← lift (Machine.functionAt module address.raw)
    if definition.signature = expected then return definition
    else throw (.signatureMismatch expected definition.signature)

/-- Asks for a call of a routine; no host function can be called. -/
def call (module : Module) (mode : CallMode) (target : CallTarget) : Act Effect := do
  match ← callee module target with
  | .routine routine => return .call mode routine
  | .external function => throw (.unresolvedCall (.host function.library function.name))

/-- Executes an instruction.  `room` is the number of bytes that the running activation
may take. -/
def execute (module : Module) (room : Nat) (instruction : Instruction) : Act Effect :=
  if !instruction.isWellFormed then throw .malformedInstruction
  else
    match instruction with
    | .simple opcode => simple room opcode
    | .typed opcode type => do typed room opcode type; return .next
    | .convert _ source target => do
      let value ← pop source
      push room (← lift (Numeric.cast value target))
      return .next
    | .conditional opcode comparison type => do
      conditional room opcode comparison type
      return .next
    | .branch _ label => do jump label; return .next
    | .stack .push operand => do pushOperand module room operand; return .next
    | .stack _ operand => do popOperand operand; return .next
    | .call _ mode target => call module mode target

/-! ## States -/

/-- What a run shows besides its activations. -/
structure Surface where
  console : Console
  placement : Placement
  fuel : Option Nat
  executed : Nat
  peak : Nat
deriving DecidableEq, Repr

/-- The state of a run: the running activation, those below it and the surface. -/
structure State where
  current : Activation
  callers : List Activation
  surface : Surface

/-- How far a run has come. -/
inductive Outcome where
  | running (state : State)
  | returned (result : Option Value) (surface : Surface)
  | trapped (trap : Trap) (surface : Surface)

/-- What a step leads to before a fault is given its place. -/
inductive Progress where
  | continued (state : State)
  | finished (result : Option Value) (surface : Surface)
  | faulted (fault : Fault) (surface : Surface)

/-- Puts an activation on top of others, if there is room for all of them. -/
def install (limits : Limits) (activation : Activation) (callers : List Activation)
    (surface : Surface) : Progress :=
  if limits.capacity < usedBytes (activation :: callers) then .faulted .stackOverflow surface
  else .continued
    ⟨activation, callers, { surface with peak := max surface.peak (callers.length + 1) }⟩

/-- Opens an activation of a routine on the topmost operands, which become its
arguments. -/
def enter (limits : Limits) (routine : Routine) (state : State) : Progress :=
  if limits.maxCallDepth ≤ state.callers.length + 1 then .faulted .stackOverflow state.surface
  else
    match state.current.takeArguments routine.parameters with
    | .error fault => .faulted fault state.surface
    | .ok (arguments, operands) =>
      install limits (.opened routine arguments state.current.ip)
        ({ state.current with operands } :: state.callers) state.surface

/-- Opens the first activation of a run. -/
def enterFirst (limits : Limits) (main : Routine) (surface : Surface) : Progress :=
  if limits.maxCallDepth = 0 then .faulted .stackOverflow surface
  else install limits (.opened main [] 0) [] surface

/-- Puts an activation of a routine in the place of the running one.  It returns where
that would have returned. -/
def tailEnter (limits : Limits) (routine : Routine) (state : State) : Progress :=
  match state.current.takeArguments routine.parameters with
  | .error fault => .faulted fault state.surface
  | .ok (arguments, _) =>
    install limits (.opened routine arguments state.current.resume) state.callers state.surface

/-- Closes the running activation and hands its result to the caller. -/
def leave (state : State) : Progress :=
  match state.current.result with
  | .error fault => .faulted fault state.surface
  | .ok result =>
    match state.callers with
    | [] => .finished result state.surface
    | caller :: callers =>
      .continued
        ⟨{ caller with
            ip := state.current.resume
            operands := result.toList ++ caller.operands },
          callers, state.surface⟩

/-- Carries out what an instruction asks for. -/
def perform (limits : Limits) (state : State) : Effect → Progress
  | .next => .continued state
  | .call .direct routine => enter limits routine state
  | .call .tail routine => tailEnter limits routine state
  | .leave => leave state

/-! ## Runs -/

/-- Counts an instruction and takes one unit of fuel for it, absent when there is none
left. -/
def Surface.spend (surface : Surface) : Except Surface Surface :=
  match surface.fuel with
  | some 0 => .error { surface with executed := surface.executed + 1 }
  | some (left + 1) =>
    .ok { surface with fuel := some left, executed := surface.executed + 1 }
  | none => .ok { surface with executed := surface.executed + 1 }

/-- The surface with the console and the placed resources of a scene. -/
def Surface.withScene (surface : Surface) (scene : Scene) : Surface :=
  { surface with console := scene.console, placement := scene.placement }

/-- What an instruction leads to on top of other activations. -/
def carryOut (limits : Limits) (callers : List Activation) (surface : Surface) :
    EStateM.Result Fault Scene Effect → Progress
  | .error fault scene => .faulted fault (surface.withScene scene)
  | .ok effect scene => perform limits ⟨scene.current, callers, surface.withScene scene⟩ effect

/-- Executes the next instruction of the running activation, or returns from it when it
is past its end. -/
def advance (module : Module) (limits : Limits) (state : State) : Progress :=
  match state.current.routine.code[state.current.ip]? with
  | none => leave state
  | some instruction =>
    match state.surface.spend with
    | .error surface => .faulted .outOfFuel surface
    | .ok surface =>
      carryOut limits state.callers surface
        (execute module (limits.capacity - usedBytes state.callers) instruction
          ⟨{ state.current with ip := state.current.ip + 1 }, surface.console,
            surface.placement⟩)

/-- One step. -/
def step (module : Module) (limits : Limits) (state : State) : Outcome :=
  match advance module limits state with
  | .continued next => .running next
  | .finished result surface => .returned result surface
  | .faulted fault surface =>
    .trapped ⟨fault, state.current.routine.name, state.current.ip⟩ surface

/-- At most `bound` steps. -/
def runFor (module : Module) (limits : Limits) : Nat → State → Outcome
  | 0, state => .running state
  | bound + 1, state =>
    match step module limits state with
    | .running next => runFor module limits bound next
    | outcome => outcome

/-- A state at the entry of a module, or the trap of a module that cannot be entered. -/
def start (module : Module) (limits : Limits) (console : Console) : Outcome :=
  let surface : Surface := ⟨console, ⟨0, []⟩, limits.fuel, 0, 0⟩
  match module.entry with
  | .error cause => .trapped ⟨.unresolvedCall (.entry cause), entryName, 0⟩ surface
  | .ok main =>
    match enterFirst limits main surface with
    | .continued state => .running state
    | .finished result surface => .returned result surface
    | .faulted fault surface => .trapped ⟨fault, entryName, 0⟩ surface

/-- At most `bound` steps from the entry of a module. -/
def runUpTo (module : Module) (limits : Limits) (bound : Nat) (console : Console) : Outcome :=
  match start module limits console with
  | .running state => runFor module limits bound state
  | outcome => outcome

end Structured

end StackCode
