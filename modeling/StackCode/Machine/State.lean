import StackCode.Host
import StackCode.Limits

/-!
# Machine states

A machine runs one module.  Its state is memory, console, the notes of its host, a stack
of activations and three counters.  An activation lies packed in the arena:

    argument 0 … argument n-1 | saved frame (8) | saved position (4) | locals | operands

The frame position `fp` is the offset of the first local.

Main definitions:

- `Frame`, `CallStack`, `Machine`.
- `Exec`: computations that change a machine or end with a fault.
- `Machine.push`, `pop`, `popMany`: operands of the running activation.
-/

namespace StackCode

/-! ## Activations -/

/-- An activation.  `ip` is the index of the next instruction, `fp` the offset of the
first local, `floor` the offset below which no operand is popped, and `base` the
offset of the first argument. -/
structure Frame where
  routine : Routine
  ip : Nat
  fp : Nat
  floor : Nat
  base : Nat
  arguments : List Nat
  locals : List Nat
deriving DecidableEq, Repr

/-- Bytes between the arguments and the locals of an activation. -/
def headerSize : Nat := 12

/-- The activations of a machine, the running one first, with their number. -/
structure CallStack where
  frames : List Frame
  depth : Nat
  depth_eq : depth = frames.length
deriving DecidableEq, Repr

namespace CallStack

/-- No activations. -/
def empty : CallStack := ⟨[], 0, rfl⟩

/-- Adds a running activation. -/
def push (frame : Frame) : CallStack → CallStack
  | ⟨frames, depth, h⟩ => ⟨frame :: frames, depth + 1, by simp [h]⟩

/-- Removes the running activation. -/
def pop : CallStack → CallStack
  | ⟨frames, depth, h⟩ => ⟨frames.tail, depth - 1, by simp [h]⟩

/-- Sets the position of the running activation. -/
def jump (ip : Nat) : CallStack → CallStack
  | ⟨[], depth, h⟩ => ⟨[], depth, h⟩
  | ⟨frame :: frames, depth, h⟩ => ⟨{ frame with ip } :: frames, depth, by simpa using h⟩

/-- The running activation. -/
def top? (calls : CallStack) : Option Frame := calls.frames.head?

/-- The offset below which no operand is popped. -/
def floor (calls : CallStack) : Nat :=
  match calls.frames with
  | frame :: _ => frame.floor
  | [] => 0

end CallStack

/-! ## Machines -/

/-- What a machine runs: a module, its limits and its host. -/
structure Setup where
  module : Module
  limits : Limits
  host : Host

/-- The state of a machine.  `executed` counts the instructions of the current run
and `peak` is its deepest nesting so far. -/
structure Machine where
  memory : Memory
  console : Console
  notes : List UInt8
  calls : CallStack
  fuel : Option Nat
  executed : Nat
  peak : Nat

/-- A computation that changes a machine or ends with a fault. -/
abbrev Exec := EStateM Fault Machine

namespace Machine

/-- A machine that has not run yet. -/
def new (limits : Limits) (console : Console) : Machine :=
  ⟨.new limits.stackSize, console, [], .empty, limits.fuel, 0, 0⟩

/-- Prepares for a new run.  Placed resources, the console and the notes of the host stay. -/
def reset (machine : Machine) (limits : Limits) : Machine :=
  match machine with
  | ⟨⟨arena, resources, placed⟩, console, notes, _, _, _, _⟩ =>
    ⟨⟨arena.clear, resources, placed⟩, console, notes, .empty, limits.fuel, 0, 0⟩

/-! ## Parts of the state -/

/-- An operation on memory as an operation on the machine. -/
def onMemory {α : Type} (operation : EStateM Fault Memory α) : Exec α := fun machine =>
  match machine with
  | ⟨memory, console, notes, calls, fuel, executed, peak⟩ =>
    match operation memory with
    | .ok result memory => .ok result ⟨memory, console, notes, calls, fuel, executed, peak⟩
    | .error fault memory => .error fault ⟨memory, console, notes, calls, fuel, executed, peak⟩

/-- An operation on the arena as an operation on the machine. -/
def onArena {α : Type} (operation : EStateM Fault Arena α) : Exec α :=
  onMemory (Memory.onArena operation)

/-- A view of the machine that can fault. -/
def inspect {α : Type} (view : Machine → Except Fault α) : Exec α := fun machine =>
  match view machine with
  | .ok result => .ok result machine
  | .error fault => .error fault machine

/-- A result that can be a fault. -/
def lift {α : Type} (result : Except Fault α) : Exec α := inspect fun _ => result

/-- Changes the call stack. -/
def onCalls (change : CallStack → CallStack) : Exec Unit := fun machine =>
  match machine with
  | ⟨memory, console, notes, calls, fuel, executed, peak⟩ =>
    .ok () ⟨memory, console, notes, change calls, fuel, executed, peak⟩

/-- Writes bytes to the console. -/
def print (bytes : List UInt8) : Exec Unit := fun machine =>
  match machine with
  | ⟨memory, console, notes, calls, fuel, executed, peak⟩ =>
    .ok () ⟨memory, console.write bytes, notes, calls, fuel, executed, peak⟩

/-- Takes the next byte of the input. -/
def readChar : Exec (Option UInt8) := fun machine =>
  match machine with
  | ⟨memory, console, notes, calls, fuel, executed, peak⟩ =>
    let (byte?, console) := console.readByte
    .ok byte? ⟨memory, console, notes, calls, fuel, executed, peak⟩

/-- The address of a resource. -/
def placeResource (index : ResourceIndex) (resource : Resource) : Exec UInt64 := fun machine =>
  match machine with
  | ⟨memory, console, notes, calls, fuel, executed, peak⟩ =>
    let (address, memory) := memory.placeResource index resource
    .ok address ⟨memory, console, notes, calls, fuel, executed, peak⟩

/-- Counts an instruction and takes one unit of fuel for it. -/
def spend : Exec Unit := fun machine =>
  match machine with
  | ⟨memory, console, notes, calls, fuel, executed, peak⟩ =>
    match fuel with
    | some 0 => .error .outOfFuel ⟨memory, console, notes, calls, some 0, executed + 1, peak⟩
    | some (left + 1) => .ok () ⟨memory, console, notes, calls, some left, executed + 1, peak⟩
    | none => .ok () ⟨memory, console, notes, calls, none, executed + 1, peak⟩

/-- Adds a running activation and notes the depth. -/
def pushFrame (frame : Frame) : Exec Unit := fun machine =>
  match machine with
  | ⟨memory, console, notes, calls, fuel, executed, peak⟩ =>
    let calls := calls.push frame
    .ok () ⟨memory, console, notes, calls, fuel, executed,
      if peak < calls.depth then calls.depth else peak⟩

/-! ## Operands -/

/-- The running activation. -/
def frame : Exec Frame := inspect fun machine =>
  match machine.calls.top? with
  | some frame => .ok frame
  | none => .error .stackUnderflow

/-- The offset below which no operand is popped. -/
def floor : Exec Nat := inspect fun machine => .ok machine.calls.floor

/-- The offset of the next free byte. -/
def sp : Exec Nat := inspect fun machine => .ok machine.memory.arena.sp

/-- Pushes an operand. -/
def push (value : Value) : Exec Unit := do
  let _ ← onArena (Arena.push value)
  return ()

/-- Pops an operand of a type. -/
def pop (type : DataType) : Exec Value := do
  onArena (Arena.pop type (← floor))

/-- Pops operands whose types are given topmost first, in front of values that were
popped before. -/
def popInto (values : List Value) : List DataType → Exec (List Value)
  | [] => return values
  | type :: rest => do
    let value ← pop type
    popInto (value :: values) rest

/-- Pops operands of the given types, the last on top, and returns them in the order
of the types. -/
def popMany (types : List DataType) : Exec (List Value) := popInto [] types.reverse

/-- Pushes operands, the last on top. -/
def pushMany : List Value → Exec Unit
  | [] => return ()
  | value :: rest => do
    push value
    pushMany rest

/-- Checks that the topmost operands have the given types. -/
def checkTop (types : List DataType) : Exec Unit := inspect fun machine =>
  machine.memory.arena.checkTop types machine.calls.floor

/-- The value at an offset of the arena. -/
def readSlot (offset : Nat) (type : DataType) : Exec Value := inspect fun machine =>
  machine.memory.arena.read offset type

/-- Overwrites the value at an offset of the arena. -/
def writeSlot (offset : Nat) (value : Value) : Exec Unit := onArena (Arena.write offset value)

/-- Drops every value at or above an offset. -/
def truncate (offset : Nat) : Exec Unit := onArena fun arena => .ok () (arena.truncate offset)

end Machine

end StackCode
