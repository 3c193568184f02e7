import StackCode.Console
import StackCode.Memory
import StackCode.Text.Escaped

/-!
# Host functions

A module calls functions of its host by library and name.  A host function is a
program over the few things it may do with the machine that calls it: read and
write memory, and use the console.  It can reach nothing else, and it always ends.
What it does may depend on earlier calls: the functions of a host share notes, which
they can read and replace and which nothing else looks at.

Main definitions:

- `HostProgram`: the steps of a host function.
- `HostProgram.run`: what they do to memory and console.
- `Host`: the functions of a host, with `register` and `find?`.
-/

namespace StackCode

/-- The part of a machine that a host function can reach, and the notes of its host. -/
structure Surroundings where
  memory : Memory
  console : Console
  notes : List UInt8

/-- What a host function does, step by step.  An access to memory goes on with the
value or the text of the fault. -/
inductive HostProgram where
  | done (result : Option Value)
  | fail (message : String)
  | read (address : UInt64) (type : DataType) (next : Except String Value → HostProgram)
  | write (address : UInt64) (value : Value) (next : Except String Unit → HostProgram)
  | readBytes (address : UInt64) (length : Nat)
      (next : Except String (List UInt8) → HostProgram)
  | writeBytes (address : UInt64) (bytes : List UInt8)
      (next : Except String Unit → HostProgram)
  | readCString (address : UInt64) (next : Except String (List UInt8) → HostProgram)
  | print (bytes : List UInt8) (next : HostProgram)
  | readChar (next : Option UInt8 → HostProgram)
  | readNotes (next : List UInt8 → HostProgram)
  | writeNotes (bytes : List UInt8) (next : HostProgram)

namespace HostProgram

/-- The result of a memory access as a host function sees it. -/
def seen {α : Type} : Except Fault α → Except String α
  | .ok result => .ok result
  | .error fault => .error fault.message

/-- Changes memory and goes on with the outcome. -/
def change (operation : EStateM Fault Memory Unit) (surroundings : Surroundings) :
    Except String Unit × Surroundings :=
  match surroundings with
  | ⟨memory, console, notes⟩ =>
    match operation memory with
    | .ok result memory => (.ok result, ⟨memory, console, notes⟩)
    | .error fault memory => (.error fault.message, ⟨memory, console, notes⟩)

/-- Runs a host function.  What it notes is there for the next one that runs. -/
def run : HostProgram → EStateM String Surroundings (Option Value)
  | done result, surroundings => .ok result surroundings
  | fail message, surroundings => .error message surroundings
  | read address type next, surroundings =>
    (next (seen (surroundings.memory.read address type))).run surroundings
  | write address value next, surroundings =>
    let (outcome, surroundings) := change (Memory.write address value) surroundings
    (next outcome).run surroundings
  | readBytes address length next, surroundings =>
    (next (seen (surroundings.memory.readBytes address length))).run surroundings
  | writeBytes address bytes next, surroundings =>
    let (outcome, surroundings) := change (Memory.writeBytes address bytes) surroundings
    (next outcome).run surroundings
  | readCString address next, surroundings =>
    (next (seen (surroundings.memory.readCString address))).run surroundings
  | print bytes next, ⟨memory, console, notes⟩ =>
    next.run ⟨memory, console.write bytes, notes⟩
  | readChar next, ⟨memory, console, notes⟩ =>
    let (byte?, console) := console.readByte
    (next byte?).run ⟨memory, console, notes⟩
  | readNotes next, surroundings => (next surroundings.notes).run surroundings
  | writeNotes bytes next, ⟨memory, console, _⟩ => next.run ⟨memory, console, bytes⟩

/-- A function that returns how often it was called before finds that in the notes. -/
example (memory : Memory) (console : Console) :
    (readNotes fun notes => writeNotes (0 :: notes) (done (some (.ofNat .u32 notes.length)))).run
      ⟨memory, console, [0, 0]⟩ = .ok (some (.ofNat .u32 2)) ⟨memory, console, [0, 0, 0]⟩ :=
  rfl

/-- Goes on with a result, or fails with its message. -/
def orFail {α : Type} (next : α → HostProgram) : Except String α → HostProgram
  | .ok result => next result
  | .error message => fail message

/-- Goes on with an argument, or fails with a message. -/
def withArgument (arguments : List Value) (index : Nat) (message : String)
    (next : Value → HostProgram) : HostProgram :=
  match arguments[index]? with
  | some value => next value
  | none => fail message

end HostProgram

/-! ## Registries -/

/-- A host function: what it does for given arguments. -/
abbrev HostFunction := List Value → HostProgram

/-- The functions of a host, by library and name. -/
structure Host where
  functions : List ((String × String) × HostFunction)

namespace Host

/-- The host without functions. -/
def empty : Host := ⟨[]⟩

/-- The function with a library and a name. -/
def find? (host : Host) (library name : String) : Option HostFunction :=
  host.functions.lookup (library, name)

/-- Adds a function in place of one with the same library and name. -/
def register (host : Host) (library name : String) (function : HostFunction) : Host :=
  ⟨((library, name), function) ::
    host.functions.filter fun entry => entry.1 != (library, name)⟩

/-- The names of all functions with their libraries, in order. -/
def names (host : Host) : List String :=
  (host.functions.map fun entry => entry.1.1 ++ "::" ++ entry.1.2).mergeSort
    fun a b => decide (a ≤ b)

/-- The structural text of a host, which lists its functions. -/
def structuralText (host : Host) : String :=
  "HostFunctions \x7b functions: [" ++ ", ".intercalate (host.names.map Text.escaped) ++
    "] \x7d"

end Host

end StackCode
