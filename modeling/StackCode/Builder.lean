import StackCode.Module

/-!
# Building modules

A builder hands out an identifier for each routine and external function when it
is registered, so calls can name it before it is finished.  A draft of a definition
can be changed until the definition is closed.

A step on a draft or on a builder is a state transformer: a fault comes with the
state as the step leaves it.  A step on a part of a state, such as the header of a
draft or the slot of a builder, puts the part back whether it fails or not.

Main definitions:

- `Building`: a step, with `Building.on` for a step on a part of a state.
- `Header`, `Code`, `Routine.Draft`, `External.Draft`: definitions under construction.
- `Builder.editRoutine`, `editExternal`, `finish`: steps that address one definition.
- `Builder.addRoutine`, `addExternal`, `addResource`: steps that cannot fail.
- `Builder.onRoutine`, `onExternal`, `close`: the same steps on values.
- `Builder.build`: the finished module.
-/

namespace StackCode

/-! ## Faults -/

/-- Most parameters of a definition. -/
def maxParameters : Nat := 255

/-- Most local variables of a routine. -/
def maxLocals : Nat := 65535

/-- Why a building step fails. -/
inductive BuildError where
  | voidParameter
  | tooManyParameters
  | voidLocal
  | tooManyLocals
  | unknownLabel (label : Label)
  | closed (id : DefinitionId)
  | unknownDefinition (id : DefinitionId) (kind : String)
deriving DecidableEq, Repr

namespace BuildError

/-- The name of the kind of a building fault. -/
def name : BuildError → String
  | voidParameter => "VoidParameter"
  | tooManyParameters => "TooManyParameters"
  | voidLocal => "VoidLocal"
  | tooManyLocals => "TooManyLocals"
  | unknownLabel _ => "UnknownLabel"
  | closed _ => "Closed"
  | unknownDefinition .. => "UnknownDefinition"

/-- The text of a building fault. -/
def message : BuildError → String
  | voidParameter => "parameters cannot be void"
  | tooManyParameters =>
    "a definition cannot take more than " ++ toString maxParameters ++ " parameters"
  | voidLocal => "locals cannot be void"
  | tooManyLocals => "a routine cannot declare more than " ++ toString maxLocals ++ " locals"
  | unknownLabel label => "label " ++ toString label.toNat ++ " does not exist"
  | closed id => "definition " ++ idText id ++ " is already closed"
  | unknownDefinition id kind => "no pending " ++ kind ++ " with id " ++ idText id

end BuildError

/-! ## Steps -/

/-- A step on a state of a builder or on a part of one. -/
abbrev Building := EStateM BuildError

namespace Building

variable {σ ρ α : Type}

/-- A step on a part of a state.  The state takes the part as the step leaves it, also
when the step fails. -/
def on (part : σ → ρ) (put : ρ → σ → σ) (step : Building ρ α) : Building σ α := fun state =>
  match step (part state) with
  | .ok result left => .ok result (put left state)
  | .error fault left => .error fault (put left state)

/-- The step that a function on states describes. -/
def ofFunction (change : σ → Except BuildError (σ × α)) : Building σ α := fun state =>
  match change state with
  | .ok (after, result) => .ok result after
  | .error fault => .error fault state

/-- What a step comes to: the state after it and its result, or its fault. -/
def outcome (step : Building σ α) (state : σ) : Except BuildError (σ × α) :=
  match step state with
  | .ok result after => .ok (after, result)
  | .error fault _ => .error fault

end Building

/-! ## Headers -/

/-- What both kinds of definitions have. -/
structure Header where
  id : DefinitionId
  name : String
  returnType : DataType
  parameters : List DataType
deriving DecidableEq, Repr

namespace Header

/-- A header without parameters. -/
def new (id : DefinitionId) (name : String) : Header := ⟨id, name, .void, []⟩

/-- Adds a parameter and returns its index. -/
def addParameter (type : DataType) : Building Header UInt8 := fun header =>
  if type = .void then .error .voidParameter header
  else if maxParameters ≤ header.parameters.length then .error .tooManyParameters header
  else
    .ok header.parameters.length.toUInt8 { header with parameters := header.parameters ++ [type] }

end Header

/-! ## Code -/

/-- The locals, labels and instructions of a routine under construction. -/
structure Code where
  locals : Array DataType
  labels : Array UInt32
  instructions : Array Instruction
deriving DecidableEq, Repr

namespace Code

/-- No code. -/
def empty : Code := ⟨#[], #[], #[]⟩

/-- The number of instructions. -/
def size (code : Code) : Nat := code.instructions.size

/-- Whether there are no instructions. -/
def isEmpty (code : Code) : Bool := code.instructions.isEmpty

/-- Adds a local variable and returns its index. -/
def addLocal (type : DataType) : Building Code LocalIndex := fun code =>
  if type = .void then .error .voidLocal code
  else if maxLocals ≤ code.locals.size then .error .tooManyLocals code
  else .ok code.locals.size.toUInt16 { code with locals := code.locals.push type }

/-- Adds several local variables of one type, until one cannot be added, and returns
the index of the last. -/
def addLocals (type : DataType) : Nat → Building Code LocalIndex
  | 0 => fun code => .ok (code.locals.size - 1).toUInt16 code
  | count + 1 => do
    let _ ← addLocal type
    addLocals type count

/-- Adds a label that stands for the next instruction and returns it. -/
def addLabel (code : Code) : Code × Label :=
  ({ code with labels := code.labels.push code.size.toUInt32 }, code.labels.size.toUInt32)

/-- Makes an existing label stand for the next instruction. -/
def moveLabel (label : Label) : Building Code Unit := fun code =>
  if label.toNat < code.labels.size then
    .ok () { code with labels := code.labels.setIfInBounds label.toNat code.size.toUInt32 }
  else .error (.unknownLabel label) code

/-- Appends instructions. -/
def emit (code : Code) (instructions : List Instruction) : Code :=
  { code with instructions := code.instructions ++ instructions.toArray }

end Code

/-! ## Drafts of routines -/

namespace Routine

/-- A routine without parameters, locals and code. -/
def empty (id : DefinitionId) (name : String) : Routine :=
  ⟨id, name, .void, [], #[], #[], #[]⟩

/-- A routine under construction. -/
structure Draft extends Header where
  code : Code
deriving DecidableEq, Repr

namespace Draft

/-- A draft without parameters and code. -/
def new (id : DefinitionId) (name : String) : Draft := ⟨.new id name, .empty⟩

/-- The routine that a draft comes to. -/
def finish (draft : Draft) : Routine :=
  ⟨draft.id, draft.name, draft.returnType, draft.parameters, draft.code.locals,
    draft.code.labels, draft.code.instructions⟩

/-- A step on the header. -/
def onHeader {α : Type} (step : Building Header α) : Building Draft α :=
  .on toHeader (fun header draft => { draft with toHeader := header }) step

/-- A step on the code. -/
def onCode {α : Type} (step : Building Code α) : Building Draft α :=
  .on code (fun code draft => { draft with code }) step

/-- Sets the type of the value that the routine returns. -/
def setReturnType (draft : Draft) (type : DataType) : Draft := { draft with returnType := type }

/-- Adds a label that stands for the next instruction and returns it. -/
def addLabel (draft : Draft) : Draft × Label :=
  let (code, label) := draft.code.addLabel
  ({ draft with code }, label)

/-- Appends instructions. -/
def emit (draft : Draft) (instructions : List Instruction) : Draft :=
  { draft with code := draft.code.emit instructions }

/-- Adds a local variable and returns its index. -/
def addLocal (type : DataType) (draft : Draft) : Except BuildError (Draft × LocalIndex) :=
  (onCode (Code.addLocal type)).outcome draft

/-- Adds several local variables of one type.  Those that fit stay when one does not. -/
def addLocals (type : DataType) (count : Nat) (draft : Draft) :
    Draft × Except BuildError LocalIndex :=
  match onCode (Code.addLocals type count) draft with
  | .ok index after => (after, .ok index)
  | .error fault after => (after, .error fault)

/-- Makes an existing label stand for the next instruction. -/
def moveLabel (draft : Draft) (label : Label) : Except BuildError Draft :=
  ((onCode (Code.moveLabel label)).outcome draft).map Prod.fst

end Draft

/-- Adds a parameter to a draft and returns its index. -/
def addParameter (type : DataType) (draft : Draft) : Except BuildError (Draft × UInt8) :=
  (Draft.onHeader (Header.addParameter type)).outcome draft

end Routine

/-! ## Drafts of external functions -/

namespace External

/-- An external function under construction. -/
structure Draft extends Header where
  library : String
  convention : Convention
deriving DecidableEq, Repr

namespace Draft

/-- A draft without library and parameters. -/
def new (id : DefinitionId) (name : String) : Draft := ⟨.new id name, "", .bridge⟩

/-- The external function that a draft comes to. -/
def finish (draft : Draft) : External :=
  ⟨draft.id, draft.name, draft.returnType, draft.parameters, draft.library, draft.convention⟩

/-- A step on the header. -/
def onHeader {α : Type} (step : Building Header α) : Building Draft α :=
  .on toHeader (fun header draft => { draft with toHeader := header }) step

end Draft

/-- Adds a parameter to a draft and returns its index. -/
def addParameter (type : DataType) (draft : Draft) : Except BuildError (Draft × UInt8) :=
  (Draft.onHeader (Header.addParameter type)).outcome draft

end External

/-! ## Builders -/

/-- A definition in a builder: a draft, or closed.  While a draft is being finished its
slot holds neither. -/
inductive Slot where
  | routine (draft : Routine.Draft)
  | external (draft : External.Draft)
  | closed (definition : Definition)
  | closing
deriving DecidableEq, Repr

/-- The definition that a slot comes to. -/
def Slot.finish : Slot → Option Definition
  | routine draft => some (.routine draft.finish)
  | external draft => some (.external draft.finish)
  | closed definition => some definition
  | closing => none

/-- A module under construction.  `positions` tells where the slot of an identifier
stands, the latest entry first. -/
structure Builder where
  name : String
  ids : IdSource
  slots : List Slot
  positions : List (DefinitionId × Nat)
  resources : ResourceTable
deriving DecidableEq, Repr

namespace Builder

/-- A builder that numbers definitions from `start`. -/
def new (name : String) (start : DefinitionId) : Builder := ⟨name, ⟨start⟩, [], [], .empty⟩

/-! ### Registering -/

/-- Registers a slot under the next identifier. -/
def register (builder : Builder) (slot : DefinitionId → Slot) : Builder × DefinitionId :=
  let (id, ids) := builder.ids.allocate
  ({ builder with
      ids
      slots := builder.slots ++ [slot id]
      positions := (id, builder.slots.length) :: builder.positions }, id)

/-- Registers a routine. -/
def addRoutine (builder : Builder) (name : String) : Builder × DefinitionId :=
  builder.register fun id => .routine (.new id name)

/-- Registers an external function. -/
def addExternal (builder : Builder) (name : String) : Builder × DefinitionId :=
  builder.register fun id => .external (.new id name)

/-- Adds a resource and returns its index. -/
def addResource (builder : Builder) (resource : Resource) : Builder × ResourceIndex :=
  let (resources, index) := builder.resources.add resource
  ({ builder with resources }, index)

/-- Adds a string in UTF-8 and returns its index. -/
def addString (builder : Builder) (text : String) : Builder × ResourceIndex :=
  builder.addResource ⟨.utf8, Text.utf8 text⟩

/-- Adds a string in UTF-16 and returns its index. -/
def addUtf16 (builder : Builder) (text : String) : Builder × ResourceIndex :=
  builder.addResource ⟨.utf16, Text.utf16 text⟩

/-! ### Slots -/

/-- Where the slot of a definition stands. -/
def position? (builder : Builder) (id : DefinitionId) : Option Nat :=
  (builder.positions.find? fun (known, _) => known == id).map fun (_, position) => position

/-- The slot of a definition, with its position. -/
def slot? (builder : Builder) (id : DefinitionId) : Option (Nat × Slot) :=
  (builder.position? id).bind fun position =>
    builder.slots[position]?.map fun slot => (position, slot)

/-- Replaces the slot at a position. -/
def setSlot (builder : Builder) (position : Nat) (slot : Slot) : Builder :=
  { builder with slots := builder.slots.set position slot }

/-- The slot of a definition, which has to exist. -/
def slotOf (id : DefinitionId) (kind : String) : Building Builder (Nat × Slot) := fun builder =>
  match builder.slot? id with
  | some found => .ok found builder
  | none => .error (.unknownDefinition id kind) builder

/-- A step on the open routine with an identifier. -/
def editRoutine {α : Type} (id : DefinitionId) (step : Building Routine.Draft α) :
    Building Builder α := do
  let (position, slot) ← slotOf id "routine"
  match slot with
  | .routine draft =>
    Building.on (fun _ => draft) (fun left builder => builder.setSlot position (.routine left))
      step
  | .closed _ | .closing => throw (.closed id)
  | .external _ => throw (.unknownDefinition id "routine")

/-- A step on the open external function with an identifier. -/
def editExternal {α : Type} (id : DefinitionId) (step : Building External.Draft α) :
    Building Builder α := do
  let (position, slot) ← slotOf id "extern"
  match slot with
  | .external draft =>
    Building.on (fun _ => draft) (fun left builder => builder.setSlot position (.external left))
      step
  | .closed _ | .closing => throw (.closed id)
  | .routine _ => throw (.unknownDefinition id "extern")

/-- Finishes a definition, which cannot be changed afterwards.  Its slot is taken first,
and given back when there is no draft in it. -/
def finish (id : DefinitionId) : Building Builder Unit := do
  let (position, slot) ← slotOf id "definition"
  modify (·.setSlot position .closing)
  match slot with
  | .routine draft => modify (·.setSlot position (.closed (.routine draft.finish)))
  | .external draft => modify (·.setSlot position (.closed (.external draft.finish)))
  | .closed _ | .closing =>
    modify (·.setSlot position slot)
    throw (.closed id)

/-- Whether a definition is finished. -/
def isClosed (builder : Builder) (id : DefinitionId) : Bool :=
  match builder.slot? id with
  | some (_, .closed _) => true
  | _ => false

/-! ### Steps on values -/

/-- Changes an open routine. -/
def onRoutine {α : Type} (builder : Builder) (id : DefinitionId)
    (change : Routine.Draft → Except BuildError (Routine.Draft × α)) :
    Except BuildError (Builder × α) :=
  (editRoutine id (.ofFunction change)).outcome builder

/-- Changes an open external function. -/
def onExternal {α : Type} (builder : Builder) (id : DefinitionId)
    (change : External.Draft → Except BuildError (External.Draft × α)) :
    Except BuildError (Builder × α) :=
  (editExternal id (.ofFunction change)).outcome builder

/-- Finishes a definition. -/
def close (builder : Builder) (id : DefinitionId) : Except BuildError Builder :=
  ((finish id).outcome builder).map Prod.fst

/-! ### The finished module -/

/-- The module of everything registered, in order.  Open definitions are finished. -/
def build (builder : Builder) : Module :=
  ⟨builder.name, builder.slots.filterMap Slot.finish, builder.resources⟩

end Builder

end StackCode
