import StackCode.Instruction

/-!
# Definitions

What a module defines: routines with a body of instructions, and external
functions that the host supplies under a library and a name.

Main definitions:

- `Routine`, `External`, `Definition`.
- `Definition.signature`: what an indirect call must expect to reach it.
- `IdSource`: a supply of consecutive identifiers.
-/

namespace StackCode

/-- The text of an identifier. -/
def idText (id : DefinitionId) : String := "#" ++ toString id.toNat

/-! ## Routines and external functions -/

/-- A routine.  `labels` gives the position in `code` of each label. -/
structure Routine where
  id : DefinitionId
  name : String
  returnType : DataType
  parameters : List DataType
  locals : Array DataType
  labels : Array UInt32
  code : Array Instruction
deriving DecidableEq, Repr, Inhabited

/-- A function that the host supplies. -/
structure External where
  id : DefinitionId
  name : String
  returnType : DataType
  parameters : List DataType
  library : String
  convention : Convention
deriving DecidableEq, Repr, Inhabited

/-- The signature of a routine, which has the machine's own convention. -/
def Routine.signature (routine : Routine) : Signature :=
  ⟨routine.returnType, routine.parameters, .bridge⟩

/-- The position of a label in the code. -/
def Routine.target? (routine : Routine) (label : Label) : Option Nat :=
  routine.labels[label.toNat]?.map UInt32.toNat

/-- The signature of an external function. -/
def External.signature (function : External) : Signature :=
  ⟨function.returnType, function.parameters, function.convention⟩

/-! ## Definitions -/

/-- A definition of a module. -/
inductive Definition where
  | routine (routine : Routine)
  | external (function : External)
deriving DecidableEq, Repr, Inhabited

namespace Definition

/-- The identifier of a definition. -/
def id : Definition → DefinitionId
  | routine r => r.id
  | external f => f.id

/-- The name of a definition. -/
def name : Definition → String
  | routine r => r.name
  | external f => f.name

/-- The type of the value that a definition returns. -/
def returnType : Definition → DataType
  | routine r => r.returnType
  | external f => f.returnType

/-- The types of the arguments of a definition. -/
def parameters : Definition → List DataType
  | routine r => r.parameters
  | external f => f.parameters

/-- What an indirect call must expect to reach a definition. -/
def signature : Definition → Signature
  | routine r => r.signature
  | external f => f.signature

/-- The routine that a definition is. -/
def routine? : Definition → Option Routine
  | routine r => some r
  | external _ => none

/-- The external function that a definition is. -/
def external? : Definition → Option External
  | routine _ => none
  | external f => some f

/-- The word for the kind of a definition. -/
def kindName : Definition → String
  | routine _ => "routine"
  | external _ => "extern"

end Definition

/-! ## Identifiers -/

/-- A supply of identifiers, each one above the one before. -/
structure IdSource where
  next : DefinitionId
deriving DecidableEq, Repr, Inhabited

/-- The next identifier and the supply after it. -/
def IdSource.allocate (source : IdSource) : DefinitionId × IdSource :=
  (source.next, ⟨source.next + 1⟩)

end StackCode
