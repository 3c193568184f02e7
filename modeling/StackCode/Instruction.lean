import StackCode.Opcode
import StackCode.Value

/-!
# Instructions

An instruction is an opcode with operands.  The operands need not be those that
the opcode requires; `Instruction.isWellFormed` says when they are.  Keeping the
two apart lets the verifier, the encoder and the machine each decide what to do
with an ill-formed pair.

Main definitions:

- `Operand`: what a push or a pop moves.
- `Signature`, `CallTarget`, `CallMode`: the parts of a call.
- `Instruction`, with the views `opcode`, `shape`, `dataTypes`, `label?`,
  `operand?` and `callee?`.
- `Instruction.isWellFormed`.

Main results:

- Theorems `OperandKind.ofTag?_eq_some_iff`, `CallMode.ofTag?_eq_some_iff`: a tag stands
  for the members that have it.
-/

namespace StackCode

/-! ## Operands -/

/-- Identifies a definition of a module. -/
abbrev DefinitionId := UInt32

/-- Index into the label table of a routine. -/
abbrev Label := UInt32

/-- Index of a local variable of a routine. -/
abbrev LocalIndex := UInt16

/-- Index of an argument of a routine. -/
abbrev ArgumentIndex := UInt8

/-- Index into the resource table of a module. -/
abbrev ResourceIndex := UInt32

/-- What kind of operand a push or a pop carries. -/
inductive OperandKind where
  | const
  | localVar
  | argument
  | localAddress
  | argumentAddress
  | resource
  | routine
deriving DecidableEq, Repr, Inhabited

namespace OperandKind

/-- The tag that stands for the kind in a binary module. -/
def tag : OperandKind → UInt8
  | const => 0
  | localVar => 1
  | argument => 2
  | localAddress => 3
  | argumentAddress => 4
  | resource => 5
  | routine => 6

/-- The kind that a tag stands for. -/
def ofTag? : UInt8 → Option OperandKind
  | 0 => some const
  | 1 => some localVar
  | 2 => some argument
  | 3 => some localAddress
  | 4 => some argumentAddress
  | 5 => some resource
  | 6 => some routine
  | _ => none

/-- The name of the kind in listings. -/
def mnemonic : OperandKind → String
  | const => "const"
  | localVar => "local"
  | argument => "arg"
  | localAddress => "localaddress"
  | argumentAddress => "argaddress"
  | resource => "resource"
  | routine => "routine"

/-- The name of the kind in structural text and in JSON. -/
def name : OperandKind → String
  | const => "Const"
  | localVar => "Local"
  | argument => "Arg"
  | localAddress => "LocalAddress"
  | argumentAddress => "ArgAddress"
  | resource => "Resource"
  | routine => "Routine"

/-- Whether a pop may name an operand of this kind. -/
def isPopTarget : OperandKind → Bool
  | const | localVar | argument => true
  | _ => false

/-- A kind is read back from its tag. -/
@[simp]
theorem ofTag?_tag (kind : OperandKind) : ofTag? kind.tag = some kind := by
  cases kind <;> rfl

/-- A tag stands for the kind that has it. -/
theorem ofTag?_eq_some_iff {tag : UInt8} {kind : OperandKind} :
    ofTag? tag = some kind ↔ kind.tag = tag := by
  constructor
  · intro hkind
    unfold ofTag? at hkind
    split at hkind <;> cases hkind <;> rfl
  · rintro rfl
    exact ofTag?_tag kind

end OperandKind

/-- The operand of a push or a pop.  A pop with a constant discards a value of
the constant's type. -/
inductive Operand where
  | const (value : Value)
  | localVar (index : LocalIndex)
  | argument (index : ArgumentIndex)
  | localAddress (index : LocalIndex)
  | argumentAddress (index : ArgumentIndex)
  | resource (index : ResourceIndex)
  | routine (id : DefinitionId)
deriving DecidableEq, Repr, Inhabited

/-- The kind of an operand. -/
def Operand.kind : Operand → OperandKind
  | const _ => .const
  | localVar _ => .localVar
  | argument _ => .argument
  | localAddress _ => .localAddress
  | argumentAddress _ => .argumentAddress
  | resource _ => .resource
  | routine _ => .routine

/-! ## Calls -/

/-- Whether a call opens a new activation or replaces the caller's. -/
inductive CallMode where
  | direct
  | tail
deriving DecidableEq, Repr, Inhabited

namespace CallMode

/-- Both modes, in the order of their tags. -/
def all : List CallMode := [direct, tail]

/-- The tag that stands for the mode in a binary module. -/
def tag : CallMode → UInt8
  | direct => 0
  | tail => 1

/-- The mode that a tag stands for. -/
def ofTag? : UInt8 → Option CallMode
  | 0 => some direct
  | 1 => some tail
  | _ => none

/-- The name of the mode in structural text and in JSON. -/
def name : CallMode → String
  | direct => "Direct"
  | tail => "Tail"

/-- A mode is read back from its tag. -/
@[simp]
theorem ofTag?_tag (mode : CallMode) : ofTag? mode.tag = some mode := by
  cases mode <;> rfl

/-- A tag stands for the mode that has it. -/
theorem ofTag?_eq_some_iff {tag : UInt8} {mode : CallMode} :
    ofTag? tag = some mode ↔ mode.tag = tag := by
  constructor
  · intro hmode
    unfold ofTag? at hmode
    split at hmode <;> cases hmode <;> rfl
  · rintro rfl
    exact ofTag?_tag mode

end CallMode

/-- The type of a function: what an indirect call expects, and what a definition
offers. -/
structure Signature where
  returnType : DataType
  parameters : List DataType
  convention : Convention
deriving DecidableEq, Repr, Inhabited

/-- The text of a signature, as in `i32(ptr, u8) cdecl`. -/
def Signature.text (signature : Signature) : String :=
  signature.returnType.mnemonic ++ "(" ++
    ", ".intercalate (signature.parameters.map DataType.mnemonic) ++ ") " ++
    signature.convention.mnemonic

/-- What a call names: a definition, or a function value on the stack that must
have the given signature. -/
inductive CallTarget where
  | definition (id : DefinitionId)
  | indirect (signature : Signature)
deriving DecidableEq, Repr, Inhabited

/-! ## Instructions -/

/-- An opcode with operands of one of the seven shapes. -/
inductive Instruction where
  | simple (opcode : Opcode)
  | typed (opcode : Opcode) (type : DataType)
  | convert (opcode : Opcode) (source target : DataType)
  | conditional (opcode : Opcode) (comparison : Comparison) (type : DataType)
  | branch (opcode : Opcode) (label : Label)
  | stack (opcode : Opcode) (operand : Operand)
  | call (opcode : Opcode) (mode : CallMode) (target : CallTarget)
deriving DecidableEq, Repr, Inhabited

namespace Instruction

/-- The opcode of an instruction. -/
def opcode : Instruction → Opcode
  | simple opcode => opcode
  | typed opcode _ => opcode
  | convert opcode _ _ => opcode
  | conditional opcode _ _ => opcode
  | branch opcode _ => opcode
  | stack opcode _ => opcode
  | call opcode _ _ => opcode

/-- The shape of the operands that an instruction carries. -/
def shape : Instruction → Shape
  | simple _ => .simple
  | typed .. => .typed
  | convert .. => .convert
  | conditional .. => .conditional
  | branch .. => .branch
  | stack .. => .stack
  | call .. => .call

/-- Whether the operands are those that the opcode requires.  A pop must name a
constant, a local or an argument. -/
def isWellFormed (instruction : Instruction) : Bool :=
  instruction.opcode.shape == instruction.shape &&
    match instruction with
    | stack .pop operand => operand.kind.isPopTarget
    | _ => true

/-- Every data type among the operands, that of a constant included and those of
a call's signature left out. -/
def dataTypes : Instruction → List DataType
  | typed _ type => [type]
  | conditional _ _ type => [type]
  | convert _ source target => [source, target]
  | stack _ (.const value) => [value.type]
  | _ => []

/-- The label that an instruction names. -/
def label? : Instruction → Option Label
  | branch _ label => some label
  | _ => none

/-- The operand of a push or pop. -/
def operand? : Instruction → Option Operand
  | stack _ operand => some operand
  | _ => none

/-- The mode and the target of a call. -/
def call? : Instruction → Option (CallMode × CallTarget)
  | call _ mode target => some (mode, target)
  | _ => none

/-- The definition that a call names. -/
def callee? : Instruction → Option DefinitionId
  | call _ _ (.definition id) => some id
  | _ => none

/-! ## Building instructions -/

/-- Pushes a constant. -/
def pushConst (value : Value) : Instruction := stack .push (.const value)

/-- Pushes a local variable. -/
def pushLocal (index : LocalIndex) : Instruction := stack .push (.localVar index)

/-- Pops into a local variable. -/
def popLocal (index : LocalIndex) : Instruction := stack .pop (.localVar index)

/-- Pushes an argument. -/
def pushArgument (index : ArgumentIndex) : Instruction := stack .push (.argument index)

/-- Pops into an argument. -/
def popArgument (index : ArgumentIndex) : Instruction := stack .pop (.argument index)

/-- Pushes the address of a local variable. -/
def pushLocalAddress (index : LocalIndex) : Instruction := stack .push (.localAddress index)

/-- Pushes the address of an argument. -/
def pushArgumentAddress (index : ArgumentIndex) : Instruction :=
  stack .push (.argumentAddress index)

/-- Pushes the address of a resource. -/
def pushResource (index : ResourceIndex) : Instruction := stack .push (.resource index)

/-- Pushes the address of a function. -/
def pushRoutine (id : DefinitionId) : Instruction := stack .push (.routine id)

/-- Pops a value of a type and drops it. -/
def discard (type : DataType) : Instruction := stack .pop (.const (.zero type))

/-- Converts the top value. -/
def cast (source target : DataType) : Instruction := convert .cast source target

/-- Pushes the truth of a comparison. -/
def compare (comparison : Comparison) (type : DataType) : Instruction :=
  conditional .compare comparison type

/-- Executes the next instruction only if a comparison holds. -/
def guard (comparison : Comparison) (type : DataType) : Instruction :=
  conditional .guard comparison type

/-- Continues at a label. -/
def jump (label : Label) : Instruction := branch .jump label

/-- Calls a definition. -/
def callDefinition (id : DefinitionId) : Instruction := call .call .direct (.definition id)

/-- Calls a definition in place of the running routine. -/
def tailCall (id : DefinitionId) : Instruction := call .call .tail (.definition id)

/-- Calls the function value on top of the stack. -/
def callIndirect (signature : Signature) : Instruction :=
  call .call .direct (.indirect signature)

/-- Calls the function value on top of the stack in place of the running routine. -/
def tailCallIndirect (signature : Signature) : Instruction :=
  call .call .tail (.indirect signature)

end Instruction

end StackCode
