import StackCode.Format.Encode
import StackCode.Format.Reader

/-!
# Reading modules

The inverse of writing.  Each part is checked as it is read, so the first fault in
the order of the bytes is the one reported; what concerns the module as a whole (the
text of its name, repeated identifiers) is checked last.

Main definitions:

- `readInstruction`, `readDefinition`: the parts of the code section.
- `decode`: a whole module.
-/

namespace StackCode.Format

/-! ## The data pool -/

/-- The byte strings that a data section holds. -/
abbrev PoolView := List (List UInt8)

namespace PoolView

/-- The part of a blob that a span covers. -/
def slice (blob : List UInt8) (span : Nat × Nat) : Except DecodeError (List UInt8) :=
  if span.1 + span.2 ≤ blob.length then .ok ((blob.drop span.1).take span.2)
  else .error .entryOutOfBounds

/-- The parts of a blob that spans cover, after those already cut, in reverse. -/
def slices (blob : List UInt8) (reversed : PoolView) :
    List (Nat × Nat) → Except DecodeError PoolView
  | [] => .ok reversed.reverse
  | span :: rest =>
    match slice blob span with
    | .error fault => .error fault
    | .ok bytes => slices blob (bytes :: reversed) rest

/-- One span: an offset and a length. -/
def readSpan : Reader (Nat × Nat) := do
  let offset ← Reader.word32
  let length ← Reader.word32
  return (offset.toNat, length.toNat)

/-- The contents of the data section. -/
def read : Reader PoolView := do
  let count ← Reader.word32
  let spans ← Reader.many readSpan count.toNat
  let size ← Reader.word32
  let blob ← Reader.take size.toNat
  match slices blob [] spans with
  | .ok view => return view
  | .error fault => Reader.fail fault

/-- The byte string at an index. -/
def bytes (view : PoolView) (index : UInt32) : Except DecodeError (List UInt8) :=
  match view[index.toNat]? with
  | some bytes => .ok bytes
  | none => .error (.indexOutOfRange index)

/-- The text at an index. -/
def string (view : PoolView) (index : UInt32) : Except DecodeError String := do
  match Text.ofUtf8? (← view.bytes index) with
  | some text => return text
  | none => .error (.notUtf8 index)

end PoolView

/-- The next index, and the text that it refers to. -/
def readString (view : PoolView) : Reader String := do
  match view.string (← Reader.word32) with
  | .ok text => return text
  | .error fault => Reader.fail fault

/-! ## Instructions -/

/-- A data type. -/
def readType : Reader DataType := Reader.tag .dataType DataType.ofTag?

/-- A calling convention. -/
def readConvention : Reader Convention := Reader.tag .convention Convention.ofTag?

/-- Parameter types after their number in one byte. -/
def readParameters : Reader (List DataType) := do
  let count ← Reader.byte
  Reader.many readType count.toNat

/-- The operand of a push or a pop. -/
def readOperand : Reader Operand := do
  match ← Reader.tag .operandKind OperandKind.ofTag? with
  | .const =>
    let type ← readType
    return .const (.ofRaw type (← Reader.word64))
  | .localVar => return .localVar (← Reader.word16)
  | .argument => return .argument (← Reader.byte)
  | .localAddress => return .localAddress (← Reader.word16)
  | .argumentAddress => return .argumentAddress (← Reader.byte)
  | .resource => return .resource (← Reader.word32)
  | .routine => return .routine (← Reader.word32)

/-- The target of a call. -/
def readTarget : Reader CallTarget := do
  let found ← Reader.byte
  if found = definitionTarget then
    return .definition (← Reader.word32)
  else if found = indirectTarget then
    let returnType ← readType
    let parameters ← readParameters
    let convention ← readConvention
    return .indirect ⟨returnType, parameters, convention⟩
  else Reader.fail (.unknownTag .callTarget found)

/-- The operands that an opcode requires. -/
def readOperands (opcode : Opcode) : Reader Instruction := do
  match opcode.shape with
  | .simple => return .simple opcode
  | .typed => return .typed opcode (← readType)
  | .convert =>
    let source ← readType
    let target ← readType
    return .convert opcode source target
  | .conditional =>
    let comparison ← Reader.tag .comparison Comparison.ofTag?
    let type ← readType
    return .conditional opcode comparison type
  | .branch => return .branch opcode (← Reader.word32)
  | .stack => return .stack opcode (← readOperand)
  | .call =>
    let mode ← Reader.tag .callMode CallMode.ofTag?
    let target ← readTarget
    return .call opcode mode target

/-- A well-formed instruction. -/
def readInstruction : Reader Instruction := do
  let opcode ← Reader.tag .opcode Opcode.ofTag?
  let instruction ← readOperands opcode
  if instruction.isWellFormed then return instruction
  else Reader.fail (.malformed instruction)

/-! ## Definitions -/

/-- A routine after its marker, identifier and name. -/
def readRoutine (id : DefinitionId) (name : String) : Reader Routine := do
  let returnType ← readType
  let parameters ← readParameters
  let localCount ← Reader.word16
  let locals ← Reader.many readType localCount.toNat
  let labelCount ← Reader.word32
  let labels ← Reader.many Reader.word32 labelCount.toNat
  let codeSize ← Reader.word32
  let code ← Reader.many readInstruction codeSize.toNat
  return ⟨id, name, returnType, parameters, locals.toArray, labels.toArray, code.toArray⟩

/-- An external function after its marker, identifier and name. -/
def readExternal (view : PoolView) (id : DefinitionId) (name : String) : Reader External := do
  let library ← readString view
  let convention ← readConvention
  let returnType ← readType
  let parameters ← readParameters
  return ⟨id, name, returnType, parameters, library, convention⟩

/-- A definition. -/
def readDefinition (view : PoolView) : Reader Definition := do
  let marker ← Reader.byte
  let id ← Reader.word32
  let name ← readString view
  if marker = routineMarker then
    return .routine (← readRoutine id name)
  else if marker = externalMarker then
    return .external (← readExternal view id name)
  else Reader.fail (.unknownMarker marker)

/-! ## Modules -/

/-- The contents of the header: the index of the module's name. -/
def readHeader : Reader UInt32 := do
  let major ← Reader.word32
  let minor ← Reader.word32
  if major = majorVersion then Reader.word32
  else Reader.fail (.unsupportedVersion major minor)

/-- One resource. -/
def readResource (view : PoolView) : Reader Resource := do
  let kind ← Reader.tag .resourceKind ResourceKind.ofTag?
  match view.bytes (← Reader.word32) with
  | .ok bytes => return ⟨kind, bytes⟩
  | .error fault => Reader.fail fault

/-- `count` resources after a table that holds those before them; each must have
bytes that no earlier one has. -/
def readResources (view : PoolView) (table : ResourceTable) : Nat → Reader ResourceTable
  | 0 => return table
  | count + 1 => do
    let resource ← readResource view
    match table.find? resource.bytes with
    | some _ => Reader.fail (.duplicateResource table.size)
    | none => readResources view (table.add resource).1 count

/-- The parts of a module. -/
def readModule : Reader Module := do
  let opening ← Reader.take signature.length
  if opening ≠ signature then Reader.fail .badSignature
  else
    let name ← Reader.within .header readHeader
    let view ← Reader.within .data PoolView.read
    let resources ← Reader.within .resources do
      let count ← Reader.word32
      readResources view .empty count.toNat
    let definitions ← Reader.within .code do
      let count ← Reader.word32
      Reader.many (readDefinition view) count.toNat
    Reader.finish "module"
    match view.string name with
    | .error fault => Reader.fail fault
    | .ok name =>
      match Module.ofParts name definitions resources with
      | .error duplicate => Reader.fail (.duplicateDefinition duplicate)
      | .ok module => return module

/-- The module that bytes stand for. -/
def decode (bytes : List UInt8) : Except DecodeError Module :=
  match readModule ⟨bytes, 0⟩ with
  | .ok (module, _) => .ok module
  | .error fault => .error fault

end StackCode.Format
