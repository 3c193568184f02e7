import StackCode.Format.Pool

/-!
# Writing modules

A binary module is a signature followed by four sections.  A section is its tag,
the length of its contents in four bytes, and the contents.  All numbers are
little endian.

Main definitions:

- `encodeInstruction`, `encodeDefinition`: the parts of the code section.
- `encode`: a whole module.
-/

namespace StackCode.Format

/-- The bytes that open every binary module. -/
def signature : List UInt8 := [0x62, 0x72, 0x00, 0x00]

/-- The byte that opens a routine. -/
def routineMarker : UInt8 := 0xF0

/-- The byte that opens an external function. -/
def externalMarker : UInt8 := 0xF1

/-- The tag of a call to a definition. -/
def definitionTarget : UInt8 := 0

/-- The tag of a call to a function value. -/
def indirectTarget : UInt8 := 1

/-- Two bytes of a number. -/
def word16 (n : UInt16) : List UInt8 := LittleEndian.encode 2 n.toNat

/-- Four bytes of a number. -/
def word32 (n : UInt32) : List UInt8 := LittleEndian.encode 4 n.toNat

/-- Eight bytes of a number. -/
def word64 (n : UInt64) : List UInt8 := LittleEndian.encode 8 n.toNat

/-! ## Instructions -/

/-- A list of parameter types after its length in one byte, absent when there are
too many. -/
def encodeParameters? (types : List DataType) : Option (List UInt8) :=
  if types.length < 256 then some (types.length.toUInt8 :: types.map DataType.tag) else none

/-- The operand of a push or a pop. -/
def encodeOperand (operand : Operand) : List UInt8 :=
  operand.kind.tag ::
    match operand with
    | .const value => value.type.tag :: word64 value.raw
    | .localVar index => word16 index
    | .argument index => [index]
    | .localAddress index => word16 index
    | .argumentAddress index => [index]
    | .resource index => word32 index
    | .routine id => word32 id

/-- The target of a call. -/
def encodeTarget : CallTarget → Except InstructionError (List UInt8)
  | .definition id => .ok (definitionTarget :: word32 id)
  | .indirect signature =>
    match encodeParameters? signature.parameters with
    | none => .error .tooManyParameters
    | some parameters =>
      .ok (indirectTarget :: signature.returnType.tag ::
        (parameters ++ [signature.convention.tag]))

/-- The operands of an instruction. -/
def encodeOperands : Instruction → Except InstructionError (List UInt8)
  | .simple _ => .ok []
  | .typed _ type => .ok [type.tag]
  | .convert _ source target => .ok [source.tag, target.tag]
  | .conditional _ comparison type => .ok [comparison.tag, type.tag]
  | .branch _ label => .ok (word32 label)
  | .stack _ operand => .ok (encodeOperand operand)
  | .call _ mode target => (encodeTarget target).map (mode.tag :: ·)

/-- An instruction: the tag of its opcode and its operands. -/
def encodeInstruction (instruction : Instruction) : Except InstructionError (List UInt8) :=
  if instruction.isWellFormed then
    (encodeOperands instruction).map (instruction.opcode.tag :: ·)
  else .error (.malformed instruction)

/-- The instructions of a routine from a position on, after the bytes before them
in reverse. -/
def encodeCode (routine : String) (index : Nat) (reversed : List UInt8) :
    List Instruction → Except EncodeError (List UInt8)
  | [] => .ok reversed.reverse
  | instruction :: rest =>
    match encodeInstruction instruction with
    | .error cause => .error (.instruction routine index cause)
    | .ok bytes => encodeCode routine (index + 1) (bytes.reverse ++ reversed) rest

/-! ## Definitions -/

/-- Parameter types of a definition. -/
def encodeParameters (types : List DataType) : Except EncodeError (List UInt8) :=
  match encodeParameters? types with
  | some bytes => .ok bytes
  | none => .error .tooManyParameters

/-- Local variables of a routine after their number in two bytes. -/
def encodeLocals (types : Array DataType) : Except EncodeError (List UInt8) :=
  if types.size < 0x10000 then
    .ok (LittleEndian.encode 2 types.size ++ types.toList.map DataType.tag)
  else .error .tooManyLocals

/-- A routine. -/
def encodeRoutine (pool : Pool) (routine : Routine) :
    Except EncodeError (List UInt8 × Pool) := do
  let (name, pool) ← pool.intern (Text.utf8 routine.name)
  let parameters ← encodeParameters routine.parameters
  let locals ← encodeLocals routine.locals
  let labelCount ← encodeCount routine.labels.size
  let codeSize ← encodeCount routine.code.size
  let code ← encodeCode routine.name 0 [] routine.code.toList
  let labels := routine.labels.toList.flatMap word32
  return (routineMarker :: (word32 routine.id ++ (word32 name ++ (routine.returnType.tag ::
    (parameters ++ (locals ++ (labelCount ++ (labels ++ (codeSize ++ code)))))))), pool)

/-- An external function. -/
def encodeExternal (pool : Pool) (function : External) :
    Except EncodeError (List UInt8 × Pool) := do
  let (name, pool) ← pool.intern (Text.utf8 function.name)
  let (library, pool) ← pool.intern (Text.utf8 function.library)
  let parameters ← encodeParameters function.parameters
  return (externalMarker :: (word32 function.id ++ (word32 name ++ (word32 library ++
    (function.convention.tag :: function.returnType.tag :: parameters)))), pool)

/-- A definition. -/
def encodeDefinition (pool : Pool) : Definition → Except EncodeError (List UInt8 × Pool)
  | .routine routine => encodeRoutine pool routine
  | .external function => encodeExternal pool function

/-- Definitions one after another. -/
def encodeDefinitions (pool : Pool) :
    List Definition → Except EncodeError (List UInt8 × Pool)
  | [] => .ok ([], pool)
  | definition :: rest => do
    let (bytes, pool) ← encodeDefinition pool definition
    let (others, pool) ← encodeDefinitions pool rest
    return (bytes ++ others, pool)

/-! ## Modules -/

/-- Resources one after another: their kinds and their indices in the pool. -/
def encodeResources (pool : Pool) : List Resource → Except EncodeError (List UInt8 × Pool)
  | [] => .ok ([], pool)
  | resource :: rest => do
    let (index, pool) ← pool.intern resource.bytes
    let (others, pool) ← encodeResources pool rest
    return (resource.kind.tag :: (word32 index ++ others), pool)

/-- A section with its contents. -/
def encodeSection (kind : Section) (contents : List UInt8) : Except EncodeError (List UInt8) := do
  let size ← encodeCount contents.length
  return kind.tag :: (size ++ contents)

/-- A whole module. -/
def encode (module : Module) : Except EncodeError (List UInt8) := do
  let (name, pool) ← Pool.empty.intern (Text.utf8 module.name)
  let resourceCount ← encodeCount module.resources.size
  let (resources, pool) ← encodeResources pool module.resources.entries
  let definitionCount ← encodeCount module.definitions.length
  let (definitions, pool) ← encodeDefinitions pool module.definitions
  let data ← pool.encode
  let header ←
    encodeSection .header (word32 majorVersion ++ (word32 minorVersion ++ word32 name))
  let data ← encodeSection .data data
  let resources ← encodeSection .resources (resourceCount ++ resources)
  let code ← encodeSection .code (definitionCount ++ definitions)
  return signature ++ (header ++ (data ++ (resources ++ code)))

end StackCode.Format
