import StackCode.Definition
import StackCode.Json.Decode
import StackCode.Resource

/-!
# Programs as JSON

The JSON form of data types, values, instructions, definitions and resources.
Constants are taken as they are given, without dropping bits above their type's
width, and resource tables may hold one byte string twice.

Main definitions: for each kind of data a reader `…?` and a writer.
-/

namespace StackCode.Json

/-! ## Vocabularies and values -/

/-- A data type. -/
def dataType? : Tree → Option DataType := choice? DataType.all DataType.name

/-- A comparison. -/
def comparison? : Tree → Option Comparison := choice? Comparison.all Comparison.name

/-- A calling convention. -/
def convention? : Tree → Option Convention := choice? Convention.all Convention.name

/-- An opcode. -/
def opcode? : Tree → Option Opcode := choice? Opcode.all Opcode.name

/-- A data type as a document. -/
def ofDataType (type : DataType) : Tree := ofString type.name

/-- A value. -/
def value? (tree : Tree) : Option Value := do
  match ← fields? ["data_type", "raw"] false tree with
  | [type, raw] =>
    let type ← required? dataType? type
    let raw ← required? (toNat? 0x10000000000000000) raw
    return ⟨type, raw.toUInt64⟩
  | _ => none

/-- A value as a document. -/
def ofValue (value : Value) : Tree :=
  record [("data_type", ofDataType value.type), ("raw", ofNat value.raw.toNat)]

/-! ## Instructions -/

/-- A 32-bit index. -/
def index32? (tree : Tree) : Option UInt32 := (toNat? 0x100000000 tree).map Nat.toUInt32

/-- A 16-bit index. -/
def index16? (tree : Tree) : Option UInt16 := (toNat? 0x10000 tree).map Nat.toUInt16

/-- An 8-bit index. -/
def index8? (tree : Tree) : Option UInt8 := (toNat? 0x100 tree).map Nat.toUInt8

/-- The operand of a push or a pop. -/
def operand? (tree : Tree) : Option Operand := do
  match ← variant? tree with
  | ("Const", some contents) => return .const (← value? contents)
  | ("Local", some contents) => return .localVar (← index16? contents)
  | ("Arg", some contents) => return .argument (← index8? contents)
  | ("LocalAddress", some contents) => return .localAddress (← index16? contents)
  | ("ArgAddress", some contents) => return .argumentAddress (← index8? contents)
  | ("Resource", some contents) => return .resource (← index32? contents)
  | ("Routine", some contents) => return .routine (← index32? contents)
  | _ => none

/-- An operand as a document. -/
def ofOperand (operand : Operand) : Tree :=
  variant operand.kind.name
    (match operand with
    | .const value => ofValue value
    | .localVar index => ofNat index.toNat
    | .argument index => ofNat index.toNat
    | .localAddress index => ofNat index.toNat
    | .argumentAddress index => ofNat index.toNat
    | .resource index => ofNat index.toNat
    | .routine id => ofNat id.toNat)

/-- A signature. -/
def signature? (tree : Tree) : Option Signature := do
  match ← fields? ["return_type", "parameters", "calling_convention"] false tree with
  | [returnType, parameters, convention] =>
    let returnType ← required? dataType? returnType
    let parameters ← required? (toList? dataType?) parameters
    let convention ← required? convention? convention
    return ⟨returnType, parameters, convention⟩
  | _ => none

/-- A signature as a document. -/
def ofSignature (signature : Signature) : Tree :=
  record [("return_type", ofDataType signature.returnType),
    ("parameters", ofList ofDataType signature.parameters),
    ("calling_convention", ofString signature.convention.name)]

/-- The target of a call. -/
def target? (tree : Tree) : Option CallTarget := do
  match ← variant? tree with
  | ("Definition", some contents) => return .definition (← index32? contents)
  | ("Indirect", some contents) => return .indirect (← signature? contents)
  | _ => none

/-- The target of a call as a document. -/
def ofTarget : CallTarget → Tree
  | .definition id => variant "Definition" (ofNat id.toNat)
  | .indirect signature => variant "Indirect" (ofSignature signature)

/-- The parts of an instruction of a shape. -/
def instructionParts? (shape : String) (parts : List Tree) : Option Instruction := do
  match shape, parts with
  | "Typed", [opcode, type] => return .typed (← opcode? opcode) (← dataType? type)
  | "Convert", [opcode, source, target] =>
    return .convert (← opcode? opcode) (← dataType? source) (← dataType? target)
  | "Conditional", [opcode, comparison, type] =>
    return .conditional (← opcode? opcode) (← comparison? comparison) (← dataType? type)
  | "Branch", [opcode, label] => return .branch (← opcode? opcode) (← index32? label)
  | "Stack", [opcode, operand] => return .stack (← opcode? opcode) (← operand? operand)
  | "Call", [opcode, mode, target] =>
    return .call (← opcode? opcode) (← choice? CallMode.all CallMode.name mode)
      (← target? target)
  | _, _ => none

/-- An instruction. -/
def instruction? (tree : Tree) : Option Instruction := do
  match ← variant? tree with
  | ("Simple", some contents) => return .simple (← opcode? contents)
  | (shape, some contents) => instructionParts? shape (← tuple? contents)
  | (_, none) => none

/-- An instruction as a document. -/
def ofInstruction (instruction : Instruction) : Tree :=
  let opcode := ofString instruction.opcode.name
  variant instruction.shape.name
    (match instruction with
    | .simple _ => opcode
    | .typed _ type => .array [opcode, ofDataType type]
    | .convert _ source target => .array [opcode, ofDataType source, ofDataType target]
    | .conditional _ comparison type =>
      .array [opcode, ofString comparison.name, ofDataType type]
    | .branch _ label => .array [opcode, ofNat label.toNat]
    | .stack _ operand => .array [opcode, ofOperand operand]
    | .call _ mode target => .array [opcode, ofString mode.name, ofTarget target])

/-! ## Definitions -/

/-- A routine. -/
def routine? (tree : Tree) : Option Routine := do
  match ← fields? ["id", "name", "return_type", "parameters", "locals", "label_locations",
      "instructions"] false tree with
  | [id, name, returnType, parameters, locals, labels, code] =>
    let id ← required? index32? id
    let name ← required? toText? name
    let returnType ← required? dataType? returnType
    let parameters ← required? (toList? dataType?) parameters
    let locals ← required? (toList? dataType?) locals
    let labels ← required? (toList? index32?) labels
    let code ← required? (toList? instruction?) code
    return ⟨id, name, returnType, parameters, locals.toArray, labels.toArray, code.toArray⟩
  | _ => none

/-- An external function. -/
def external? (tree : Tree) : Option External := do
  match ← fields? ["id", "name", "return_type", "parameters", "library",
      "calling_convention"] false tree with
  | [id, name, returnType, parameters, library, convention] =>
    let id ← required? index32? id
    let name ← required? toText? name
    let returnType ← required? dataType? returnType
    let parameters ← required? (toList? dataType?) parameters
    let library ← required? toText? library
    let convention ← required? convention? convention
    return ⟨id, name, returnType, parameters, library, convention⟩
  | _ => none

/-- A definition. -/
def definition? (tree : Tree) : Option Definition := do
  match ← variant? tree with
  | ("Routine", some contents) => return .routine (← routine? contents)
  | ("Extern", some contents) => return .external (← external? contents)
  | _ => none

/-- A definition as a document. -/
def ofDefinition : Definition → Tree
  | .routine routine =>
    variant "Routine" (record [("id", ofNat routine.id.toNat),
      ("name", ofString routine.name),
      ("return_type", ofDataType routine.returnType),
      ("parameters", ofList ofDataType routine.parameters),
      ("locals", ofList ofDataType routine.locals.toList),
      ("label_locations", ofList (fun position => ofNat position.toNat) routine.labels.toList),
      ("instructions", ofList ofInstruction routine.code.toList)])
  | .external function =>
    variant "Extern" (record [("id", ofNat function.id.toNat),
      ("name", ofString function.name),
      ("return_type", ofDataType function.returnType),
      ("parameters", ofList ofDataType function.parameters),
      ("library", ofString function.library),
      ("calling_convention", ofString function.convention.name)])

/-! ## Resources -/

/-- A resource. -/
def resource? (tree : Tree) : Option Resource := do
  match ← fields? ["kind", "bytes"] false tree with
  | [kind, bytes] =>
    let kind ← required? (choice? ResourceKind.all ResourceKind.name) kind
    let bytes ← required? (toList? index8?) bytes
    return ⟨kind, bytes⟩
  | _ => none

/-- A table of resources. -/
def resourceTable? (tree : Tree) : Option ResourceTable := do
  match ← fields? ["entries"] false tree with
  | [entries] => return ⟨← required? (toList? resource?) entries⟩
  | _ => none

/-- A table of resources as a document. -/
def ofResourceTable (table : ResourceTable) : Tree :=
  record [("entries", ofList (fun entry =>
    record [("kind", ofString entry.kind.name),
      ("bytes", ofList (fun byte => ofNat byte.toNat) entry.bytes)]) table.entries)]

end StackCode.Json
