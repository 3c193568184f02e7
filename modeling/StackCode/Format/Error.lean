import StackCode.Instruction.Text
import StackCode.Module
import StackCode.Text.Hex

/-!
# Faults of the binary format

Why a module cannot be written, and why bytes are not a module.

Main definitions:

- `Section`: the four parts of a binary module.
- `EncodeError`, `DecodeError`, with their `message`.
-/

namespace StackCode.Format

/-- The sections of a binary module, in their order. -/
inductive Section where
  | header
  | data
  | resources
  | code
deriving DecidableEq, Repr

namespace Section

/-- The tag that opens a section. -/
def tag : Section → UInt8
  | header => 0
  | data => 1
  | resources => 2
  | code => 3

/-- The name of a section. -/
def name : Section → String
  | header => "Header"
  | data => "Data"
  | resources => "Resources"
  | code => "Code"

/-- The words for the contents of a section. -/
def contents : Section → String
  | header => "header"
  | data => "data pool"
  | resources => "resources"
  | code => "code"

end Section

/-- Why an instruction cannot be written. -/
inductive InstructionError where
  | malformed (instruction : Instruction)
  | tooManyParameters
deriving DecidableEq, Repr

/-- Why a module cannot be written. -/
inductive EncodeError where
  | collectionTooLarge
  | tooManyParameters
  | tooManyLocals
  | poolTooLarge
  | entryTooLarge
  | instruction (routine : String) (index : Nat) (cause : InstructionError)
deriving DecidableEq, Repr

/-- The text of a fault in an instruction. -/
def InstructionError.message : InstructionError → String
  | malformed instruction => "malformed instruction " ++ instruction.structuralText
  | tooManyParameters => "too many parameters"

/-- The text of a fault in a module to be written. -/
def EncodeError.message : EncodeError → String
  | collectionTooLarge => "collection too large"
  | tooManyParameters => "too many parameters"
  | tooManyLocals => "too many locals"
  | poolTooLarge => "data pool too large"
  | entryTooLarge => "data entry too large"
  | instruction routine index cause =>
    "routine '" ++ routine ++ "', instruction " ++ toString index ++
      ": Serialization error: " ++ cause.message

/-- A kind of tag that a binary module holds. -/
inductive TagKind where
  | dataType
  | convention
  | resourceKind
  | opcode
  | comparison
  | operandKind
  | callMode
  | callTarget
deriving DecidableEq, Repr

/-- The words for a kind of tag. -/
def TagKind.text : TagKind → String
  | dataType => "data type tag"
  | convention => "calling convention"
  | resourceKind => "resource kind"
  | opcode => "opcode"
  | comparison => "comparison"
  | operandKind => "stack operand kind"
  | callMode => "call mode"
  | callTarget => "call target tag"

/-- Why bytes are not a module. -/
inductive DecodeError where
  | unexpectedEnd (position : Nat)
  | badSignature
  | wrongSection (expected : Section) (found : UInt8)
  | unsupportedVersion (major minor : UInt32)
  | trailing (count : Nat) (after : String)
  | entryOutOfBounds
  | indexOutOfRange (index : UInt32)
  | notUtf8 (index : UInt32)
  | duplicateResource (index : Nat)
  | unknownMarker (marker : UInt8)
  | unknownTag (kind : TagKind) (tag : UInt8)
  | malformed (instruction : Instruction)
  | duplicateDefinition (duplicate : DuplicateId)
deriving DecidableEq, Repr

/-- The major version of the format. -/
def majorVersion : UInt32 := 1

/-- The minor version of the format; any minor version is read. -/
def minorVersion : UInt32 := 0

/-- The text of a fault in the bytes of a module. -/
def DecodeError.message : DecodeError → String
  | unexpectedEnd position => "unexpected end of input at byte " ++ toString position
  | badSignature => "bad signature, not a bridge module"
  | wrongSection expected found =>
    "expected section " ++ expected.name ++ " (" ++ toString expected.tag.toNat ++
      "), found kind " ++ toString found.toNat
  | unsupportedVersion major minor =>
    "unsupported format version " ++ toString major.toNat ++ "." ++ toString minor.toNat ++
      " (expected " ++ toString majorVersion.toNat ++ ".x)"
  | trailing count after => toString count ++ " trailing byte(s) after " ++ after
  | entryOutOfBounds => "data entry out of bounds"
  | indexOutOfRange index => "data index " ++ toString index.toNat ++ " out of range"
  | notUtf8 index => "data entry " ++ toString index.toNat ++ " is not valid UTF-8"
  | duplicateResource index =>
    "resource " ++ toString index ++ " duplicates an earlier entry"
  | unknownMarker marker =>
    "unknown definition marker 0x" ++ String.ofList (Text.hexByte marker)
  | unknownTag kind tag => "unknown " ++ kind.text ++ " " ++ toString tag.toNat
  | malformed instruction => (InstructionError.malformed instruction).message
  | duplicateDefinition duplicate => "Validation error: " ++ duplicate.message

end StackCode.Format
