import StackCode.Instruction

/-!
# Structural text of instructions

A form that shows how an instruction is built, with every constructor and field
named: `Stack(Pop, Local(Local(0)))`, `Conditional(If, Zero, I32)`.  Messages
about ill-formed instructions use it.

Main definition: `Instruction.structuralText`.
-/

namespace StackCode

namespace Text

/-- A constructor name with its fields in parentheses. -/
def applied (name : String) (fields : List String) : String :=
  name ++ "(" ++ ", ".intercalate fields ++ ")"

end Text

open Text (applied)

/-- The structural text of an operand. -/
def Operand.structuralText (operand : Operand) : String :=
  applied operand.kind.name
    [match operand with
    | .const value => value.structuralText
    | .localVar index => applied "Local" [toString index.toNat]
    | .argument index => toString index.toNat
    | .localAddress index => applied "Local" [toString index.toNat]
    | .argumentAddress index => toString index.toNat
    | .resource index => applied "ResourceIndex" [toString index.toNat]
    | .routine id => applied "DefinitionId" [toString id.toNat]]

/-- The structural text of a signature. -/
def Signature.structuralText (signature : Signature) : String :=
  "CallInfo \x7b return_type: " ++ signature.returnType.name ++
    ", parameters: [" ++ ", ".intercalate (signature.parameters.map DataType.name) ++
    "], calling_convention: " ++ signature.convention.name ++ " \x7d"

/-- The structural text of the target of a call. -/
def CallTarget.structuralText : CallTarget → String
  | definition id => applied "Definition" [applied "DefinitionId" [toString id.toNat]]
  | indirect signature => applied "Indirect" [signature.structuralText]

/-- The structural text of an instruction. -/
def Instruction.structuralText (instruction : Instruction) : String :=
  applied instruction.shape.name
    (instruction.opcode.name ::
      match instruction with
      | simple _ => []
      | typed _ type => [type.name]
      | convert _ source target => [source.name, target.name]
      | conditional _ comparison type => [comparison.name, type.name]
      | branch _ label => [applied "Label" [toString label.toNat]]
      | stack _ operand => [operand.structuralText]
      | call _ mode target => [mode.name, target.structuralText])

end StackCode
