import StackCode.Module
import StackCode.Text.Hex

/-!
# Traps

The faults that end an execution, and where they happened.

Main definitions:

- `Fault`: the cause of a trap, with its `name` and `message`.
- `Trap`: a fault with the routine and the instruction that caused it.
-/

namespace StackCode

/-- A call target that does not exist. -/
inductive MissingTarget where
  | entry (cause : EntryError)
  | definition (id : DefinitionId)
  | host (library name : String)
  | functionValue (address : UInt64)
deriving DecidableEq, Repr

/-- The text that names a missing call target. -/
def MissingTarget.text : MissingTarget → String
  | entry cause => "Module is not executable: " ++ cause.message
  | definition id => idText id
  | host library name => library ++ "::" ++ name
  | functionValue address => "function value " ++ Text.address address.toNat

/-- The cause of a trap. -/
inductive Fault where
  | stackOverflow
  | stackUnderflow
  | divisionByZero
  | typeMismatch (expected found : DataType)
  | unsupportedType (opcode : Opcode) (type : DataType)
  | malformedInstruction
  | unresolvedCall (target : MissingTarget)
  | signatureMismatch (expected found : Signature)
  | invalidAddress (address : UInt64)
  | invalidLocal (index : LocalIndex)
  | invalidArgument (index : ArgumentIndex)
  | invalidLabel (label : Label)
  | invalidResource (index : ResourceIndex)
  | hostFunction (message : String)
  | outOfFuel
deriving DecidableEq, Repr

namespace Fault

/-- The name of the kind of a fault. -/
def name : Fault → String
  | stackOverflow => "StackOverflow"
  | stackUnderflow => "StackUnderflow"
  | divisionByZero => "DivisionByZero"
  | typeMismatch .. => "TypeMismatch"
  | unsupportedType .. => "UnsupportedType"
  | malformedInstruction => "MalformedInstruction"
  | unresolvedCall _ => "UnresolvedCall"
  | signatureMismatch .. => "SignatureMismatch"
  | invalidAddress _ => "InvalidAddress"
  | invalidLocal _ => "InvalidLocal"
  | invalidArgument _ => "InvalidArgument"
  | invalidLabel _ => "InvalidLabel"
  | invalidResource _ => "InvalidResource"
  | hostFunction _ => "HostFunction"
  | outOfFuel => "OutOfFuel"

/-- The text of a fault. -/
def message : Fault → String
  | stackOverflow => "stack overflow"
  | stackUnderflow => "stack underflow"
  | divisionByZero => "division by zero"
  | typeMismatch expected found =>
    "type mismatch: expected " ++ expected.mnemonic ++ ", found " ++ found.mnemonic
  | unsupportedType opcode type =>
    "'" ++ opcode.mnemonic ++ "' does not support " ++ type.mnemonic
  | malformedInstruction => "malformed instruction"
  | unresolvedCall target => "unresolved call to " ++ target.text
  | signatureMismatch expected found =>
    "signature mismatch: call site expects " ++ expected.text ++ ", target is " ++ found.text
  | invalidAddress address => "invalid address " ++ Text.address address.toNat
  | invalidLocal index => "local " ++ toString index.toNat ++ " does not exist"
  | invalidArgument index => "argument " ++ toString index.toNat ++ " does not exist"
  | invalidLabel label => "label " ++ toString label.toNat ++ " does not exist"
  | invalidResource index => "resource " ++ toString index.toNat ++ " does not exist"
  | hostFunction message => "host function failed: " ++ message
  | outOfFuel => "out of fuel"

end Fault

/-- A fault together with where it happened. -/
structure Trap where
  fault : Fault
  routine : String
  instruction : Nat
deriving DecidableEq, Repr

/-- The text of a trap. -/
def Trap.message (trap : Trap) : String :=
  trap.fault.message ++ " (in '" ++ trap.routine ++ "', instruction " ++
    toString trap.instruction ++ ")"

end StackCode
