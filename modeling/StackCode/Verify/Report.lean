import StackCode.Definition

/-!
# Verification reports

What verification finds in a module, and where.

Main definitions:

- `Finding`: one rule that is broken, with its `severity` and `message`.
- `Diagnostic`: a finding at its place.
- `Report`: everything found, with `isValid`, `errors`, `warnings` and `summary`.
-/

namespace StackCode.Verify

/-- How grave a finding is. -/
inductive Severity where
  | warning
  | error
deriving DecidableEq, Repr

/-- The name of a severity in reports. -/
def Severity.name : Severity → String
  | warning => "Warning"
  | error => "Error"

/-- The word for a severity in front of a message. -/
def Severity.label : Severity → String
  | warning => "WARNING"
  | error => "ERROR"

/-- What a rule finds. -/
inductive Finding where
  | missingArgument (index : ArgumentIndex) (count : Nat)
  | voidLocal (index : Nat)
  | missingLocal (index : LocalIndex) (count : Nat)
  | voidParameter
  | voidOperand (opcode : Opcode)
  | missingLabel (label : Label)
  | invalidName (name : String)
  | labelPastEnd (label : Nat) (position : UInt32)
  | neverCalled
  | tailCallToExternal (name : String)
  | tailCallReturns (found expected : DataType)
  | voidInSignature
  | missingDefinition (id : DefinitionId)
  | remark (severity : Severity) (text : String)
deriving DecidableEq, Repr

namespace Finding

/-- How grave a finding is: only an unused routine is no error. -/
def severity : Finding → Severity
  | neverCalled => .warning
  | remark severity _ => severity
  | _ => .error

/-- The text of a finding. -/
def message : Finding → String
  | missingArgument index count =>
    "argument " ++ toString index.toNat ++ " does not exist, the routine takes " ++
      toString count ++ " parameter(s)"
  | voidLocal index => "local " ++ toString index ++ " is declared void"
  | missingLocal index count =>
    "local " ++ toString index.toNat ++ " does not exist, the routine declares " ++
      toString count ++ " local(s)"
  | voidParameter => "parameters cannot be void"
  | voidOperand opcode => "'" ++ opcode.mnemonic ++ "' cannot operate on void"
  | missingLabel label => "label " ++ toString label.toNat ++ " does not exist"
  | invalidName name => "'" ++ name ++ "' is not a valid routine name"
  | labelPastEnd label position =>
    "label " ++ toString label ++ " points at instruction " ++ toString position.toNat ++
      ", past the end of the routine"
  | neverCalled => "routine is never called"
  | tailCallToExternal name => "tail call target '" ++ name ++ "' is not a routine"
  | tailCallReturns found expected =>
    "tail call returns " ++ found.mnemonic ++ " but the routine returns " ++
      expected.mnemonic
  | voidInSignature => "indirect call descriptor has a void parameter"
  | missingDefinition id => "definition " ++ idText id ++ " does not exist in this module"
  | remark _ text => text

end Finding

/-- A finding at a definition, or at an instruction of it; at the module when it
names no definition. -/
structure Diagnostic where
  finding : Finding
  definition : Option (DefinitionId × String)
  instruction : Option Nat
deriving DecidableEq, Repr

namespace Diagnostic

/-- How grave the diagnostic is. -/
def severity (diagnostic : Diagnostic) : Severity := diagnostic.finding.severity

/-- Whether the diagnostic is an error. -/
def isError (diagnostic : Diagnostic) : Bool := diagnostic.severity == .error

/-- The text of a diagnostic with its place. -/
def text (diagnostic : Diagnostic) : String :=
  let place :=
    match diagnostic.definition, diagnostic.instruction with
    | some (_, name), some index => "'" ++ name ++ "', instruction " ++ toString index
    | some (_, name), none => "'" ++ name ++ "'"
    | none, _ => "module"
  diagnostic.severity.label ++ " (" ++ place ++ "): " ++ diagnostic.finding.message

end Diagnostic

/-- Everything that verification found in a module, in order. -/
structure Report where
  diagnostics : List Diagnostic
deriving DecidableEq, Repr

namespace Report

/-- The errors of a report. -/
def errors (report : Report) : List Diagnostic := report.diagnostics.filter Diagnostic.isError

/-- The warnings of a report. -/
def warnings (report : Report) : List Diagnostic :=
  report.diagnostics.filter fun diagnostic => diagnostic.severity == .warning

/-- Whether a report has no errors; warnings do not count. -/
def isValid (report : Report) : Bool := !report.diagnostics.any Diagnostic.isError

/-- The texts of all errors, one to a line. -/
def summary (report : Report) : String :=
  "\n".intercalate (report.errors.map Diagnostic.text)

end Report

end StackCode.Verify
