import StackCode.Text.Alphanumeric
import StackCode.Verify.Walk

/-!
# Verification rules

The rules that every module must obey, in the order in which they are checked.

Main definitions:

- `argumentBounds`, `localBounds`: operands name existing arguments and locals.
- `typeValidity`: no parameter and no operand has the type `void`.
- `jumpTargets`, `routineStructure`: labels exist and lie inside the routine, and
  names are well formed.
- `unusedRoutine`: a warning for a routine that nothing calls.
- `tailCall`, `callTargets`: calls name existing definitions, and tail calls return
  what the routine returns.
- `rules`, `verify`.
-/

namespace StackCode.Verify

/-! ## Operands -/

/-- Argument operands name a parameter of the routine. -/
def argumentBounds : Rule where
  name := "argument-bounds"
  subscriptions := [.instruction .argument]
  check position node :=
    match position.routine?, node with
    | some routine, .instruction _ instruction =>
      match instruction.operand? with
      | some (.argument index) | some (.argumentAddress index) =>
        if routine.parameters.length ≤ index.toNat then
          [.missingArgument index routine.parameters.length]
        else []
      | _ => []
    | _, _ => []

/-- The indices of the `void` types in a list that starts at an index. -/
def voidIndices (index : Nat) : List DataType → List Nat
  | [] => []
  | type :: rest =>
    if type = .void then index :: voidIndices (index + 1) rest
    else voidIndices (index + 1) rest

/-- Local variables are not `void`, and local operands name one of them. -/
def localBounds : Rule where
  name := "local-bounds"
  subscriptions := [.routine, .instruction .localVar]
  check position node :=
    match position.routine?, node with
    | some routine, .definition _ =>
      (voidIndices 0 routine.locals.toList).map Finding.voidLocal
    | some routine, .instruction _ instruction =>
      match instruction.operand? with
      | some (.localVar index) | some (.localAddress index) =>
        if routine.locals.size ≤ index.toNat then [.missingLocal index routine.locals.size]
        else []
      | _ => []
    | _, _ => []

/-- Parameters and operands are not `void`. -/
def typeValidity : Rule where
  name := "type-validity"
  subscriptions := [.definition, .instruction .dataType]
  check _ node :=
    match node with
    | .definition definition =>
      if definition.parameters.contains .void then [.voidParameter] else []
    | .instruction _ instruction =>
      if instruction.dataTypes.contains .void then [.voidOperand instruction.opcode] else []
    | .module => []

/-! ## Labels and names -/

/-- Jumps name an existing label. -/
def jumpTargets : Rule where
  name := "jump-targets"
  subscriptions := [.instruction .label]
  check position node :=
    match position.routine?, node with
    | some routine, .instruction _ instruction =>
      match instruction.label? with
      | some label => if (routine.target? label).isNone then [.missingLabel label] else []
      | none => []
    | _, _ => []

/-- Whether a character may stand in the name of a routine. -/
def isNameChar (c : Char) : Bool :=
  Text.isAlphanumeric c || c == '_' || c == '#' || c == '$'

/-- Whether a routine may have a name. -/
def isValidName (name : String) : Bool := !name.isEmpty && name.toList.all isNameChar

/-- The labels at or past the end of a routine, in a table that starts at an index. -/
def labelsPastEnd (size label : Nat) : List UInt32 → List Finding
  | [] => []
  | position :: rest =>
    if size ≤ position.toNat then
      .labelPastEnd label position :: labelsPastEnd size (label + 1) rest
    else labelsPastEnd size (label + 1) rest

/-- Routines have well-formed names, and their labels lie inside them. -/
def routineStructure : Rule where
  name := "routine-structure"
  subscriptions := [.routine]
  check position _ :=
    match position.routine? with
    | some routine =>
      (if isValidName routine.name then [] else [.invalidName routine.name]) ++
        labelsPastEnd routine.code.size 0 routine.labels.toList
    | none => []

/-! ## Calls -/

/-- Whether a routine other than the given one calls it by its identifier. -/
def isCalled (module : Module) (id : DefinitionId) : Bool :=
  module.routines.any fun caller =>
    caller.id != id && caller.code.any fun instruction => instruction.callee? == some id

/-- Every routine but the entry is called by another routine. -/
def unusedRoutine : Rule where
  name := "unused-routine"
  subscriptions := [.routine]
  check position _ :=
    match position.routine? with
    | some routine =>
      if routine.name == entryName || isCalled position.module routine.id then []
      else [.neverCalled]
    | none => []

/-- A tail call to something that returns `found` from a routine that returns
`expected`. -/
def returnMismatch (found expected : DataType) : List Finding :=
  if found = expected then [] else [.tailCallReturns found expected]

/-- Tail calls name routines that return what the running routine returns. -/
def tailCall : Rule where
  name := "tail-call"
  subscriptions := [.instruction .call]
  check position node :=
    match position.routine?, node with
    | some routine, .instruction _ instruction =>
      match instruction.call? with
      | some (.tail, .indirect signature) =>
        returnMismatch signature.returnType routine.returnType
      | some (.tail, .definition id) =>
        match position.module.find? id with
        | some (.routine callee) => returnMismatch callee.returnType routine.returnType
        | some (.external callee) => [.tailCallToExternal callee.name]
        | none => []
      | _ => []
    | _, _ => []

/-- An identifier that no definition has. -/
def missingDefinition (module : Module) (id : DefinitionId) : List Finding :=
  if (module.find? id).isNone then [.missingDefinition id] else []

/-- Calls and function values name existing definitions, and signatures have no
`void` parameter. -/
def callTargets : Rule where
  name := "call-targets"
  subscriptions := [.instruction .call, .instruction .routineAddress]
  check position node :=
    match node with
    | .instruction _ (.call _ _ (.indirect signature)) =>
      if signature.parameters.contains .void then [.voidInSignature] else []
    | .instruction _ (.call _ _ (.definition id)) => missingDefinition position.module id
    | .instruction _ (.stack _ (.routine id)) => missingDefinition position.module id
    | _ => []

/-! ## All rules -/

/-- The rules that every module must obey. -/
def rules : List Rule :=
  [argumentBounds, localBounds, typeValidity, jumpTargets, routineStructure, unusedRoutine,
    tailCall, callTargets]

/-- Everything that the rules find in a module. -/
def verify (module : Module) : Report := verifyWith rules module

end StackCode.Verify
