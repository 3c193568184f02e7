import StackCode.Definition
import StackCode.Resource

/-!
# Modules

A module is a named list of definitions with their resources.  Definitions keep
the order in which they were registered and have distinct identifiers.

Main definitions:

- `Module.ofParts`: assembles a module and refuses a repeated identifier.
- `Module.find?`, `Module.routine?`, `Module.position?`: look-up by identifier.
- `Module.entry`: the routine that execution starts from.
-/

namespace StackCode

/-- A named set of definitions with their resources. -/
structure Module where
  name : String
  definitions : List Definition
  resources : ResourceTable
deriving DecidableEq, Repr, Inhabited

/-- Why a module cannot be executed. -/
inductive EntryError where
  | missing (module : String)
  | repeated (module : String)
  | takesParameters
deriving DecidableEq, Repr

/-- The name of the routine that execution starts from. -/
def entryName : String := "main"

/-- The text of an entry error. -/
def EntryError.message : EntryError → String
  | missing module => "module '" ++ module ++ "' has no '" ++ entryName ++ "' routine"
  | repeated module =>
    "module '" ++ module ++ "' has more than one '" ++ entryName ++ "' routine"
  | takesParameters => "'" ++ entryName ++ "' must not take parameters"

/-- A definition whose identifier an earlier definition has. -/
structure DuplicateId where
  id : DefinitionId
  name : String
deriving DecidableEq, Repr

/-- The text that names a repeated identifier. -/
def DuplicateId.message (duplicate : DuplicateId) : String :=
  "duplicate definition id " ++ idText duplicate.id ++ " ('" ++ duplicate.name ++ "')"

namespace Module

/-! ## Assembly -/

/-- The first definition whose identifier occurs before it, where `seen` holds the
identifiers before the list. -/
def findDuplicate? (seen : List DefinitionId) : List Definition → Option DuplicateId
  | [] => none
  | definition :: rest =>
    if seen.contains definition.id then some ⟨definition.id, definition.name⟩
    else findDuplicate? (definition.id :: seen) rest

/-- Assembles a module, refusing a repeated identifier. -/
def ofParts (name : String) (definitions : List Definition) (resources : ResourceTable) :
    Except DuplicateId Module :=
  match findDuplicate? [] definitions with
  | some duplicate => .error duplicate
  | none => .ok ⟨name, definitions, resources⟩

/-! ## Look-up -/

/-- The definition with an identifier. -/
def find? (module : Module) (id : DefinitionId) : Option Definition :=
  module.definitions.find? fun definition => definition.id == id

/-- The position of the definition with an identifier. -/
def position? (module : Module) (id : DefinitionId) : Option Nat :=
  module.definitions.findIdx? fun definition => definition.id == id

/-- The routine with an identifier. -/
def routine? (module : Module) (id : DefinitionId) : Option Routine :=
  (module.find? id).bind Definition.routine?

/-- The routines of a module, in order. -/
def routines (module : Module) : List Routine :=
  module.definitions.filterMap Definition.routine?

/-- The external functions of a module, in order. -/
def externals (module : Module) : List External :=
  module.definitions.filterMap Definition.external?

/-- Number of instructions of all routines. -/
def instructionCount (module : Module) : Nat :=
  module.routines.foldr (fun routine count => routine.code.size + count) 0

/-! ## Execution -/

/-- The routine that execution starts from: the only one with the entry name,
without parameters. -/
def entry (module : Module) : Except EntryError Routine :=
  match module.routines.filter fun routine => routine.name == entryName with
  | [] => .error (.missing module.name)
  | [main] => if main.parameters.isEmpty then .ok main else .error .takesParameters
  | _ => .error (.repeated module.name)

/-- Whether a module can be executed. -/
def isExecutable (module : Module) : Bool :=
  match module.entry with
  | .ok _ => true
  | .error _ => false

end Module

end StackCode
