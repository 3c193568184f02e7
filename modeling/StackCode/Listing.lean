import StackCode.Module
import StackCode.Text.Quoted

/-!
# Listings

The readable form of a module.  Each definition is a block; a line `instN:` marks
the place of a label, and the instruction after a guard is indented once more.

Main definitions:

- `Listing.instruction`: one instruction.
- `Listing.routine`, `Listing.external`: the lines of one definition.
- `Listing.module`: the whole text.
-/

namespace StackCode.Listing

/-- The space before a line of a block. -/
def indent : String := "    "

/-! ## Instructions -/

/-- The name of a definition, or its identifier when it does not exist. -/
def definitionName (module : Module) (id : DefinitionId) : String :=
  match module.find? id with
  | some definition => definition.name
  | none => idText id

/-- The operand of a push or a pop. -/
def operand (module : Module) (opcode : Opcode) : Operand → String
  | .const value =>
    "." ++ value.type.mnemonic ++ (if opcode = .pop then "" else " " ++ value.text)
  | .localVar index => " " ++ toString index.toNat
  | .argument index => " " ++ toString index.toNat
  | .localAddress index => " " ++ toString index.toNat
  | .argumentAddress index => " " ++ toString index.toNat
  | .resource index =>
    match (module.resources.get? index).bind Resource.string? with
    | some text => " " ++ Text.quoted text
    | none => " #" ++ toString index.toNat
  | .routine id => " " ++ definitionName module id

/-- An instruction of a routine. -/
def instruction (module : Module) (routine : Routine) (instruction : Instruction) : String :=
  instruction.opcode.mnemonic ++
    match instruction with
    | .simple _ => ""
    | .typed _ type => "." ++ type.mnemonic
    | .convert _ source target => "." ++ source.mnemonic ++ "." ++ target.mnemonic
    | .conditional _ comparison type => "." ++ comparison.mnemonic ++ "." ++ type.mnemonic
    | .branch _ label =>
      match routine.target? label with
      | some position => " inst" ++ toString position
      | none => " label" ++ toString label.toNat ++ "?"
    | .stack opcode target =>
      "." ++ target.kind.mnemonic ++ operand module opcode target
    | .call _ mode target =>
      (if mode = .tail then ".tail" else "") ++
        match target with
        | .definition id => " " ++ definitionName module id
        | .indirect signature => ".indirect " ++ signature.text

/-! ## Definitions -/

/-- The first line of a definition, up to its name and parameters. -/
def heading (keyword : String) (returnType : DataType) (name : String)
    (parameters : List DataType) : String :=
  keyword ++ " " ++ (if returnType = .void then "" else returnType.mnemonic ++ " ") ++ name ++
    (if parameters.isEmpty then ""
    else "(" ++ ", ".intercalate (parameters.map DataType.mnemonic) ++ ")")

/-- The lines of an external function. -/
def external (function : External) : List String :=
  [heading "extern" function.returnType function.name function.parameters ++ " from " ++
    Text.quoted function.library ++ " " ++ function.convention.mnemonic]

/-- The line that marks a position, if a label stands for it. -/
def labelLine (routine : Routine) (position : Nat) : List String :=
  if routine.labels.any fun target => target.toNat == position then
    ["inst" ++ toString position ++ ":"]
  else []

/-- Whether an instruction guards the next one. -/
def isGuard : Instruction → Bool
  | .conditional .guard _ _ => true
  | _ => false

/-- The lines of the instructions from a position on. -/
def code (module : Module) (routine : Routine) (position : Nat) (guarded : Bool) :
    List Instruction → List (List String)
  | [] => [labelLine routine position]
  | current :: rest =>
    (labelLine routine position ++
      [indent ++ (if guarded then indent else "") ++ instruction module routine current]) ::
      code module routine (position + 1) (isGuard current) rest

/-- The lines of a routine. -/
def routine (module : Module) (routine : Routine) : List String :=
  [heading "routine" routine.returnType routine.name routine.parameters, "\x7b"] ++
    routine.locals.toList.map (fun type => indent ++ "local." ++ type.mnemonic) ++
    (code module routine 0 false routine.code.toList).flatten ++ ["\x7d"]

/-- The lines of a definition after the empty line that separates it. -/
def definition (module : Module) : Definition → List String
  | .routine body => "" :: routine module body
  | .external function => "" :: external function

/-! ## Modules -/

/-- The lines of a module. -/
def lines (module : Module) : List String :=
  ("module " ++ module.name) :: module.definitions.flatMap (definition module)

/-- The listing of a module. -/
def module (module : Module) : String :=
  String.join ((lines module).map fun line => line ++ "\n")

end StackCode.Listing
