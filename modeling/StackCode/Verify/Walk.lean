import StackCode.Module
import StackCode.Verify.Report

/-!
# Walking a module

A rule subscribes to the kinds of nodes that it looks at.  One walk for each rule
visits the module, each definition and each instruction of each routine, in order,
and hands the rule every node that matches one of its subscriptions.  All walks share
one context: the position that the walk has reached, which rules read and diagnostics
are given, and the diagnostics so far.

Main definitions:

- `Node`, `Subscription`: what is visited and what is asked for.
- `Position`, `Context`: where a walk stands and what has been found.
- `Rule`: subscriptions and a check of one node.
- `Rule.dispatch`, `Rule.visitDefinition`, `Rule.run`: the walk of one rule.
- `verifyWith`: everything that a list of rules finds.
-/

namespace StackCode.Verify

/-! ## Nodes and subscriptions -/

/-- A node of a module.  An instruction comes with its index in the code. -/
inductive Node where
  | module
  | definition (definition : Definition)
  | instruction (index : Nat) (instruction : Instruction)
deriving DecidableEq, Repr

/-- Which instructions a rule looks at. -/
inductive OperandFilter where
  | any
  | dataType
  | label
  | argument
  | localVar
  | routineAddress
  | call
deriving DecidableEq, Repr

/-- Whether an instruction passes a filter. -/
def OperandFilter.accepts (filter : OperandFilter) (instruction : Instruction) : Bool :=
  match filter with
  | any => true
  | dataType => !instruction.dataTypes.isEmpty
  | label => instruction.label?.isSome
  | argument =>
    match instruction.operand? with
    | some (.argument _) => true
    | some (.argumentAddress _) => true
    | _ => false
  | localVar =>
    match instruction.operand? with
    | some (.localVar _) => true
    | some (.localAddress _) => true
    | _ => false
  | routineAddress =>
    match instruction.operand? with
    | some (.routine _) => true
    | _ => false
  | call => instruction.call?.isSome

/-- Which nodes a rule looks at. -/
inductive Subscription where
  | module
  | definition
  | routine
  | external
  | instruction (filter : OperandFilter)
deriving DecidableEq, Repr

/-- Whether a node matches a subscription. -/
def Subscription.accepts : Subscription → Node → Bool
  | module, .module => true
  | definition, .definition _ => true
  | routine, .definition (.routine _) => true
  | external, .definition (.external _) => true
  | instruction filter, .instruction _ current => filter.accepts current
  | _, _ => false

/-! ## Contexts -/

/-- Where a walk stands: the definition and the instruction that it has reached. -/
structure Position where
  module : Module
  definition? : Option Definition
  instruction? : Option Nat
deriving DecidableEq, Repr

namespace Position

/-- The position before a walk. -/
def start (module : Module) : Position := ⟨module, none, none⟩

/-- The routine being walked, if the current definition is one. -/
def routine? (position : Position) : Option Routine :=
  position.definition?.bind Definition.routine?

/-- A finding at a position. -/
def locate (position : Position) (finding : Finding) : Diagnostic :=
  ⟨finding, position.definition?.map fun definition => (definition.id, definition.name),
    position.instruction?⟩

end Position

/-- A position with the diagnostics so far. -/
structure Context extends Position where
  diagnostics : Array Diagnostic

namespace Context

/-- The context before all walks of a module. -/
def new (module : Module) : Context := ⟨.start module, #[]⟩

/-- Adds a finding at the current position. -/
def report (context : Context) (finding : Finding) : Context :=
  { context with diagnostics := context.diagnostics.push (context.locate finding) }

end Context

/-! ## Rules -/

/-- A verification rule. -/
structure Rule where
  name : String
  subscriptions : List Subscription
  check : Position → Node → List Finding

namespace Rule

variable (rule : Rule)

/-- Whether a rule looks at a node. -/
def looksAt (node : Node) : Bool :=
  rule.subscriptions.any fun subscription => subscription.accepts node

/-- Hands a node to a rule that looks at it and reports what the rule finds. -/
def dispatch (context : Context) (node : Node) : Context :=
  if rule.looksAt node then
    (rule.check context.toPosition node).foldl Context.report context
  else context

/-- Walks the code of a routine from an index on.  The position stays at the last
instruction. -/
def visitCode (context : Context) (index : Nat) : List Instruction → Context
  | [] => context
  | instruction :: rest =>
    let reached := { context with instruction? := some index }
    visitCode (rule.dispatch reached (.instruction index instruction)) (index + 1) rest

/-- Walks a definition and, in a routine, its code.  The position leaves the code of
the routine but not the definition. -/
def visitDefinition (context : Context) (definition : Definition) : Context :=
  let reached := { context with definition? := some definition }
  let dispatched := rule.dispatch reached (.definition definition)
  match definition with
  | .routine routine =>
    { rule.visitCode dispatched 0 routine.code.toList with instruction? := none }
  | .external _ => dispatched

/-- Walks a whole module.  The position leaves the last definition. -/
def run (context : Context) : Context :=
  let walked := context.module.definitions.foldl rule.visitDefinition
    (rule.dispatch context .module)
  { walked with definition? := none }

end Rule

/-- Everything that a list of rules finds in a module, rule by rule. -/
def verifyWith (rules : List Rule) (module : Module) : Report :=
  let context := rules.foldl (fun context rule => rule.run context) (.new module)
  ⟨context.diagnostics.toList⟩

end StackCode.Verify
