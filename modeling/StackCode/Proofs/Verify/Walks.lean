import Mathlib.Data.List.Basic
import StackCode.Verify.Rules

/-!
# What walks find, place by place

The walks of a module thread one context: the position and the diagnostics so far.  A walk
leaves no instruction behind when it leaves a routine and no definition when it leaves the
module, so the next node is handed over, and reported on, at its own place.  What a walk finds
is then a list that speaks about the module only: place by place, in the order of the code.

Main definitions:

- `Rule.findingsAt`: what a rule finds at a definition or at an instruction of it.
- `walk`: everything that one rule finds.

Main results:

- Theorem `Rule.visitDefinition_eq`: a definition is walked at its places, and the position
  leaves its code.
- Theorem `Rule.run_start`: the walk of a rule ends where it started.
- Theorem `diagnostics_verifyWith`: the diagnostics of all walks.
-/

namespace StackCode

/-- The instructions of a definition; an external function has none. -/
def Definition.code : Definition → Array Instruction
  | routine r => r.code
  | external _ => #[]

namespace Verify

/-- A finding at a definition, or at one of its instructions. -/
def Finding.located (finding : Finding) (definition : Definition) (place : Option Nat) :
    Diagnostic :=
  ⟨finding, some (definition.id, definition.name), place⟩

/-- The routine that is walked. -/
@[simp]
theorem Position.routine?_routine (module : Module) (routine : Routine) (place : Option Nat) :
    Position.routine? ⟨module, some (.routine routine), place⟩ = some routine :=
  rfl

namespace Rule

variable (rule : Rule) (module : Module)

/-- What a rule finds at a node that it looks at. -/
def findings (position : Position) (node : Node) : List Finding :=
  if rule.looksAt node then rule.check position node else []

/-- What a rule finds at a definition, or at the instruction with an index. -/
def findingsAt (definition : Definition) : Option Nat → List Finding
  | none => rule.findings ⟨module, some definition, none⟩ (.definition definition)
  | some i =>
    match definition.code[i]? with
    | some instruction =>
      rule.findings ⟨module, some definition, some i⟩ (.instruction i instruction)
    | none => []

/-- What a rule reports at a definition, or at the instruction with an index. -/
def reportsAt (definition : Definition) (place : Option Nat) : List Diagnostic :=
  (rule.findingsAt module definition place).map (·.located definition place)

/-- What a rule reports in a definition: first on itself, then on its instructions. -/
def reportsIn (definition : Definition) : List Diagnostic :=
  (none :: (List.range definition.code.size).map some).flatMap (rule.reportsAt module definition)

end Rule

/-- Everything that a rule finds in a module. -/
def walk (module : Module) (rule : Rule) : List Diagnostic :=
  (rule.findings (.start module) .module).map (Position.start module).locate ++
    module.definitions.flatMap (rule.reportsIn module)

/-- What a rule finds that does not look at the module as a whole. -/
theorem walk_of_not_looksAt (module : Module) {rule : Rule}
    (hmodule : rule.looksAt .module = false) :
    walk module rule = module.definitions.flatMap (rule.reportsIn module) := by
  simp [walk, Rule.findings, hmodule]

namespace Rule

variable (rule : Rule) (module : Module)

/-! ## Nodes -/

/-- Findings are reported in order, all of them at the same position. -/
theorem foldl_report (findings : List Finding) (position : Position) (found : Array Diagnostic) :
    findings.foldl Context.report ⟨position, found⟩ =
      ⟨position, found ++ (findings.map position.locate).toArray⟩ := by
  induction findings generalizing found with
  | nil => simp
  | cons finding findings ih => simp [Context.report, ih]

theorem dispatch_eq (position : Position) (found : Array Diagnostic) (node : Node) :
    rule.dispatch ⟨position, found⟩ node =
      ⟨position, found ++ ((rule.findings position node).map position.locate).toArray⟩ := by
  unfold dispatch findings
  split
  · exact foldl_report _ position found
  · simp

/-! ## Definitions -/

/-- An instruction is walked at its place in the definition that is current. -/
theorem dispatch_instruction {definition : Definition} {i : Nat} {instruction : Instruction}
    (hcode : definition.code[i]? = some instruction) (found : Array Diagnostic) :
    rule.dispatch ⟨⟨module, some definition, some i⟩, found⟩ (.instruction i instruction) =
      ⟨⟨module, some definition, some i⟩,
        found ++ (rule.reportsAt module definition (some i)).toArray⟩ := by
  rw [dispatch_eq, reportsAt, findingsAt, hcode]
  rfl

/-- A walk of the rest of a definition's code reports on it instruction by instruction. -/
theorem visitCode_eq {definition : Definition} {code : List Instruction} {start : Nat}
    (hcode : ∀ i, code[i]? = definition.code[start + i]?) (place : Option Nat)
    (found : Array Diagnostic) :
    { rule.visitCode ⟨⟨module, some definition, place⟩, found⟩ start code with
        instruction? := none } =
      ⟨⟨module, some definition, none⟩, found ++ ((List.range code.length).flatMap fun i =>
        rule.reportsAt module definition (some (start + i))).toArray⟩ := by
  induction code generalizing start place found with
  | nil => simp [visitCode]
  | cons instruction code ih =>
    have hfirst : definition.code[start]? = some instruction := (hcode 0).symm
    have hrest : ∀ i, code[i]? = definition.code[start + 1 + i]? := by
      intro i
      rw [Nat.add_assoc, Nat.add_comm 1 i]
      exact hcode (i + 1)
    simp only [visitCode]
    rw [dispatch_instruction rule module hfirst, ih hrest, List.length_cons,
      List.range_succ_eq_map, List.flatMap_cons, List.flatMap_map]
    simp [Nat.add_assoc, Nat.add_comm 1]

/-- A definition is walked at its places, wherever the walk was before.  Afterwards the
position is at the definition and no longer in its code. -/
theorem visitDefinition_eq (definition : Definition) (previous : Option Definition)
    (found : Array Diagnostic) :
    rule.visitDefinition ⟨⟨module, previous, none⟩, found⟩ definition =
      ⟨⟨module, some definition, none⟩,
        found ++ (rule.reportsIn module definition).toArray⟩ := by
  have hdefinition : rule.dispatch ⟨⟨module, some definition, none⟩, found⟩
      (.definition definition) =
      ⟨⟨module, some definition, none⟩,
        found ++ (rule.reportsAt module definition none).toArray⟩ :=
    rule.dispatch_eq _ found _
  rw [reportsIn, List.flatMap_cons, List.flatMap_map]
  simp only [visitDefinition, hdefinition]
  cases definition with
  | external function => simp [Definition.code]
  | routine routine =>
    have hcode : ∀ i, routine.code.toList[i]? = (Definition.routine routine).code[0 + i]? := by
      intro i
      rw [Nat.zero_add, Array.getElem?_toList]
      rfl
    dsimp only
    rw [visitCode_eq rule module hcode]
    simp [Definition.code]

/-! ## Modules -/

/-- A walk of definitions reports on them one by one. -/
theorem foldl_visitDefinition (definitions : List Definition) (previous : Option Definition)
    (found : Array Diagnostic) :
    { definitions.foldl rule.visitDefinition ⟨⟨module, previous, none⟩, found⟩ with
        definition? := none } =
      ⟨.start module, found ++ (definitions.flatMap (rule.reportsIn module)).toArray⟩ := by
  induction definitions generalizing previous found with
  | nil => simp [Position.start]
  | cons definition definitions ih =>
    rw [List.foldl_cons, visitDefinition_eq, ih]
    simp

/-- The walk of a rule adds what the rule finds and ends where it started. -/
theorem run_start (found : Array Diagnostic) :
    rule.run ⟨.start module, found⟩ = ⟨.start module, found ++ (walk module rule).toArray⟩ := by
  unfold run
  rw [dispatch_eq]
  refine (foldl_visitDefinition rule module _ none _).trans ?_
  simp [walk, Position.start]

end Rule

theorem foldl_run (rules : List Rule) (module : Module) (found : Array Diagnostic) :
    rules.foldl (fun context rule => rule.run context) ⟨.start module, found⟩ =
      ⟨.start module, found ++ (rules.flatMap (walk module)).toArray⟩ := by
  induction rules generalizing found with
  | nil => simp
  | cons rule rules ih =>
    rw [List.foldl_cons, rule.run_start, ih]
    simp

/-- The diagnostics of a list of rules are those of its walks, in order. -/
theorem diagnostics_verifyWith (rules : List Rule) (module : Module) :
    (verifyWith rules module).diagnostics = rules.flatMap (walk module) := by
  simp [verifyWith, Context.new, foldl_run]

end Verify

end StackCode
