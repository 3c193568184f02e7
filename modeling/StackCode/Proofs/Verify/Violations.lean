import Mathlib.Data.List.Basic
import StackCode.Proofs.Verify.Walks

/-!
# What a report says

A module violates a requirement at a definition or at an instruction.  The violations are
given as a relation that speaks about the module only, without nodes and subscriptions.  The
report of a module lists them all and nothing else: requirement by requirement, definition by
definition, first what concerns the definition and then what concerns its instructions, in
the order of the code.

Main definitions:

- `Requirement`: what is required of a module, in the order of the rules.
- `Violation`: where a module breaks a requirement, and how.
- `Lists`: a list of all findings for one requirement at one place, in order.

Main results:

- Theorem `Requirement.lists`: each rule finds the violations of its requirement.
- Theorem `diagnostics_verify`: the whole report.
-/

namespace StackCode

namespace Verify

/-! ## Requirements and their violations -/

/-- What is required of a module. -/
inductive Requirement where
  | argumentBounds
  | localBounds
  | typeValidity
  | jumpTargets
  | routineStructure
  | unusedRoutine
  | tailCall
  | callTargets
deriving DecidableEq, Repr

namespace Requirement

/-- The requirements in the order in which they are reported. -/
def all : List Requirement :=
  [argumentBounds, localBounds, typeValidity, jumpTargets, routineStructure, unusedRoutine,
    tailCall, callTargets]

/-- Only a routine that nothing calls is no error. -/
def severity : Requirement → Severity
  | unusedRoutine => .warning
  | _ => .error

end Requirement

/-- How a module breaks a requirement at a definition of it, or at the instruction with an
index in a routine. -/
inductive Violation (module : Module) :
    Requirement → Definition → Option Nat → Finding → Prop
  | missingArgument {routine : Routine} {i : Nat} {instruction : Instruction}
      {index : ArgumentIndex} (hcode : routine.code[i]? = some instruction)
      (hnamed : instruction.operand? = some (.argument index) ∨
        instruction.operand? = some (.argumentAddress index))
      (hmissing : routine.parameters.length ≤ index.toNat) :
      Violation module .argumentBounds (.routine routine) (some i)
        (.missingArgument index routine.parameters.length)
  | voidLocal {routine : Routine} {index : Nat} (hvoid : routine.locals[index]? = some .void) :
      Violation module .localBounds (.routine routine) none (.voidLocal index)
  | missingLocal {routine : Routine} {i : Nat} {instruction : Instruction} {index : LocalIndex}
      (hcode : routine.code[i]? = some instruction)
      (hnamed : instruction.operand? = some (.localVar index) ∨
        instruction.operand? = some (.localAddress index))
      (hmissing : routine.locals.size ≤ index.toNat) :
      Violation module .localBounds (.routine routine) (some i)
        (.missingLocal index routine.locals.size)
  | voidParameter {definition : Definition} (hvoid : .void ∈ definition.parameters) :
      Violation module .typeValidity definition none .voidParameter
  | voidOperand {routine : Routine} {i : Nat} {instruction : Instruction}
      (hcode : routine.code[i]? = some instruction) (hvoid : .void ∈ instruction.dataTypes) :
      Violation module .typeValidity (.routine routine) (some i) (.voidOperand instruction.opcode)
  | missingLabel {routine : Routine} {i : Nat} {instruction : Instruction} {label : Label}
      (hcode : routine.code[i]? = some instruction) (hnamed : instruction.label? = some label)
      (hmissing : routine.labels.size ≤ label.toNat) :
      Violation module .jumpTargets (.routine routine) (some i) (.missingLabel label)
  | invalidName {routine : Routine}
      (hname : routine.name = "" ∨ ∃ c ∈ routine.name.toList,
        Text.isAlphanumeric c = false ∧ c ∉ ['_', '#', '$']) :
      Violation module .routineStructure (.routine routine) none (.invalidName routine.name)
  | labelPastEnd {routine : Routine} {label : Nat} {position : UInt32}
      (hlabel : routine.labels[label]? = some position)
      (hpast : routine.code.size ≤ position.toNat) :
      Violation module .routineStructure (.routine routine) none (.labelPastEnd label position)
  | neverCalled {routine : Routine} (hname : routine.name ≠ "main")
      (huncalled : ¬∃ caller, .routine caller ∈ module.definitions ∧ caller.id ≠ routine.id ∧
        ∃ opcode mode, .call opcode mode (.definition routine.id) ∈ caller.code) :
      Violation module .unusedRoutine (.routine routine) none .neverCalled
  | tailCallToExternal {routine : Routine} {i : Nat} {opcode : Opcode} {id : DefinitionId}
      {callee : External}
      (hcode : routine.code[i]? = some (.call opcode .tail (.definition id)))
      (hcallee : module.find? id = some (.external callee)) :
      Violation module .tailCall (.routine routine) (some i) (.tailCallToExternal callee.name)
  | tailCallReturns {routine : Routine} {i : Nat} {opcode : Opcode} {id : DefinitionId}
      {callee : Routine}
      (hcode : routine.code[i]? = some (.call opcode .tail (.definition id)))
      (hcallee : module.find? id = some (.routine callee))
      (hother : callee.returnType ≠ routine.returnType) :
      Violation module .tailCall (.routine routine) (some i)
        (.tailCallReturns callee.returnType routine.returnType)
  | tailCallExpects {routine : Routine} {i : Nat} {opcode : Opcode} {signature : Signature}
      (hcode : routine.code[i]? = some (.call opcode .tail (.indirect signature)))
      (hother : signature.returnType ≠ routine.returnType) :
      Violation module .tailCall (.routine routine) (some i)
        (.tailCallReturns signature.returnType routine.returnType)
  | missingCallee {routine : Routine} {i : Nat} {opcode : Opcode} {mode : CallMode}
      {id : DefinitionId}
      (hcode : routine.code[i]? = some (.call opcode mode (.definition id)))
      (hmissing : ∀ definition ∈ module.definitions, definition.id ≠ id) :
      Violation module .callTargets (.routine routine) (some i) (.missingDefinition id)
  | missingFunction {routine : Routine} {i : Nat} {opcode : Opcode} {id : DefinitionId}
      (hcode : routine.code[i]? = some (.stack opcode (.routine id)))
      (hmissing : ∀ definition ∈ module.definitions, definition.id ≠ id) :
      Violation module .callTargets (.routine routine) (some i) (.missingDefinition id)
  | voidInSignature {routine : Routine} {i : Nat} {opcode : Opcode} {mode : CallMode}
      {signature : Signature}
      (hcode : routine.code[i]? = some (.call opcode mode (.indirect signature)))
      (hvoid : .void ∈ signature.parameters) :
      Violation module .callTargets (.routine routine) (some i) .voidInSignature

namespace Violation

variable {module : Module} {requirement : Requirement} {definition : Definition}
  {place : Option Nat} {finding : Finding}

/-- How grave a violation is depends on the requirement. -/
theorem severity_eq (hviolation : Violation module requirement definition place finding) :
    finding.severity = requirement.severity := by
  cases hviolation <;> rfl

/-- What is violated at an index is violated by an instruction. -/
theorem exists_instruction {i : Nat}
    (hviolation : Violation module requirement definition (some i) finding) :
    ∃ instruction, definition.code[i]? = some instruction := by
  cases hviolation <;> exact ⟨_, by assumption⟩

end Violation

/-! ## Lists of findings -/

/-- The order of findings at one place.  Local variables and labels come in the order of
their indices, after what concerns the whole definition. -/
def Finding.rank : Finding → Nat
  | voidLocal index => index + 1
  | labelPastEnd label _ => label + 1
  | _ => 0

/-- The findings are the violations of a requirement at a place, each of them once and in
order. -/
structure Lists (module : Module) (requirement : Requirement) (definition : Definition)
    (place : Option Nat) (findings : List Finding) : Prop where
  mem_iff : ∀ finding, finding ∈ findings ↔ Violation module requirement definition place finding
  ordered : findings.Pairwise fun first second => first.rank < second.rank

namespace Lists

variable {module : Module} {requirement : Requirement} {definition : Definition}
  {place : Option Nat}

/-- Nothing is listed where nothing is violated. -/
theorem nil (hnone : ∀ finding, ¬Violation module requirement definition place finding) :
    Lists module requirement definition place [] := by
  constructor
  · intro finding
    simp [hnone finding]
  · exact .nil

/-- The order of at most one finding does not matter. -/
theorem of_length_le_one {findings : List Finding}
    (hmem_iff : ∀ finding,
      finding ∈ findings ↔ Violation module requirement definition place finding)
    (hlength : findings.length ≤ 1) : Lists module requirement definition place findings := by
  constructor
  · exact hmem_iff
  · match findings, hlength with
    | [], _ => exact .nil
    | [finding], _ => exact List.pairwise_singleton _ finding

end Lists

/-! ## Findings at instructions -/

section Instructions

theorem Rule.mem_findings_iff {rule : Rule} {position : Position} {node : Node}
    {finding : Finding} :
    finding ∈ rule.findings position node ↔
      rule.looksAt node = true ∧ finding ∈ rule.check position node :=
  List.mem_ite_nil_right

variable {module : Module} {routine : Routine} {i : Nat} {instruction : Instruction}
  {finding : Finding}

/-- A rule finds at an instruction what its check says about it. -/
theorem Rule.mem_findingsAt_iff {rule : Rule} (hcode : routine.code[i]? = some instruction) :
    finding ∈ rule.findingsAt module (.routine routine) (some i) ↔
      rule.looksAt (.instruction i instruction) = true ∧
        finding ∈ rule.check ⟨module, some (.routine routine), some i⟩
          (.instruction i instruction) := by
  rw [← mem_findings_iff]
  simp [findingsAt, Definition.code, hcode]

theorem mem_returnMismatch_iff {found expected : DataType} :
    finding ∈ returnMismatch found expected ↔
      found ≠ expected ∧ finding = .tailCallReturns found expected := by
  simp [returnMismatch]

theorem mem_missingDefinition_iff {id : DefinitionId} :
    finding ∈ missingDefinition module id ↔
      (∀ definition ∈ module.definitions, definition.id ≠ id) ∧
        finding = .missingDefinition id := by
  simp [missingDefinition, Module.find?]

theorem argumentBounds_mem_iff (hcode : routine.code[i]? = some instruction) :
    finding ∈ argumentBounds.findingsAt module (.routine routine) (some i) ↔
      Violation module .argumentBounds (.routine routine) (some i) finding := by
  rw [Rule.mem_findingsAt_iff hcode]
  constructor
  · rintro ⟨-, hfinding⟩
    simp only [argumentBounds, Position.routine?_routine] at hfinding
    split at hfinding
    case h_3 => cases hfinding
    all_goals
      rename_i hnamed
      rw [List.mem_ite_nil_right, List.mem_singleton] at hfinding
      rcases hfinding with ⟨hmissing, rfl⟩
      exact .missingArgument hcode (by simp [hnamed]) hmissing
  · intro hviolation
    cases hviolation with
    | missingArgument hcode' hnamed hmissing =>
      cases hcode.symm.trans hcode'
      rcases hnamed with hnamed | hnamed <;>
        simp [argumentBounds, Rule.looksAt, Subscription.accepts, OperandFilter.accepts, hnamed,
          hmissing]

theorem localBounds_mem_iff (hcode : routine.code[i]? = some instruction) :
    finding ∈ localBounds.findingsAt module (.routine routine) (some i) ↔
      Violation module .localBounds (.routine routine) (some i) finding := by
  rw [Rule.mem_findingsAt_iff hcode]
  constructor
  · rintro ⟨-, hfinding⟩
    simp only [localBounds, Position.routine?_routine] at hfinding
    split at hfinding
    case h_3 => cases hfinding
    all_goals
      rename_i hnamed
      rw [List.mem_ite_nil_right, List.mem_singleton] at hfinding
      rcases hfinding with ⟨hmissing, rfl⟩
      exact .missingLocal hcode (by simp [hnamed]) hmissing
  · intro hviolation
    cases hviolation with
    | missingLocal hcode' hnamed hmissing =>
      cases hcode.symm.trans hcode'
      rcases hnamed with hnamed | hnamed <;>
        simp [localBounds, Rule.looksAt, Subscription.accepts, OperandFilter.accepts, hnamed,
          hmissing]

theorem typeValidity_mem_iff (hcode : routine.code[i]? = some instruction) :
    finding ∈ typeValidity.findingsAt module (.routine routine) (some i) ↔
      Violation module .typeValidity (.routine routine) (some i) finding := by
  rw [Rule.mem_findingsAt_iff hcode]
  constructor
  · rintro ⟨-, hfinding⟩
    simp only [typeValidity, List.contains_iff_mem, List.mem_ite_nil_right,
      List.mem_singleton] at hfinding
    rcases hfinding with ⟨hvoid, rfl⟩
    exact .voidOperand hcode hvoid
  · intro hviolation
    cases hviolation with
    | voidOperand hcode' hvoid =>
      cases hcode.symm.trans hcode'
      have hsome : instruction.dataTypes ≠ [] := List.ne_nil_of_mem hvoid
      simp [typeValidity, Rule.looksAt, Subscription.accepts, OperandFilter.accepts, hvoid, hsome]

theorem jumpTargets_mem_iff (hcode : routine.code[i]? = some instruction) :
    finding ∈ jumpTargets.findingsAt module (.routine routine) (some i) ↔
      Violation module .jumpTargets (.routine routine) (some i) finding := by
  rw [Rule.mem_findingsAt_iff hcode]
  constructor
  · rintro ⟨-, hfinding⟩
    simp only [jumpTargets, Position.routine?_routine] at hfinding
    split at hfinding
    · rename_i hnamed
      simp only [Routine.target?, Option.isNone_map, Option.isNone_iff_eq_none,
        Array.getElem?_eq_none_iff, List.mem_ite_nil_right, List.mem_singleton] at hfinding
      rcases hfinding with ⟨hmissing, rfl⟩
      exact .missingLabel hcode hnamed hmissing
    · cases hfinding
  · intro hviolation
    cases hviolation with
    | missingLabel hcode' hnamed hmissing =>
      cases hcode.symm.trans hcode'
      simp [jumpTargets, Rule.looksAt, Subscription.accepts, OperandFilter.accepts,
        Routine.target?, hnamed, hmissing]

theorem tailCall_mem_iff (hcode : routine.code[i]? = some instruction) :
    finding ∈ tailCall.findingsAt module (.routine routine) (some i) ↔
      Violation module .tailCall (.routine routine) (some i) finding := by
  rw [Rule.mem_findingsAt_iff hcode]
  constructor
  · rintro ⟨-, hfinding⟩
    cases instruction with
    | call opcode mode target =>
      cases mode with
      | direct => cases hfinding
      | tail =>
        cases target with
        | indirect signature =>
          simp only [tailCall, Position.routine?_routine, Instruction.call?] at hfinding
          rcases mem_returnMismatch_iff.mp hfinding with ⟨hother, rfl⟩
          exact .tailCallExpects hcode hother
        | definition id =>
          simp only [tailCall, Position.routine?_routine, Instruction.call?] at hfinding
          split at hfinding
          · rename_i hcallee
            rcases mem_returnMismatch_iff.mp hfinding with ⟨hother, rfl⟩
            exact .tailCallReturns hcode hcallee hother
          · rename_i hcallee
            rw [List.mem_singleton] at hfinding
            subst hfinding
            exact .tailCallToExternal hcode hcallee
          · cases hfinding
    | _ => cases hfinding
  · intro hviolation
    cases hviolation with
    | tailCallToExternal hcode' hcallee =>
      cases hcode.symm.trans hcode'
      exact ⟨rfl, by simp [tailCall, Instruction.call?, hcallee]⟩
    | tailCallReturns hcode' hcallee hother =>
      cases hcode.symm.trans hcode'
      exact ⟨rfl, by simp [tailCall, Instruction.call?, hcallee, mem_returnMismatch_iff, hother]⟩
    | tailCallExpects hcode' hother =>
      cases hcode.symm.trans hcode'
      exact ⟨rfl, mem_returnMismatch_iff.mpr ⟨hother, rfl⟩⟩

theorem callTargets_mem_iff (hcode : routine.code[i]? = some instruction) :
    finding ∈ callTargets.findingsAt module (.routine routine) (some i) ↔
      Violation module .callTargets (.routine routine) (some i) finding := by
  rw [Rule.mem_findingsAt_iff hcode]
  constructor
  · rintro ⟨-, hfinding⟩
    simp only [callTargets] at hfinding
    split at hfinding
    · rename_i hnode
      cases hnode
      simp only [List.contains_iff_mem, List.mem_ite_nil_right, List.mem_singleton] at hfinding
      rcases hfinding with ⟨hvoid, rfl⟩
      exact .voidInSignature hcode hvoid
    · rename_i hnode
      cases hnode
      rcases mem_missingDefinition_iff.mp hfinding with ⟨hmissing, rfl⟩
      exact .missingCallee hcode hmissing
    · rename_i hnode
      cases hnode
      rcases mem_missingDefinition_iff.mp hfinding with ⟨hmissing, rfl⟩
      exact .missingFunction hcode hmissing
    · cases hfinding
  · intro hviolation
    cases hviolation with
    | missingCallee hcode' hmissing =>
      cases hcode.symm.trans hcode'
      exact ⟨rfl, mem_missingDefinition_iff.mpr ⟨hmissing, rfl⟩⟩
    | missingFunction hcode' hmissing =>
      cases hcode.symm.trans hcode'
      exact ⟨rfl, mem_missingDefinition_iff.mpr ⟨hmissing, rfl⟩⟩
    | voidInSignature hcode' hvoid =>
      cases hcode.symm.trans hcode'
      exact ⟨rfl, by simp [callTargets, hvoid]⟩

/-- No rule finds more than one thing at an instruction. -/
theorem length_findings_le_one {rule : Rule} (hrule : rule ∈ rules) (position : Position) :
    (rule.findings position (.instruction i instruction)).length ≤ 1 := by
  have hunlooked {r : Rule} (hlooks : r.looksAt (.instruction i instruction) = false) :
      (r.findings position (.instruction i instruction)).length ≤ 1 := by
    simp [Rule.findings, hlooks]
  have hchecked {r : Rule}
      (hlength : (r.check position (.instruction i instruction)).length ≤ 1) :
      (r.findings position (.instruction i instruction)).length ≤ 1 := by
    unfold Rule.findings
    split
    · exact hlength
    · simp
  simp only [rules, List.mem_cons, List.not_mem_nil, or_false] at hrule
  rcases hrule with rfl | rfl | rfl | rfl | rfl | rfl | rfl | rfl
  · apply hchecked
    simp only [argumentBounds]
    repeat' split
    all_goals simp
  · apply hchecked
    cases hroutine : position.routine? with
    | none => simp [localBounds, hroutine]
    | some routine =>
      simp only [localBounds, hroutine]
      repeat' split
      all_goals simp
  · apply hchecked
    simp only [typeValidity]
    split <;> simp
  · apply hchecked
    simp only [jumpTargets]
    repeat' split
    all_goals simp
  · exact hunlooked rfl
  · exact hunlooked rfl
  · apply hchecked
    simp only [tailCall, returnMismatch]
    repeat' split
    all_goals simp
  · apply hchecked
    simp only [callTargets, missingDefinition]
    repeat' split
    all_goals simp

end Instructions

/-! ## Findings at definitions -/

section Definitions

variable {module : Module} {definition : Definition} {finding : Finding}

theorem mem_voidIndices_iff {start index : Nat} {types : List DataType} :
    index ∈ voidIndices start types ↔ ∃ j, types[j]? = some .void ∧ index = start + j := by
  induction types generalizing start with
  | nil => simp [voidIndices]
  | cons type types ih =>
    have hsplit : (∃ j, (type :: types)[j]? = some .void ∧ index = start + j) ↔
        (type = .void ∧ index = start) ∨ ∃ j, types[j]? = some .void ∧ index = start + 1 + j := by
      constructor
      · rintro ⟨_ | j, hvoid, rfl⟩
        · exact .inl ⟨by simpa using hvoid, rfl⟩
        · exact .inr ⟨j, by simpa using hvoid, by omega⟩
      · rintro (⟨rfl, rfl⟩ | ⟨j, hvoid, rfl⟩)
        · exact ⟨0, rfl, rfl⟩
        · exact ⟨j + 1, by simpa using hvoid, by omega⟩
    rw [hsplit, ← ih, voidIndices]
    by_cases hvoid : type = .void <;> simp [hvoid]

theorem pairwise_voidIndices (start : Nat) (types : List DataType) :
    (voidIndices start types).Pairwise (· < ·) := by
  induction types generalizing start with
  | nil => exact .nil
  | cons type types ih =>
    unfold voidIndices
    split
    · refine .cons ?_ (ih (start + 1))
      intro index hindex
      rcases mem_voidIndices_iff.mp hindex with ⟨j, -, rfl⟩
      omega
    · exact ih (start + 1)

theorem mem_labelsPastEnd_iff {size start : Nat} {positions : List UInt32} :
    finding ∈ labelsPastEnd size start positions ↔
      ∃ j position, positions[j]? = some position ∧ size ≤ position.toNat ∧
        finding = .labelPastEnd (start + j) position := by
  induction positions generalizing start with
  | nil => simp [labelsPastEnd]
  | cons first positions ih =>
    have hsplit : (∃ j position, (first :: positions)[j]? = some position ∧
          size ≤ position.toNat ∧ finding = .labelPastEnd (start + j) position) ↔
        (size ≤ first.toNat ∧ finding = .labelPastEnd start first) ∨
          ∃ j position, positions[j]? = some position ∧ size ≤ position.toNat ∧
            finding = .labelPastEnd (start + 1 + j) position := by
      constructor
      · rintro ⟨_ | j, position, hposition, hpast, rfl⟩
        · cases hposition
          exact .inl ⟨hpast, rfl⟩
        · exact .inr ⟨j, position, by simpa using hposition, hpast, by congr 1; omega⟩
      · rintro (⟨hpast, rfl⟩ | ⟨j, position, hposition, hpast, rfl⟩)
        · exact ⟨0, first, rfl, hpast, rfl⟩
        · exact ⟨j + 1, position, by simpa using hposition, hpast, by congr 1; omega⟩
    rw [hsplit, ← ih, labelsPastEnd]
    by_cases hpast : size ≤ first.toNat <;> simp [hpast]

theorem pairwise_labelsPastEnd (size start : Nat) (positions : List UInt32) :
    (labelsPastEnd size start positions).Pairwise fun first second =>
      first.rank < second.rank := by
  induction positions generalizing start with
  | nil => exact .nil
  | cons position positions ih =>
    unfold labelsPastEnd
    split
    · refine .cons ?_ (ih (start + 1))
      intro finding hfinding
      rcases mem_labelsPastEnd_iff.mp hfinding with ⟨j, other, -, -, rfl⟩
      simp only [Finding.rank]
      omega
    · exact ih (start + 1)

theorem isValidName_eq_false_iff {name : String} :
    isValidName name = false ↔ name = "" ∨ ∃ c ∈ name.toList,
      Text.isAlphanumeric c = false ∧ c ∉ ['_', '#', '$'] := by
  simp [isValidName, isNameChar, or_iff_not_imp_left]

theorem callee?_eq_some_iff {instruction : Instruction} {id : DefinitionId} :
    instruction.callee? = some id ↔
      ∃ opcode mode, instruction = .call opcode mode (.definition id) := by
  cases instruction with
  | call opcode mode target => cases target <;> simp [Instruction.callee?]
  | _ => simp [Instruction.callee?]

theorem mem_routines_iff {routine : Routine} :
    routine ∈ module.routines ↔ .routine routine ∈ module.definitions := by
  constructor
  · intro hroutine
    rcases List.mem_filterMap.mp hroutine with ⟨definition, hdefinition, hsame⟩
    cases definition with
    | routine r =>
      cases hsame
      exact hdefinition
    | external function => cases hsame
  · exact fun hdefinition => List.mem_filterMap.mpr ⟨_, hdefinition, rfl⟩

theorem isCalled_eq_true_iff {id : DefinitionId} :
    isCalled module id = true ↔
      ∃ caller, .routine caller ∈ module.definitions ∧ caller.id ≠ id ∧
        ∃ opcode mode, .call opcode mode (.definition id) ∈ caller.code := by
  have hcalls (caller : Routine) :
      (caller.code.any fun instruction => instruction.callee? == some id) = true ↔
        ∃ opcode mode, .call opcode mode (.definition id) ∈ caller.code := by
    rw [Array.any_eq_true']
    constructor
    · rintro ⟨instruction, hinstruction, hcallee⟩
      rcases callee?_eq_some_iff.mp (by simpa using hcallee) with ⟨opcode, mode, rfl⟩
      exact ⟨opcode, mode, hinstruction⟩
    · rintro ⟨opcode, mode, hinstruction⟩
      exact ⟨_, hinstruction, by simp [Instruction.callee?]⟩
  unfold isCalled
  simp only [List.any_eq_true, Bool.and_eq_true, bne_iff_ne, hcalls, mem_routines_iff]

theorem localBounds_lists (definition : Definition) :
    Lists module .localBounds definition none
      (localBounds.findingsAt module definition none) := by
  cases definition with
  | external function => exact .nil (by rintro finding ⟨⟩)
  | routine routine =>
    have hfindings : localBounds.findingsAt module (.routine routine) none =
        (voidIndices 0 routine.locals.toList).map Finding.voidLocal := by
      simp [Rule.findingsAt, Rule.findings, Rule.looksAt, localBounds, Subscription.accepts]
    rw [hfindings]
    constructor
    · intro finding
      rw [List.mem_map]
      constructor
      · rintro ⟨index, hindex, rfl⟩
        rcases mem_voidIndices_iff.mp hindex with ⟨j, hvoid, rfl⟩
        rw [Nat.zero_add]
        exact .voidLocal (by simpa using hvoid)
      · intro hviolation
        cases hviolation with
        | voidLocal hvoid =>
          refine ⟨_, mem_voidIndices_iff.mpr ⟨_, ?_, (Nat.zero_add _).symm⟩, rfl⟩
          simpa using hvoid
    · refine List.pairwise_map.mpr ((pairwise_voidIndices 0 _).imp ?_)
      intro first second hlt
      exact Nat.succ_lt_succ hlt

theorem typeValidity_lists (definition : Definition) :
    Lists module .typeValidity definition none
      (typeValidity.findingsAt module definition none) := by
  have hfindings : typeValidity.findingsAt module definition none =
      if .void ∈ definition.parameters then [Finding.voidParameter] else [] := by
    simp [Rule.findingsAt, Rule.findings, Rule.looksAt, typeValidity, Subscription.accepts]
  rw [hfindings]
  apply Lists.of_length_le_one
  · intro finding
    rw [List.mem_ite_nil_right, List.mem_singleton]
    constructor
    · rintro ⟨hvoid, rfl⟩
      exact .voidParameter hvoid
    · intro hviolation
      cases hviolation with
      | voidParameter hvoid => exact ⟨hvoid, rfl⟩
  · split <;> simp

theorem routineStructure_lists (definition : Definition) :
    Lists module .routineStructure definition none
      (routineStructure.findingsAt module definition none) := by
  cases definition with
  | external function => exact .nil (by rintro finding ⟨⟩)
  | routine routine =>
    have hfindings : routineStructure.findingsAt module (.routine routine) none =
        (if isValidName routine.name = false then [Finding.invalidName routine.name] else []) ++
          labelsPastEnd routine.code.size 0 routine.labels.toList := by
      cases hname : isValidName routine.name <;>
        simp [Rule.findingsAt, Rule.findings, Rule.looksAt, routineStructure, Subscription.accepts,
          hname]
    rw [hfindings]
    constructor
    · intro finding
      rw [List.mem_append, List.mem_ite_nil_right, List.mem_singleton, isValidName_eq_false_iff,
        mem_labelsPastEnd_iff]
      constructor
      · rintro (⟨hname, rfl⟩ | ⟨label, position, hlabel, hpast, rfl⟩)
        · exact .invalidName hname
        · rw [Nat.zero_add]
          exact .labelPastEnd (by simpa using hlabel) hpast
      · intro hviolation
        cases hviolation with
        | invalidName hname => exact .inl ⟨hname, rfl⟩
        | labelPastEnd hlabel hpast =>
          exact .inr ⟨_, _, by simpa using hlabel, hpast, by rw [Nat.zero_add]⟩
    · rw [List.pairwise_append]
      refine ⟨by split <;> simp, pairwise_labelsPastEnd _ _ _, ?_⟩
      intro first hfirst second hsecond
      rw [List.mem_ite_nil_right, List.mem_singleton] at hfirst
      rcases hfirst with ⟨-, rfl⟩
      rcases mem_labelsPastEnd_iff.mp hsecond with ⟨j, position, -, -, rfl⟩
      simp [Finding.rank]

theorem unusedRoutine_lists (definition : Definition) :
    Lists module .unusedRoutine definition none
      (unusedRoutine.findingsAt module definition none) := by
  cases definition with
  | external function => exact .nil (by rintro finding ⟨⟩)
  | routine routine =>
    have hfindings : unusedRoutine.findingsAt module (.routine routine) none =
        if routine.name ≠ "main" ∧ ¬isCalled module routine.id = true then [Finding.neverCalled]
        else [] := by
      by_cases hname : routine.name = "main" <;>
        cases hcalled : isCalled module routine.id <;>
          simp [Rule.findingsAt, Rule.findings, Rule.looksAt, unusedRoutine, Subscription.accepts,
            entryName, hname, hcalled]
    rw [hfindings]
    apply Lists.of_length_le_one
    · intro finding
      rw [List.mem_ite_nil_right, List.mem_singleton, isCalled_eq_true_iff]
      constructor
      · rintro ⟨⟨hname, huncalled⟩, rfl⟩
        exact .neverCalled hname huncalled
      · intro hviolation
        cases hviolation with
        | neverCalled hname huncalled => exact ⟨⟨hname, huncalled⟩, rfl⟩
    · split <;> simp

end Definitions

/-! ## Reports -/

/-- The rule that checks a requirement. -/
def Requirement.rule : Requirement → Rule
  | argumentBounds => Verify.argumentBounds
  | localBounds => Verify.localBounds
  | typeValidity => Verify.typeValidity
  | jumpTargets => Verify.jumpTargets
  | routineStructure => Verify.routineStructure
  | unusedRoutine => Verify.unusedRoutine
  | tailCall => Verify.tailCall
  | callTargets => Verify.callTargets

theorem Requirement.map_rule_all : all.map rule = rules :=
  rfl

theorem Requirement.rule_mem (requirement : Requirement) : requirement.rule ∈ rules := by
  cases requirement <;> simp [rule, rules]

theorem Requirement.lists_definition (module : Module) (requirement : Requirement)
    (definition : Definition) :
    Lists module requirement definition none
      (requirement.rule.findingsAt module definition none) := by
  cases requirement with
  | localBounds => exact localBounds_lists definition
  | typeValidity => exact typeValidity_lists definition
  | routineStructure => exact routineStructure_lists definition
  | unusedRoutine => exact unusedRoutine_lists definition
  | _ => exact .nil (by rintro finding ⟨⟩)

theorem Requirement.mem_instruction_iff {module : Module} (requirement : Requirement)
    {routine : Routine} {i : Nat} {instruction : Instruction}
    (hcode : routine.code[i]? = some instruction) {finding : Finding} :
    finding ∈ requirement.rule.findingsAt module (.routine routine) (some i) ↔
      Violation module requirement (.routine routine) (some i) finding := by
  cases requirement with
  | argumentBounds => exact argumentBounds_mem_iff hcode
  | localBounds => exact localBounds_mem_iff hcode
  | typeValidity => exact typeValidity_mem_iff hcode
  | jumpTargets => exact jumpTargets_mem_iff hcode
  | tailCall => exact tailCall_mem_iff hcode
  | callTargets => exact callTargets_mem_iff hcode
  | _ =>
    rw [Rule.mem_findingsAt_iff hcode]
    constructor
    · rintro ⟨⟨⟩, -⟩
    · rintro ⟨⟩

/-- The rule of a requirement finds its violations at every place. -/
theorem Requirement.lists (module : Module) (requirement : Requirement) (definition : Definition)
    (place : Option Nat) :
    Lists module requirement definition place
      (requirement.rule.findingsAt module definition place) := by
  cases place with
  | none => exact requirement.lists_definition module definition
  | some i =>
    cases hcode : definition.code[i]? with
    | none =>
      rw [Rule.findingsAt, hcode]
      apply Lists.nil
      intro finding hviolation
      rcases hviolation.exists_instruction with ⟨instruction, hfound⟩
      rw [hcode] at hfound
      cases hfound
    | some instruction =>
      cases definition with
      | external function => simp [Definition.code] at hcode
      | routine routine =>
        apply Lists.of_length_le_one
        · exact fun finding => requirement.mem_instruction_iff hcode
        · rw [Rule.findingsAt, hcode]
          exact length_findings_le_one requirement.rule_mem _

/-- The report of a module lists the violations of its requirements and nothing else, each of
them once: requirement by requirement and definition by definition, those of the definition
before those of its instructions, which come in the order of the code. -/
theorem diagnostics_verify (module : Module) :
    ∃ findings : Requirement → Definition → Option Nat → List Finding,
      (verify module).diagnostics =
        (Requirement.all.flatMap fun requirement =>
          module.definitions.flatMap fun definition =>
            (none :: (List.range definition.code.size).map some).flatMap fun place =>
              (findings requirement definition place).map (·.located definition place)) ∧
      ∀ requirement definition place,
        Lists module requirement definition place (findings requirement definition place) ∧
          ∀ finding ∈ findings requirement definition place,
            (finding.located definition place).severity = requirement.severity := by
  refine ⟨fun requirement => requirement.rule.findingsAt module, ?_, ?_⟩
  · rw [verify, diagnostics_verifyWith, ← Requirement.map_rule_all, List.flatMap_map]
    apply List.flatMap_congr
    intro requirement _
    have hmodule : requirement.rule.looksAt .module = false := by
      cases requirement <;> rfl
    rw [walk_of_not_looksAt module hmodule]
    rfl
  · intro requirement definition place
    have hlists := requirement.lists module definition place
    refine ⟨hlists, ?_⟩
    intro finding hfinding
    exact ((hlists.mem_iff finding).mp hfinding).severity_eq

example :
    (verify ⟨"m", [.routine ⟨1, "main", .void, [], #[.i32, .void, .void], #[2],
      #[.pushLocal 3, .tailCall 2]⟩, .external ⟨2, "put", .i32, [.void], "c", .cdecl⟩,
      .routine ⟨3, "", .void, [], #[], #[], #[.callDefinition 3]⟩], .empty⟩).diagnostics =
      [⟨.voidLocal 1, some (1, "main"), none⟩, ⟨.voidLocal 2, some (1, "main"), none⟩,
        ⟨.missingLocal 3 3, some (1, "main"), some 0⟩, ⟨.voidParameter, some (2, "put"), none⟩,
        ⟨.labelPastEnd 0 2, some (1, "main"), none⟩, ⟨.invalidName "", some (3, ""), none⟩,
        ⟨.neverCalled, some (3, ""), none⟩,
        ⟨.tailCallToExternal "put", some (1, "main"), some 1⟩] := by
  decide +kernel

end Verify

end StackCode
