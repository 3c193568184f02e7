import StackCode.Proofs.Machine.Layers
import StackCode.Proofs.Verify.Walks

/-!
# What an accepted module satisfies

A report without errors means that no rule found an error at any node that it looks at.
From this follows what the rules check, said about the module itself.

Main results:

- Theorems `Verify.clean_definition`, `Verify.clean_instruction`: no rule finds an error at a
  definition or an instruction of an accepted module.
- Theorems `Verify.storable_locals`, `Verify.storable_parameters`, `Verify.storable_operands`:
  nothing is void that has to be stored.
- Theorem `Verify.returnType_of_tailCall`: tail calls return what the calling routine returns.
- Theorems `Verify.argument_lt`, `Verify.local_lt`, `Verify.exists_target`,
  `Verify.exists_function`, `Verify.exists_callee`: what an instruction names exists.
-/

namespace StackCode

namespace Verify

/-! ## Rules at nodes -/

/-- An accepted module has no errors in what any rule finds. -/
theorem isError_eq_false {module : Module} (hvalid : (verify module).isValid = true) {rule : Rule}
    (hrule : rule ∈ rules) {diagnostic : Diagnostic} (hfound : diagnostic ∈ walk module rule) :
    diagnostic.isError = false := by
  have hmember : diagnostic ∈ (verify module).diagnostics := by
    rw [verify, diagnostics_verifyWith]
    exact List.mem_flatMap.mpr ⟨rule, hrule, hfound⟩
  unfold Report.isValid at hvalid
  rw [Bool.not_eq_true', List.any_eq_false] at hvalid
  simpa using hvalid diagnostic hmember

section Nodes

variable {module : Module}

/-- No rule finds an error at a place of an accepted module. -/
theorem clean_place {rule : Rule} {finding : Finding}
    (hvalid : (verify module).isValid = true) (hrule : rule ∈ rules)
    {definition : Definition} (hdefinition : definition ∈ module.definitions)
    (place : Option Nat) (hplace : ∀ i, place = some i → i < definition.code.size)
    (hfinding : finding ∈ rule.findingsAt module definition place) :
    finding.severity ≠ .error := by
  have hvisited : place ∈ none :: (List.range definition.code.size).map some := by
    cases place with
    | none => exact List.mem_cons_self
    | some i => simpa using hplace i rfl
  have hwalked : finding.located definition place ∈ walk module rule := by
    refine List.mem_append_right _ (List.mem_flatMap.mpr ⟨definition, hdefinition, ?_⟩)
    exact List.mem_flatMap.mpr ⟨place, hvisited, List.mem_map_of_mem hfinding⟩
  have hclean := isError_eq_false hvalid hrule hwalked
  simpa [Diagnostic.isError, Diagnostic.severity, Finding.located] using hclean

/-- No rule finds an error at a definition of an accepted module. -/
theorem clean_definition (rule : Rule) (finding : Finding)
    (hvalid : (verify module).isValid = true) (hrule : rule ∈ rules)
    {definition : Definition} (hdefinition : definition ∈ module.definitions)
    (hlooks : rule.looksAt (.definition definition) = true)
    (hfinding : finding ∈
      rule.check ⟨module, some definition, none⟩ (.definition definition)) :
    finding.severity ≠ .error := by
  apply clean_place hvalid hrule hdefinition none
  · rintro i ⟨⟩
  · rwa [Rule.findingsAt, Rule.findings, if_pos hlooks]

/-- No rule finds an error at an instruction of an accepted module. -/
theorem clean_instruction (rule : Rule) (finding : Finding)
    (hvalid : (verify module).isValid = true) (hrule : rule ∈ rules)
    {routine : Routine} (hroutine : .routine routine ∈ module.definitions) {i : Nat}
    {instruction : Instruction} (hcode : routine.code[i]? = some instruction)
    (hlooks : rule.looksAt (.instruction i instruction) = true)
    (hfinding : finding ∈
      rule.check ⟨module, some (.routine routine), some i⟩ (.instruction i instruction)) :
    finding.severity ≠ .error := by
  apply clean_place hvalid hrule hroutine (some i)
  · rintro _ ⟨⟩
    exact (Array.getElem?_eq_some_iff.mp hcode).1
  · rw [Rule.findingsAt, Definition.code, hcode]
    dsimp only
    rwa [Rule.findings, if_pos hlooks]

/-! ## Consequences -/

/-- A void type in a list has an index. -/
theorem voidIndices_ne_nil {types : List DataType} (hvoid : .void ∈ types) (index : Nat) :
    voidIndices index types ≠ [] := by
  induction types generalizing index with
  | nil => simp at hvoid
  | cons type types ih =>
    unfold voidIndices
    by_cases hfirst : type = .void
    · simp [hfirst]
    · rw [if_neg hfirst]
      rcases List.mem_cons.mp hvoid with rfl | hrest
      · exact absurd rfl hfirst
      · exact ih hrest (index + 1)

/-- The locals of an accepted module can be stored. -/
theorem storable_locals (hvalid : (verify module).isValid = true) {routine : Routine}
    (hroutine : .routine routine ∈ module.definitions) : .void ∉ routine.locals.toList := by
  intro hvoid
  obtain ⟨index, hindex⟩ := List.exists_mem_of_ne_nil _ (voidIndices_ne_nil hvoid 0)
  have hclean := clean_definition localBounds (.voidLocal index) hvalid
    (by simp [rules]) hroutine rfl (List.mem_map_of_mem hindex)
  exact hclean rfl

/-- A tail call by identifier returns what the calling routine returns. -/
theorem tailCall_returns (hvalid : (verify module).isValid = true) {routine callee : Routine}
    (hroutine : .routine routine ∈ module.definitions) {i : Nat} {opcode : Opcode}
    {id : DefinitionId}
    (hcode : routine.code[i]? = some (.call opcode .tail (.definition id)))
    (hcallee : module.find? id = some (.routine callee)) :
    callee.returnType = routine.returnType := by
  by_cases hsame : callee.returnType = routine.returnType
  · exact hsame
  · have hclean := clean_instruction tailCall
      (.tailCallReturns callee.returnType routine.returnType) hvalid
      (by simp [rules]) hroutine hcode rfl
      (by simp [tailCall, Instruction.call?, hcallee, returnMismatch, hsame])
    exact absurd rfl hclean

/-- An indirect tail call expects what the calling routine returns. -/
theorem tailCallIndirect_returns (hvalid : (verify module).isValid = true) {routine : Routine}
    (hroutine : .routine routine ∈ module.definitions) {i : Nat} {opcode : Opcode}
    {signature : Signature}
    (hcode : routine.code[i]? = some (.call opcode .tail (.indirect signature))) :
    signature.returnType = routine.returnType := by
  by_cases hsame : signature.returnType = routine.returnType
  · exact hsame
  · have hclean := clean_instruction tailCall
      (.tailCallReturns signature.returnType routine.returnType) hvalid
      (by simp [rules]) hroutine hcode rfl
      (by simp [tailCall, Instruction.call?, returnMismatch, hsame])
    exact absurd rfl hclean

/-- What a tail call reaches returns what the calling routine returns. -/
theorem returnType_of_tailCall (hvalid : (verify module).isValid = true)
    {routine callee : Routine} (hroutine : .routine routine ∈ module.definitions) {i : Nat}
    {opcode : Opcode} {target : CallTarget}
    (hcode : routine.code[i]? = some (.call opcode .tail target))
    (hreaches : target.Reaches module (.routine callee)) :
    callee.returnType = routine.returnType := by
  cases target with
  | definition id => exact tailCall_returns hvalid hroutine hcode hreaches
  | indirect expected =>
    have hsignature : callee.signature = expected := hreaches
    have hexpected := tailCallIndirect_returns hvalid hroutine hcode
    rw [← hsignature] at hexpected
    exact hexpected

/-! ## Operands -/

/-- The parameters of an accepted module can be stored. -/
theorem storable_parameters (hvalid : (verify module).isValid = true) {definition : Definition}
    (hdefinition : definition ∈ module.definitions) : .void ∉ definition.parameters := by
  intro hvoid
  have hclean := clean_definition typeValidity .voidParameter hvalid (by simp [rules])
    hdefinition rfl (by simp [typeValidity, hvoid])
  exact hclean rfl

variable {routine : Routine} {i : Nat} {instruction : Instruction}

/-- No instruction of an accepted module names the type void. -/
theorem storable_operands (hvalid : (verify module).isValid = true)
    (hroutine : .routine routine ∈ module.definitions)
    (hcode : routine.code[i]? = some instruction) : .void ∉ instruction.dataTypes := by
  intro hvoid
  have hlooks : typeValidity.looksAt (.instruction i instruction) = true := by
    have hsome : instruction.dataTypes ≠ [] := List.ne_nil_of_mem hvoid
    simpa [typeValidity, Rule.looksAt, Subscription.accepts, OperandFilter.accepts] using hsome
  have hclean := clean_instruction typeValidity (.voidOperand instruction.opcode) hvalid
    (by simp [rules]) hroutine hcode hlooks (by simp [typeValidity, hvoid])
  exact hclean rfl

/-- The arguments that an accepted module names exist. -/
theorem argument_lt (hvalid : (verify module).isValid = true)
    (hroutine : .routine routine ∈ module.definitions)
    (hcode : routine.code[i]? = some instruction) {index : ArgumentIndex}
    (hnamed : instruction.operand? = some (.argument index) ∨
      instruction.operand? = some (.argumentAddress index)) :
    index.toNat < routine.parameters.length := by
  by_contra hmissing
  have hbound : routine.parameters.length ≤ index.toNat := Nat.not_lt.mp hmissing
  have hclean := clean_instruction argumentBounds
    (.missingArgument index routine.parameters.length) hvalid (by simp [rules]) hroutine hcode
    (by rcases hnamed with hnamed | hnamed <;>
      simp [argumentBounds, Rule.looksAt, Subscription.accepts, OperandFilter.accepts, hnamed])
    (by rcases hnamed with hnamed | hnamed <;> simp [argumentBounds, hnamed, hbound])
  exact hclean rfl

/-- The locals that an accepted module names exist. -/
theorem local_lt (hvalid : (verify module).isValid = true)
    (hroutine : .routine routine ∈ module.definitions)
    (hcode : routine.code[i]? = some instruction) {index : LocalIndex}
    (hnamed : instruction.operand? = some (.localVar index) ∨
      instruction.operand? = some (.localAddress index)) :
    index.toNat < routine.locals.size := by
  by_contra hmissing
  have hbound : routine.locals.size ≤ index.toNat := Nat.not_lt.mp hmissing
  have hclean := clean_instruction localBounds
    (.missingLocal index routine.locals.size) hvalid (by simp [rules]) hroutine hcode
    (by rcases hnamed with hnamed | hnamed <;>
      simp [localBounds, Rule.looksAt, Subscription.accepts, OperandFilter.accepts, hnamed])
    (by rcases hnamed with hnamed | hnamed <;> simp [localBounds, hnamed, hbound])
  exact hclean rfl

/-! ## Labels and definitions -/

/-- A label at or past the end of a routine is found. -/
theorem mem_labelsPastEnd {size : Nat} {positions : List UInt32} {j : Nat} {position : UInt32}
    (hposition : positions[j]? = some position) (hpast : size ≤ position.toNat) (label : Nat) :
    .labelPastEnd (label + j) position ∈ labelsPastEnd size label positions := by
  induction positions generalizing label j with
  | nil => simp at hposition
  | cons first rest ih =>
    unfold labelsPastEnd
    cases j with
    | zero =>
      have hfirst : first = position := by simpa using hposition
      simp [hfirst, hpast]
    | succ j =>
      have hrest := ih (by simpa using hposition) (label + 1)
      rw [Nat.add_assoc, Nat.add_comm 1 j] at hrest
      split
      · exact List.mem_cons_of_mem _ hrest
      · exact hrest

/-- The labels that an accepted module names lie inside their routine. -/
theorem exists_target (hvalid : (verify module).isValid = true)
    (hroutine : .routine routine ∈ module.definitions)
    (hcode : routine.code[i]? = some instruction) {label : Label}
    (hnamed : instruction.label? = some label) :
    ∃ position, routine.target? label = some position ∧ position < routine.code.size := by
  cases htarget : routine.target? label with
  | none =>
    have hclean := clean_instruction jumpTargets (.missingLabel label) hvalid (by simp [rules])
      hroutine hcode
      (by simp [jumpTargets, Rule.looksAt, Subscription.accepts, OperandFilter.accepts, hnamed])
      (by simp [jumpTargets, hnamed, htarget])
    exact absurd rfl hclean
  | some position =>
    refine ⟨position, rfl, ?_⟩
    by_contra hpast
    obtain ⟨found, hfound, rfl⟩ := Option.map_eq_some_iff.mp htarget
    have hlisted : routine.labels.toList[label.toNat]? = some found := by
      rw [Array.getElem?_toList]
      exact hfound
    have hpastEnd := mem_labelsPastEnd hlisted (Nat.not_lt.mp hpast) 0
    have hclean := clean_definition routineStructure _ hvalid (by simp [rules]) hroutine rfl
      (List.mem_append_right _ hpastEnd)
    exact hclean rfl

/-- The functions whose addresses an accepted module takes exist. -/
theorem exists_function (hvalid : (verify module).isValid = true)
    (hroutine : .routine routine ∈ module.definitions)
    (hcode : routine.code[i]? = some instruction) {id : DefinitionId}
    (hnamed : instruction.operand? = some (.routine id)) : module.find? id ≠ none := by
  intro hmissing
  cases instruction with
  | stack opcode operand =>
    cases hnamed
    have hclean := clean_instruction callTargets (.missingDefinition id) hvalid
      (by simp [rules]) hroutine hcode rfl (by simp [callTargets, missingDefinition, hmissing])
    exact hclean rfl
  | _ => cases hnamed

/-- The definitions that an accepted module calls exist. -/
theorem exists_callee (hvalid : (verify module).isValid = true)
    (hroutine : .routine routine ∈ module.definitions)
    (hcode : routine.code[i]? = some instruction) {id : DefinitionId}
    (hnamed : instruction.callee? = some id) : module.find? id ≠ none := by
  intro hmissing
  cases instruction with
  | call opcode mode target =>
    cases target with
    | definition other =>
      cases hnamed
      have hclean := clean_instruction callTargets (.missingDefinition id) hvalid
        (by simp [rules]) hroutine hcode rfl (by simp [callTargets, missingDefinition, hmissing])
      exact hclean rfl
    | indirect expected => cases hnamed
  | _ => cases hnamed

end Nodes

end Verify

end StackCode
