import StackCode.Error
import StackCode.Proofs.Building.Operations
import StackCode.Proofs.Format.Capacity

/-!
# Writing exactly what fits

A module is written if and only if its definitions and its sections keep to the limits of the
format.  A builder keeps most of these limits itself: only the instructions given to it and
the sizes of the sections are left to check.

Main definitions:

- `Module.SectionsFit`, `Module.Fits`: the limits of a whole module.
- `Definition.CodeFits`: the limits that a builder does not check.

Main results:

- Theorem `Format.exists_encode_iff`: what fits is written, and nothing else.
- Theorem `Format.length_of_encode`: how long the bytes of a module are.
- Theorem `fits_of_emitted`: what a builder keeps to.
- Theorem `Format.encode_exactly`: all modules, and those of builders.
-/

namespace StackCode

/-- Four bytes hold the length of each section. -/
structure Module.SectionsFit (module : Module) : Prop where
  data : module.dataSize < 2 ^ 32
  resources : module.resourcesSize < 2 ^ 32
  code : module.codeSize < 2 ^ 32

/-- The format has room for every definition and for every section. -/
structure Module.Fits (module : Module) : Prop where
  definitions : ∀ definition ∈ module.definitions, definition.Fits
  sections : module.SectionsFit

/-! ## Definitions out of a builder -/

/-- Every instruction of a definition fits. -/
def Definition.CodeFits (definition : Definition) : Prop :=
  ∀ routine ∈ definition.routine?, ∀ instruction ∈ routine.code.toList, instruction.Fits

theorem Definition.Limited.fits {definition : Definition} (hlimited : definition.Limited)
    (hcode : definition.CodeFits) : definition.Fits := by
  cases definition with
  | routine routine => exact ⟨hlimited.parameters_le, hlimited.locals_le, hcode routine rfl⟩
  | external function => exact hlimited.parameters_le

/-- A routine has no other instructions than those emitted. -/
theorem maintained_codeFits {operations : List Operation}
    (hemitted : ∀ id instruction, .changeRoutine id (.emit instruction) ∈ operations →
      instruction.Fits) : Maintained Definition.CodeFits operations where
  routine next title := by
    simp [Definition.CodeFits, Definition.routine?, Routine.Draft.finish, Routine.Draft.new,
      Code.empty]
  external next title := by simp [Definition.CodeFits, Definition.routine?]
  changeRoutine := by
    intro id change hmem draft hcode performed hperformed instruction hinstruction
    cases hperformed
    have hold := hcode draft.finish rfl instruction
    simp only [Routine.Draft.finish] at hold hinstruction
    rw [draft.instructions_perform, List.mem_append] at hinstruction
    rcases hinstruction with hkept | hnew
    · exact hold hkept
    · cases change with
      | emit new =>
        rw [RoutineChange.emitted, List.mem_singleton] at hnew
        rw [hnew]
        exact hemitted id new hmem
      | _ => cases hnew
  changeExternal := by simp [Definition.CodeFits, Definition.routine?]

/-- The format has room for every definition of a builder that was given instructions which
fit. -/
theorem fits_of_emitted (name : String) (start : DefinitionId) {operations : List Operation}
    (hemitted : ∀ id instruction, .changeRoutine id (.emit instruction) ∈ operations →
      instruction.Fits) :
    ∀ definition ∈ ((Builder.new name start).run operations).build.definitions,
      definition.Fits := by
  intro definition hdefinition
  have hlimited := (maintained_limited operations).run name start definition hdefinition
  exact hlimited.fits ((maintained_codeFits hemitted).run name start definition hdefinition)

namespace Format

/-! ## Modules -/

variable {module : Module}

theorem exists_encode_iff : (∃ bytes, encode module = .ok bytes) ↔ module.Fits := by
  constructor
  · rintro ⟨bytes, hencoded⟩
    rcases fits_of_encode hencoded with ⟨hdefinitions, hdata, hresources, hcode⟩
    exact ⟨hdefinitions, hdata, hresources, hcode⟩
  · rintro ⟨hdefinitions, hdata, hresources, hcode⟩
    exact exists_encode hdefinitions hdata hresources hcode

/-- What does not fit is refused. -/
theorem exists_encode_fault (hrefused : ¬module.Fits) : ∃ fault, encode module = .error fault := by
  cases hencode : encode module with
  | ok bytes => exact absurd (exists_encode_iff.mp ⟨bytes, hencode⟩) hrefused
  | error fault => exact ⟨fault, rfl⟩

/-- A module has a signature and four sections, each after its kind and its length; the
header has a fixed size. -/
theorem length_of_encode {bytes : List UInt8} (hencoded : encode module = .ok bytes) :
    bytes.length = 4 + (5 + 12) + (5 + module.dataSize) + (5 + module.resourcesSize) +
      (5 + module.codeSize) := by
  rcases encode_eq_ok_iff.mp hencoded with ⟨hname, hresourceCount, hresources, hdefinitionCount,
    hdefinitions, hstrings, hheader, hdata, hresourceSection, hcode⟩
  rcases parts_of_encode hname hresources hdefinitions hstrings with
    ⟨-, hstringsLength, hresourcesLength, hdefinitionsLength⟩
  have hheaderLength := ((encodeSection_sized _ _).of_ok hheader).2
  have hdataLength := ((encodeSection_sized _ _).of_ok hdata).2
  have hresourceLength := ((encodeSection_sized _ _).of_ok hresourceSection).2
  have hcodeLength := ((encodeSection_sized _ _).of_ok hcode).2
  have hresourceCountLength := ((encodeCount_sized _).of_ok hresourceCount).2
  have hdefinitionCountLength := ((encodeCount_sized _).of_ok hdefinitionCount).2
  simp only [List.length_append, length_word32] at hheaderLength hresourceLength hcodeLength ⊢
  simp only [signature, List.length_cons, List.length_nil]
  omega

/-- A module is written if and only if it fits, and then takes as many bytes as its fields;
otherwise there is an error of serialization.  What a builder makes of instructions that fit is
written up to the size of the sections. -/
theorem encode_exactly (module : Module) :
    ((∃ bytes, encode module = .ok bytes) ↔ module.Fits) ∧
    (∀ bytes, encode module = .ok bytes →
      bytes.length = 4 + (5 + 12) + (5 + module.dataSize) + (5 + module.resourcesSize) +
        (5 + module.codeSize)) ∧
    (¬module.Fits →
      ∃ fault, encode module = .error fault ∧ (Error.encode fault).kind = "Serialization") ∧
    ∀ name start operations, module = ((Builder.new name start).run operations).build →
      (∀ id instruction, .changeRoutine id (.emit instruction) ∈ operations →
        instruction.Fits) →
      ((∃ bytes, encode module = .ok bytes) ↔ module.SectionsFit) := by
  refine ⟨exists_encode_iff, fun bytes hencoded => length_of_encode hencoded, ?_, ?_⟩
  · intro hrefused
    rcases exists_encode_fault hrefused with ⟨fault, hfault⟩
    exact ⟨fault, hfault, rfl⟩
  · intro name start operations hbuilt hemitted
    have hdefinitions : ∀ definition ∈ module.definitions, definition.Fits :=
      hbuilt ▸ fits_of_emitted name start hemitted
    rw [exists_encode_iff]
    exact ⟨fun hfits => hfits.sections, fun hsections => ⟨hdefinitions, hsections⟩⟩

/-- A routine that returns at once. -/
def returning : List Operation :=
  [.addRoutine "main", .changeRoutine 0 (.emit (.simple .ret)), .close 0]

/-- The routine is written; an external function with 256 parameters is not. -/
theorem encode_exactly_returning :
    (∃ bytes, encode ((Builder.new "m" 0).run returning).build = .ok bytes) ∧
      ∃ fault, encode ⟨"m", [.external ⟨0, "f", .void, List.replicate 256 .i32, "c", .bridge⟩],
        .empty⟩ = .error fault ∧ (Error.encode fault).kind = "Serialization" := by
  constructor
  · have hemitted : ∀ id instruction, .changeRoutine id (.emit instruction) ∈ returning →
        instruction.Fits := by
      intro id instruction hmem
      simp only [returning, List.mem_cons, List.not_mem_nil, reduceCtorEq, false_or, or_false,
        Operation.changeRoutine.injEq, RoutineChange.emit.injEq] at hmem
      rw [hmem.2]
      exact ⟨rfl, by simp [Instruction.signature?]⟩
    have hwritten := (encode_exactly ((Builder.new "m" 0).run returning).build).2.2.2
    exact (hwritten "m" 0 returning rfl hemitted).mpr
      ⟨by decide +kernel, by decide +kernel, by decide +kernel⟩
  · apply (encode_exactly _).2.2.1
    intro hfits
    have hfew : (List.replicate 256 DataType.i32).length ≤ 255 :=
      hfits.definitions _ (List.mem_singleton_self _)
    rw [List.length_replicate] at hfew
    omega

end Format

end StackCode
