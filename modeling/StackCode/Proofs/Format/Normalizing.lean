import StackCode.Proofs.Format.Capacity
import StackCode.Proofs.Format.Layout

/-!
# Normal forms of binary modules

Several byte strings stand for one module.  The one that is written for the module is their
normal form: its data section holds every string once and its constants have no bits above
their width.  What can be read keeps to all limits of the format, so it has a normal form
unless its strings, which may overlap in the data section that was read, are too long when
they stand one after another.

Main definitions:

- `normalize`: the normal form of a byte string.

Main results:

- Theorems `InstructionLayout.fits`, `DefinitionLayout.fits`: what is laid out can be
  written.
- Theorems `InstructionLayout.length_eq`, `DefinitionLayout.length_eq`: what is laid out is as
  long as what is written.
- Theorem `ModuleLayout.canonical`: identifiers, resources and constants.
- Theorem `decoded_normalizes`: what can be read has a normal form.
-/

namespace StackCode.Format

open Reader

/-! ## Sequences -/

namespace Reader

variable {α : Type} {layout : List UInt8 → α → Prop} {bytes : List UInt8} {items : List α}

theorem Each.length_eq (hitems : Each layout bytes items) {size : α → Nat}
    (hsize : ∀ {bytes item}, layout bytes item → bytes.length = size item) :
    bytes.length = (items.map size).sum := by
  induction hitems with
  | nil => rfl
  | cons hfirst hitems ih =>
    rw [List.length_append, hsize hfirst, ih, List.map_cons, List.sum_cons]

theorem Each.forall_mem (hitems : Each layout bytes items) {holds : α → Prop}
    (hholds : ∀ {bytes item}, layout bytes item → holds item) : ∀ item ∈ items, holds item := by
  induction hitems with
  | nil => simp
  | cons hfirst hitems ih => exact List.forall_mem_cons.mpr ⟨hholds hfirst, ih⟩

variable {width : Nat}

theorem Counted.length_lt (hitems : Counted width layout bytes items) :
    items.length < 256 ^ width := by
  cases hitems with
  | intro hfits _ => exact hfits

theorem Counted.length_eq (hitems : Counted width layout bytes items) {size : α → Nat}
    (hsize : ∀ {bytes item}, layout bytes item → bytes.length = size item) :
    bytes.length = width + (items.map size).sum := by
  cases hitems with
  | intro _ hitems =>
    rw [List.length_append, LittleEndian.length_encode, hitems.length_eq hsize]

theorem Counted.forall_mem (hitems : Counted width layout bytes items) {holds : α → Prop}
    (hholds : ∀ {bytes item}, layout bytes item → holds item) : ∀ item ∈ items, holds item := by
  cases hitems with
  | intro _ hitems => exact hitems.forall_mem hholds

/-- Items that all have one size. -/
theorem Counted.length_eq_mul (hitems : Counted width layout bytes items) {size : Nat}
    (hsize : ∀ {bytes item}, layout bytes item → bytes.length = size) :
    bytes.length = width + size * items.length := by
  rw [hitems.length_eq hsize, List.map_const', List.sum_replicate_nat, Nat.mul_comm]

end Reader

theorem TypeLayout.length_eq {bytes : List UInt8} {type : DataType}
    (htype : TypeLayout bytes type) : bytes.length = 1 :=
  congrArg List.length htype

/-! ## Instructions -/

section Instructions

variable {bytes : List UInt8}

theorem OperandLayout.length_eq {operand : Operand} (hoperand : OperandLayout bytes operand) :
    bytes.length = operand.encodedSize := by
  cases hoperand with
  | intro hpayload =>
    cases operand with
    | const value =>
      rcases hpayload with ⟨raw, rfl, -⟩
      simp [Operand.encodedSize]
    | _ =>
      simp only [PayloadLayout] at hpayload
      simp [hpayload, Operand.encodedSize]

/-- A constant that was laid out has lost the bits above its width. -/
theorem OperandLayout.masked {operand : Operand} (hoperand : OperandLayout bytes operand) :
    operand.Masked := by
  cases hoperand with
  | intro hpayload =>
    cases operand with
    | const value =>
      rcases hpayload with ⟨raw, -, hraw⟩
      rw [← Value.toNat_and_mask, UInt64.toNat_inj] at hraw
      change value.raw &&& value.type.mask = value.raw
      rw [hraw, UInt64.and_assoc, UInt64.and_self]
    | _ => trivial

theorem TargetLayout.length_eq {target : CallTarget} (htarget : TargetLayout bytes target) :
    bytes.length = target.encodedSize := by
  cases target with
  | definition id =>
    simp only [TargetLayout] at htarget
    simp [htarget, CallTarget.encodedSize]
  | indirect signature =>
    rcases htarget with ⟨_, rfl, parameters, rfl, hparameters⟩
    have hlength := hparameters.length_eq_mul TypeLayout.length_eq
    simp only [List.length_cons, List.length_append, List.length_nil, hlength,
      CallTarget.encodedSize]
    omega

theorem TargetLayout.parameters_le {signature : Signature}
    (htarget : TargetLayout bytes (.indirect signature)) : signature.parameters.length ≤ 255 := by
  rcases htarget with ⟨_, -, parameters, -, hparameters⟩
  have hlt := hparameters.length_lt
  omega

variable {instruction : Instruction}

/-- What is laid out as an instruction is as long as what is written for it. -/
theorem InstructionLayout.length_eq (hlayout : InstructionLayout bytes instruction) :
    bytes.length = instruction.encodedSize := by
  rcases hlayout with ⟨-, -, hoperands⟩
  cases instruction with
  | stack opcode operand =>
    rw [List.length_cons, OperandLayout.length_eq hoperands, Instruction.encodedSize, Nat.add_comm]
  | call opcode mode target =>
    rcases hoperands with ⟨_, rfl, htarget⟩
    simp only [List.length_cons, htarget.length_eq, Instruction.encodedSize]
    omega
  | _ =>
    simp only [OperandsLayout] at hoperands
    simp [hoperands, Instruction.encodedSize]

theorem InstructionLayout.fits (hlayout : InstructionLayout bytes instruction) :
    instruction.Fits := by
  rcases hlayout with ⟨hshape, hpop, hoperands⟩
  refine ⟨instruction.isWellFormed_iff.mpr ⟨hshape, hpop⟩, ?_⟩
  intro signature hsignature
  unfold Instruction.signature? at hsignature
  split at hsignature
  · cases hsignature
    rcases hoperands with ⟨_, -, htarget⟩
    exact htarget.parameters_le
  · cases hsignature

theorem InstructionLayout.masked (hlayout : InstructionLayout bytes instruction) :
    instruction.Masked := by
  rcases hlayout with ⟨-, -, hoperands⟩
  intro operand hoperand
  cases instruction with
  | stack opcode found =>
    cases hoperand
    exact OperandLayout.masked hoperands
  | _ => cases hoperand

end Instructions

/-! ## Definitions and resources -/

section Definitions

variable {view : PoolView} {bytes : List UInt8} {definition : Definition}

theorem StringLayout.length_eq {text : String} (htext : StringLayout view bytes text) :
    bytes.length = 4 := by
  rcases htext with ⟨index, rfl, -⟩
  exact length_word32 index

/-- What is laid out as a definition is as long as what is written for it. -/
theorem DefinitionLayout.length_eq (hlayout : DefinitionLayout view bytes definition) :
    bytes.length = definition.encodedSize := by
  cases hlayout with
  | routine hname hbody =>
    rcases hbody with ⟨parameters, locals, labels, code, rfl, hparameters, hlocals, hlabels, hcode⟩
    have hlabelsLength := hlabels.length_eq_mul fun hlabel => hlabel ▸ length_word32 _
    simp only [List.length_cons, List.length_append, length_word32, hname.length_eq,
      hparameters.length_eq_mul TypeLayout.length_eq, hlocals.length_eq_mul TypeLayout.length_eq,
      hlabelsLength, hcode.length_eq InstructionLayout.length_eq, Array.length_toList,
      Definition.encodedSize]
    omega
  | external hname hbody =>
    rcases hbody with ⟨library, parameters, rfl, hlibrary, hparameters⟩
    simp only [List.length_cons, List.length_append, length_word32, hname.length_eq,
      hlibrary.length_eq, hparameters.length_eq_mul TypeLayout.length_eq, Definition.encodedSize]
    omega

theorem DefinitionLayout.fits (hlayout : DefinitionLayout view bytes definition) :
    definition.Fits := by
  cases hlayout with
  | routine hname hbody =>
    rcases hbody with ⟨parameters, locals, labels, code, -, hparameters, hlocals, -, hcode⟩
    have hparameters := hparameters.length_lt
    have hlocals := hlocals.length_lt
    rw [Array.length_toList] at hlocals
    exact ⟨by omega, by omega, hcode.forall_mem InstructionLayout.fits⟩
  | external hname hbody =>
    rcases hbody with ⟨library, parameters, -, -, hparameters⟩
    exact Nat.le_of_lt_succ hparameters.length_lt

theorem DefinitionLayout.masked (hlayout : DefinitionLayout view bytes definition) :
    ∀ routine ∈ definition.routine?, ∀ instruction ∈ routine.code.toList, instruction.Masked := by
  intro routine hroutine
  cases hlayout with
  | routine hname hbody =>
    cases hroutine
    rcases hbody with ⟨parameters, locals, labels, code, -, -, -, -, hcode⟩
    exact hcode.forall_mem InstructionLayout.masked
  | external hname hbody => cases hroutine

theorem ResourceLayout.length_eq {resource : Resource}
    (hlayout : ResourceLayout view bytes resource) : bytes.length = 5 := by
  rcases hlayout with ⟨index, rfl, -⟩
  simp

end Definitions

/-! ## Modules -/

namespace ModuleLayout

variable {bytes : List UInt8} {module : Module}

/-- A module that is laid out has distinct identifiers, distinct resources and constants
without bits above their width. -/
theorem canonical (hlayout : ModuleLayout bytes module) : module.Canonical := by
  rcases hlayout with ⟨-, -, ⟨-, -, hresources⟩, ⟨-, hcode⟩, -, hids⟩
  refine ⟨hids, hresources, ?_⟩
  intro routine hroutine
  rcases List.mem_filterMap.mp hroutine with ⟨definition, hdefinition, hsame⟩
  exact hcode.forall_mem DefinitionLayout.masked definition hdefinition routine hsame

theorem fits (hlayout : ModuleLayout bytes module) :
    ∀ definition ∈ module.definitions, definition.Fits := by
  rcases hlayout with ⟨-, -, -, ⟨-, hcode⟩, -, -⟩
  exact hcode.forall_mem DefinitionLayout.fits

/-- The section of resources is as long as the one that was read. -/
theorem resourcesSize_lt (hlayout : ModuleLayout bytes module) : module.resourcesSize < 2 ^ 32 := by
  rcases hlayout with ⟨-, -, ⟨hfits, hresources, -⟩, -, -, -⟩
  rw [hresources.length_eq_mul ResourceLayout.length_eq] at hfits
  exact hfits

/-- The code section is as long as the one that was read. -/
theorem codeSize_lt (hlayout : ModuleLayout bytes module) : module.codeSize < 2 ^ 32 := by
  rcases hlayout with ⟨-, -, -, ⟨hfits, hcode⟩, -, -⟩
  rw [hcode.length_eq DefinitionLayout.length_eq] at hfits
  exact hfits

end ModuleLayout

/-- The bytes that are written for the module that can be read. -/
def normalize (bytes : List UInt8) : Option (List UInt8) := do
  let module ← (decode bytes).toOption
  (encode module).toOption

theorem normalize_eq {bytes : List UInt8} {module : Module} (hdecoded : decode bytes = .ok module) :
    normalize bytes = (encode module).toOption := by
  unfold normalize
  rw [hdecoded]
  rfl

/-- What can be read keeps to the limits of the format.  Its module can be written unless the
data section becomes too long, and what is written for it is read as the same module and is
its own normal form. -/
theorem decoded_normalizes {bytes : List UInt8} {module : Module}
    (hdecoded : decode bytes = .ok module) :
    module.Canonical ∧ (∀ definition ∈ module.definitions, definition.Fits) ∧
      ((∃ written, encode module = .ok written) ↔ module.dataSize < 2 ^ 32) ∧
      ∀ written, encode module = .ok written →
        decode written = .ok module ∧ normalize bytes = some written ∧
          normalize written = some written := by
  have hlayout := moduleLayout_of_decode hdecoded
  refine ⟨hlayout.canonical, hlayout.fits, ?_, ?_⟩
  · constructor
    · rintro ⟨written, hencoded⟩
      exact (fits_of_encode hencoded).2.1
    · intro hdataSize
      exact exists_encode hlayout.fits hdataSize hlayout.resourcesSize_lt hlayout.codeSize_lt
  · intro written hencoded
    have hreread := (encode_eq_ok_iff.mp hencoded).decode_eq hlayout.canonical
    refine ⟨hreread, ?_, ?_⟩
    · rw [normalize_eq hdecoded, hencoded]
      rfl
    · rw [normalize_eq hreread, hencoded]
      rfl

/-- A module of a later minor version.  Its name and its resource are parts of the name of
its routine, a byte of the data section belongs to no string, and the constant that it pushes
has a bit above its width. -/
def untidy : List UInt8 :=
  [0x62, 0x72, 0, 0] ++
    [0, 12, 0, 0, 0, 1, 0, 0, 0, 7, 0, 0, 0, 2, 0, 0, 0] ++
    [1, 37, 0, 0, 0, 3, 0, 0, 0, 0, 0, 0, 0, 4, 0, 0, 0, 1, 0, 0, 0, 2, 0, 0, 0,
      0, 0, 0, 0, 3, 0, 0, 0, 5, 0, 0, 0, 0x6D, 0x61, 0x69, 0x6E, 0xFF] ++
    [2, 9, 0, 0, 0, 1, 0, 0, 0, 0, 1, 0, 0, 0] ++
    [3, 48, 0, 0, 0, 1, 0, 0, 0, 0xF0, 5, 0, 0, 0, 0, 0, 0, 0, 0xFF, 0, 0, 0, 0, 0, 0, 0,
      3, 0, 0, 0, 1, 0, 8, 42, 1, 0, 0, 0, 0, 0, 0, 2, 0, 8, 0, 0, 0, 0, 0, 0, 0, 0, 6]

/-- The module that the bytes stand for. -/
def tidied : Module :=
  ⟨"mai", [.routine ⟨5, "main", .void, [], #[], #[],
    #[.pushConst ⟨.u8, 42⟩, .discard .u8, .simple .ret]⟩], ⟨[⟨.bytes, [0x61, 0x69]⟩]⟩⟩

/-- The module is read and written, in other bytes than those it was read from. -/
theorem decoded_normalizes_untidy :
    decode untidy = .ok tidied ∧ tidied.Canonical ∧
      (∀ definition ∈ tidied.definitions, definition.Fits) ∧
      ∃ written, written ≠ untidy ∧ encode tidied = .ok written ∧ decode written = .ok tidied ∧
        normalize untidy = some written ∧ normalize written = some written := by
  have hdecoded : decode untidy = .ok tidied := by decide +kernel
  have hother : encode tidied ≠ .ok untidy := by decide +kernel
  rcases decoded_normalizes hdecoded with ⟨hcanonical, hfits, hwritable, hnormal⟩
  rcases hwritable.mpr (by decide +kernel) with ⟨written, hencoded⟩
  refine ⟨hdecoded, hcanonical, hfits, written, ?_, hencoded, hnormal written hencoded⟩
  rintro rfl
  exact hother hencoded

end StackCode.Format
