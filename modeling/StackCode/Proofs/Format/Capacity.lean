import Mathlib.Algebra.BigOperators.Group.Finset.Basic
import StackCode.Proofs.Format.RoundTrip

/-!
# Which modules can be written

The format has a byte for the number of parameters, two bytes for the number of local
variables and four bytes for the length of a section.  A module that keeps to these limits
and has well-formed instructions only is written, and no other one is.  How long a section
becomes depends on the module alone: on the widths of its fields and, for the data section,
on the distinct strings that the module refers to.

Main definitions:

- `Instruction.Fits`, `Definition.Fits`: what the format has room for.
- `Instruction.encodedSize`, `Definition.encodedSize`: how many bytes are written.
- `Module.dataSize`, `Module.resourcesSize`, `Module.codeSize`: the sections.
- `Format.Sized`, `Format.Writes`: when something is written and how long it becomes.

Main results:

- Theorems `encodeInstruction_sized`, `encodeDefinitions_writes`, `encodeResources_writes`:
  the parts of a module.
- Theorem `Pool.encodedSize_adjoinAll`: the data section holds each string once.
- Theorems `fits_of_encode`, `exists_encode`: whole modules.
-/

namespace StackCode

/-! ## Limits of the format -/

/-- The signature that an indirect call expects. -/
def Instruction.signature? : Instruction → Option Signature
  | .call _ _ (.indirect signature) => some signature
  | _ => none

/-- A well-formed instruction whose signature has a number of parameters that fits a byte. -/
def Instruction.Fits (instruction : Instruction) : Prop :=
  instruction.isWellFormed = true ∧
    ∀ signature ∈ instruction.signature?, signature.parameters.length ≤ 255

/-- The numbers of parameters and of local variables fit one byte and two bytes, and every
instruction fits. -/
structure Routine.Fits (routine : Routine) : Prop where
  parameters : routine.parameters.length ≤ 255
  locals : routine.locals.size ≤ 65535
  code : ∀ instruction ∈ routine.code.toList, instruction.Fits

/-- The format has room for the definition. -/
def Definition.Fits : Definition → Prop
  | routine r => r.Fits
  | external f => f.parameters.length ≤ 255

/-! ## Sizes -/

/-- Number of bytes of an operand: its kind and what it names. -/
def Operand.encodedSize : Operand → Nat
  | .const _ => 1 + 1 + 8
  | .localVar _ | .localAddress _ => 1 + 2
  | .argument _ | .argumentAddress _ => 1 + 1
  | .resource _ | .routine _ => 1 + 4

/-- Number of bytes of the target of a call: its tag, and an identifier or a signature. -/
def CallTarget.encodedSize : CallTarget → Nat
  | .definition _ => 1 + 4
  | .indirect signature => 1 + 1 + (1 + signature.parameters.length) + 1

/-- Number of bytes of an instruction: its opcode and its operands. -/
def Instruction.encodedSize : Instruction → Nat
  | .simple _ => 1
  | .typed _ _ => 1 + 1
  | .convert _ _ _ | .conditional _ _ _ => 1 + 2
  | .branch _ _ => 1 + 4
  | .stack _ operand => 1 + operand.encodedSize
  | .call _ _ target => 1 + 1 + target.encodedSize

theorem Instruction.encodedSize_pos (instruction : Instruction) : 0 < instruction.encodedSize := by
  cases instruction <;> simp [encodedSize]

/-- Number of bytes of a definition: its marker, its identifier, its name and the rest of a
routine or of an external function. -/
def Definition.encodedSize : Definition → Nat
  | routine r => 1 + 4 + 4 + 1 + (1 + r.parameters.length) + (2 + r.locals.size) +
      (4 + 4 * r.labels.size) + (4 + (r.code.toList.map Instruction.encodedSize).sum)
  | external f => 1 + 4 + 4 + 4 + 1 + 1 + (1 + f.parameters.length)

theorem Definition.encodedSize_pos (definition : Definition) : 0 < definition.encodedSize := by
  cases definition <;> simp [encodedSize]

/-- The strings that a definition refers to. -/
def Definition.strings : Definition → List (List UInt8)
  | routine r => [Text.utf8 r.name]
  | external f => [Text.utf8 f.name, Text.utf8 f.library]

namespace Module

/-- The strings that a module refers to, in the order in which they are written. -/
def strings (module : Module) : List (List UInt8) :=
  Text.utf8 module.name ::
    (module.resources.entries.map Resource.bytes ++ module.definitions.flatMap Definition.strings)

/-- Number of bytes in the data section: two counts, and for each distinct string an offset,
a length and its bytes. -/
def dataSize (module : Module) : Nat :=
  4 + 4 + ∑ string ∈ module.strings.toFinset, (4 + 4 + string.length)

/-- Number of bytes in the section of resources: a count, and a kind and an index for each. -/
def resourcesSize (module : Module) : Nat := 4 + (1 + 4) * module.resources.size

/-- Number of bytes in the code section: a count, and the definitions. -/
def codeSize (module : Module) : Nat := 4 + (module.definitions.map Definition.encodedSize).sum

end Module

namespace Format

/-! ## Parts without strings -/

/-- What is written has a fixed size, and only what does not fit is refused. -/
inductive Sized {ε : Type} (fits : Prop) (size : Nat) : Except ε (List UInt8) → Prop
  | written {bytes : List UInt8} (hfits : fits) (hlength : bytes.length = size) :
      Sized fits size (.ok bytes)
  | refused {fault : ε} (hfits : ¬fits) : Sized fits size (.error fault)

namespace Sized

variable {ε : Type} {fits other : Prop} {size total : Nat} {outcome : Except ε (List UInt8)}

theorem of_ok (hsized : Sized fits size outcome) {bytes : List UInt8}
    (hwritten : outcome = .ok bytes) : fits ∧ bytes.length = size := by
  subst hwritten
  cases hsized with
  | written hfits hlength => exact ⟨hfits, hlength⟩

theorem exists_ok (hsized : Sized fits size outcome) (hfits : fits) :
    ∃ bytes, outcome = .ok bytes := by
  cases hsized with
  | written _ _ => exact ⟨_, rfl⟩
  | refused hrefused => exact absurd hfits hrefused

theorem congr (hsized : Sized fits size outcome) (hsame : fits ↔ other) (hsize : size = total) :
    Sized other total outcome := by
  subst hsize
  cases hsized with
  | written hfits hlength => exact .written (hsame.mp hfits) hlength
  | refused hfits => exact .refused (mt hsame.mpr hfits)

/-- What comes after bytes that are written may be refused on its own account. -/
theorem bind {next : List UInt8 → Except ε (List UInt8)} (hsized : Sized fits size outcome)
    (hnext : ∀ bytes, bytes.length = size → Sized other total (next bytes)) :
    Sized (fits ∧ other) total (outcome >>= next) := by
  cases hsized with
  | @written bytes hfits hlength => exact (hnext bytes hlength).congr (by simp [hfits]) rfl
  | refused hfits => exact .refused fun hboth => hfits hboth.1

/-- What is made of bytes that are written. -/
theorem map {view : List UInt8 → List UInt8} (hsized : Sized fits size outcome)
    (hview : ∀ bytes, bytes.length = size → (view bytes).length = total) :
    Sized fits total (outcome.map view) := by
  cases hsized with
  | @written bytes hfits hlength => exact .written hfits (hview bytes hlength)
  | refused hfits => exact .refused hfits

end Sized

section Sizes

@[simp]
theorem length_word16 (n : UInt16) : (word16 n).length = 2 := LittleEndian.length_encode 2 _

@[simp]
theorem length_word32 (n : UInt32) : (word32 n).length = 4 := LittleEndian.length_encode 4 _

@[simp]
theorem length_word64 (n : UInt64) : (word64 n).length = 8 := LittleEndian.length_encode 8 _

theorem encodeCount_sized (count : Nat) : Sized (count < 2 ^ 32) 4 (encodeCount count) := by
  unfold encodeCount
  split
  · rename_i hfits
    exact .written hfits (LittleEndian.length_encode 4 count)
  · rename_i hfits
    exact .refused hfits

theorem encodeParameters_sized (types : List DataType) :
    Sized (types.length ≤ 255) (1 + types.length) (encodeParameters types) := by
  unfold encodeParameters encodeParameters?
  by_cases hfits : types.length < 256
  · rw [if_pos hfits]
    apply Sized.written (by omega)
    rw [List.length_cons, List.length_map, Nat.add_comm]
  · rw [if_neg hfits]
    exact .refused (by omega)

theorem encodeLocals_sized (types : Array DataType) :
    Sized (types.size ≤ 65535) (2 + types.size) (encodeLocals types) := by
  unfold encodeLocals
  by_cases hfits : types.size < 0x10000
  · rw [if_pos hfits]
    apply Sized.written (by omega)
    rw [List.length_append, LittleEndian.length_encode, List.length_map, Array.length_toList]
  · rw [if_neg hfits]
    exact .refused (by omega)

theorem length_encodeOperand (operand : Operand) :
    (encodeOperand operand).length = operand.encodedSize := by
  cases operand <;> simp [encodeOperand, Operand.encodedSize]

theorem encodeTarget_sized (target : CallTarget) :
    Sized (∀ signature, target = .indirect signature → signature.parameters.length ≤ 255)
      target.encodedSize (encodeTarget target) := by
  cases target with
  | definition id => exact .written (by simp) (by simp [CallTarget.encodedSize])
  | indirect signature =>
    simp only [encodeTarget, encodeParameters?]
    by_cases hfits : signature.parameters.length < 256
    · rw [if_pos hfits]
      apply Sized.written
      · rintro _ ⟨⟩
        omega
      · simp only [List.length_cons, List.length_append, List.length_map, List.length_nil,
          CallTarget.encodedSize]
        omega
    · rw [if_neg hfits]
      apply Sized.refused
      intro hall
      have hle := hall signature rfl
      omega

theorem encodeOperands_sized (instruction : Instruction) :
    Sized (∀ signature ∈ instruction.signature?, signature.parameters.length ≤ 255)
      (instruction.encodedSize - 1) (encodeOperands instruction) := by
  cases instruction with
  | simple opcode => exact .written (by simp [Instruction.signature?]) rfl
  | typed opcode type => exact .written (by simp [Instruction.signature?]) rfl
  | convert opcode source target => exact .written (by simp [Instruction.signature?]) rfl
  | conditional opcode comparison type => exact .written (by simp [Instruction.signature?]) rfl
  | branch opcode label => exact .written (by simp [Instruction.signature?]) (length_word32 label)
  | stack opcode operand =>
    apply Sized.written (by simp [Instruction.signature?])
    rw [length_encodeOperand, Instruction.encodedSize, Nat.add_sub_cancel_left]
  | call opcode mode target =>
    have hsized : Sized _ (target.encodedSize + 1) (encodeOperands (.call opcode mode target)) :=
      (encodeTarget_sized target).map fun bytes hlength => by rw [List.length_cons, hlength]
    apply hsized.congr
    · cases target <;> simp [Instruction.signature?]
    · rw [Instruction.encodedSize]
      omega

/-- An instruction is written exactly when it fits. -/
theorem encodeInstruction_sized (instruction : Instruction) :
    Sized instruction.Fits instruction.encodedSize (encodeInstruction instruction) := by
  unfold encodeInstruction Instruction.Fits
  by_cases hformed : instruction.isWellFormed = true
  · rw [if_pos hformed]
    apply Sized.map ((encodeOperands_sized instruction).congr (by simp [hformed]) rfl)
    intro bytes hlength
    have hpos := instruction.encodedSize_pos
    rw [List.length_cons, hlength]
    omega
  · rw [if_neg hformed]
    exact .refused fun hfits => hformed hfits.1

/-- Code is written after the bytes before it exactly when all of its instructions fit. -/
theorem encodeCode_sized (name : String) (index : Nat) (reversed : List UInt8)
    (code : List Instruction) :
    Sized (∀ instruction ∈ code, instruction.Fits)
      (reversed.length + (code.map Instruction.encodedSize).sum)
      (encodeCode name index reversed code) := by
  induction code generalizing index reversed with
  | nil => exact .written (by simp) (by simp)
  | cons instruction code ih =>
    have hfirst := encodeInstruction_sized instruction
    unfold encodeCode
    cases hencoded : encodeInstruction instruction with
    | error cause =>
      rw [hencoded] at hfirst
      cases hfirst with
      | refused hfits => exact .refused fun hall => hfits (hall instruction List.mem_cons_self)
    | ok bytes =>
      rcases hfirst.of_ok hencoded with ⟨hfits, hlength⟩
      apply (ih (index + 1) (bytes.reverse ++ reversed)).congr
      · simp [hfits]
      · simp only [List.length_append, List.length_reverse, hlength, List.map_cons, List.sum_cons]
        omega

/-- A section is written exactly when its length fits four bytes. -/
theorem encodeSection_sized (kind : Section) (contents : List UInt8) :
    Sized (contents.length < 2 ^ 32) (1 + 4 + contents.length) (encodeSection kind contents) := by
  apply (encodeCount_sized contents.length).map
  intro size hlength
  rw [List.length_cons, List.length_append, hlength]
  omega

end Sizes

/-! ## Pools -/

namespace Pool

/-- Number of bytes in the data section that holds the strings. -/
def encodedSize (strings : List (List UInt8)) : Nat :=
  4 + 4 + (strings.map fun string => 4 + 4 + string.length).sum

theorem encodedSize_eq (strings : List (List UInt8)) :
    encodedSize strings = 4 + 4 + (8 * strings.length + strings.flatten.length) := by
  rw [encodedSize, List.sum_map_add, List.length_flatten]
  simp [Nat.mul_comm]

theorem length_encodeEntry (entry : UInt32 × UInt32) : (encodeEntry entry).length = 4 + 4 := by
  rw [encodeEntry, List.length_append, LittleEndian.length_encode, LittleEndian.length_encode]

/-- The data section has room for a pool whose bytes can be counted. -/
theorem encode_sized {pool : Pool} {strings : List (List UInt8)} (hpool : pool.Represents strings) :
    Sized (strings.flatten.length < 2 ^ 32) (encodedSize strings) pool.encode := by
  have hwritten : Sized (pool.entries.size < 2 ^ 32 ∧ pool.blob.size < 2 ^ 32)
      (encodedSize strings) pool.encode := by
    apply (encodeCount_sized pool.entries.size).bind
    intro count hcount
    apply (encodeCount_sized pool.blob.size).map
    intro size hsize
    simp only [List.length_append, List.length_flatMap, length_encodeEntry, List.map_const',
      List.sum_replicate_nat, Array.length_toList, hcount, hsize, hpool.size_entries,
      hpool.size_blob, encodedSize_eq]
    omega
  refine hwritten.congr ?_ rfl
  rw [hpool.size_entries, hpool.size_blob]
  exact and_iff_right hpool.length_lt

variable {known : List (List UInt8)}

theorem length_le_adjoin (known : List (List UInt8)) (bytes : List UInt8) :
    known.flatten.length ≤ (adjoin known bytes).flatten.length :=
  (prefix_adjoin known bytes).sublist.flatten.length_le

theorem length_le_adjoinAll (known strings : List (List UInt8)) :
    known.flatten.length ≤ (adjoinAll known strings).flatten.length :=
  (prefix_adjoinAll known strings).sublist.flatten.length_le

theorem nodup_adjoin (hnodup : known.Nodup) (bytes : List UInt8) : (adjoin known bytes).Nodup := by
  unfold adjoin
  split
  · exact hnodup
  · rename_i hnew
    exact hnodup.append (List.nodup_singleton bytes) (by simpa using hnew)

theorem nodup_adjoinAll (hnodup : known.Nodup) (strings : List (List UInt8)) :
    (adjoinAll known strings).Nodup := by
  induction strings generalizing known with
  | nil => exact hnodup
  | cons bytes strings ih => exact ih (nodup_adjoin hnodup bytes)

theorem toFinset_adjoin (known : List (List UInt8)) (bytes : List UInt8) :
    (adjoin known bytes).toFinset = known.toFinset ∪ {bytes} := by
  unfold adjoin
  split
  · rename_i hmember
    rw [eq_comm, Finset.union_eq_left, Finset.singleton_subset_iff]
    exact List.mem_toFinset.mpr hmember
  · simp

theorem toFinset_adjoinAll (known strings : List (List UInt8)) :
    (adjoinAll known strings).toFinset = known.toFinset ∪ strings.toFinset := by
  induction strings generalizing known with
  | nil => simp [adjoinAll]
  | cons bytes strings ih =>
    rw [adjoinAll_cons, ih, toFinset_adjoin, Finset.union_assoc, List.toFinset_cons,
      Finset.insert_eq]

/-- The data section holds each string of the module once. -/
theorem encodedSize_adjoinAll (module : Module) :
    encodedSize (adjoinAll [] module.strings) = module.dataSize := by
  have hnodup := nodup_adjoinAll List.nodup_nil module.strings
  rw [encodedSize, Module.dataSize, ← List.sum_toFinset _ hnodup, toFinset_adjoinAll]
  simp

end Pool

/-! ## Parts with strings -/

/-- A part of a module is written after a pool.  What is written has a fixed size, the pool
comes to stand for the strings that the part refers to as well, and a part that fits is refused
only if there is no room for it or for its strings. -/
structure Writes (write : Pool → Except EncodeError (List UInt8 × Pool))
    (strings : List (List UInt8)) (fits : Prop) (size : Nat) : Prop where
  of_ok : ∀ {pool after : Pool} {known : List (List UInt8)} {bytes : List UInt8},
    pool.Represents known → write pool = .ok (bytes, after) →
      fits ∧ bytes.length = size ∧ after.Represents (Pool.adjoinAll known strings)
  exists_ok : ∀ {pool : Pool} {known : List (List UInt8)}, pool.Represents known → fits →
    size < 2 ^ 32 → (Pool.adjoinAll known strings).flatten.length < 2 ^ 32 →
      ∃ bytes after, write pool = .ok (bytes, after)

section Parts

/-- Items that all take bytes take at least as many bytes as there are items. -/
theorem length_le_sum_map {α : Type} {size : α → Nat} (hpos : ∀ item, 0 < size item)
    (items : List α) : items.length ≤ (items.map size).sum := by
  have hle := List.length_le_sum_of_one_le (items.map size) fun n hn => by
    rcases List.mem_map.mp hn with ⟨item, -, rfl⟩
    exact hpos item
  rwa [List.length_map] at hle

theorem encodeRoutine_writes (routine : Routine) :
    Writes (encodeRoutine · routine) (Definition.routine routine).strings routine.Fits
      (Definition.routine routine).encodedSize := by
  constructor
  · intro pool after known bytes hpool hencoded
    rcases exists_of_bind_eq_ok hencoded with ⟨⟨name, named⟩, hname, hencoded⟩
    rcases exists_of_bind_eq_ok hencoded with ⟨parameters, hparameters, hencoded⟩
    rcases exists_of_bind_eq_ok hencoded with ⟨locals, hlocals, hencoded⟩
    rcases exists_of_bind_eq_ok hencoded with ⟨labelCount, hlabelCount, hencoded⟩
    rcases exists_of_bind_eq_ok hencoded with ⟨codeSize, hcodeSize, hencoded⟩
    rcases exists_of_bind_eq_ok hencoded with ⟨code, hcode, hencoded⟩
    cases hencoded
    rcases (encodeParameters_sized _).of_ok hparameters with ⟨hparameters, hparametersLength⟩
    rcases (encodeLocals_sized _).of_ok hlocals with ⟨hlocals, hlocalsLength⟩
    rcases (encodeCode_sized _ _ _ _).of_ok hcode with ⟨hcode, hcodeLength⟩
    refine ⟨⟨hparameters, hlocals, hcode⟩, ?_, (hpool.intern hname).1⟩
    have hlabelCountLength := ((encodeCount_sized _).of_ok hlabelCount).2
    have hcodeSizeLength := ((encodeCount_sized _).of_ok hcodeSize).2
    simp only [List.length_cons, List.length_append, length_word32, hparametersLength,
      hlocalsLength, hlabelCountLength, List.length_flatMap, List.map_const', Array.length_toList,
      List.sum_replicate_nat, hcodeSizeLength, hcodeLength, List.length_nil,
      Definition.encodedSize]
    omega
  · intro pool known hpool hfits hsize hroom
    have hcount := length_le_sum_map Instruction.encodedSize_pos routine.code.toList
    rw [Array.length_toList] at hcount
    rw [Definition.encodedSize] at hsize
    rcases hpool.exists_intern hroom with ⟨name, named, hname⟩
    rcases (encodeParameters_sized _).exists_ok hfits.parameters with ⟨parameters, hparameters⟩
    rcases (encodeLocals_sized _).exists_ok hfits.locals with ⟨locals, hlocals⟩
    rcases (encodeCount_sized routine.labels.size).exists_ok (by omega) with ⟨labels, hlabels⟩
    rcases (encodeCount_sized routine.code.size).exists_ok (by omega) with ⟨codeSize, hcodeSize⟩
    rcases (encodeCode_sized routine.name 0 [] _).exists_ok hfits.code with ⟨code, hcode⟩
    simp only [encodeRoutine, hname, hparameters, hlocals, hlabels, hcodeSize, hcode, bind,
      Except.bind]
    exact ⟨_, _, rfl⟩

theorem encodeExternal_writes (function : External) :
    Writes (encodeExternal · function) (Definition.external function).strings
      (function.parameters.length ≤ 255) (Definition.external function).encodedSize := by
  constructor
  · intro pool after known bytes hpool hencoded
    rcases exists_of_bind_eq_ok hencoded with ⟨⟨name, named⟩, hname, hencoded⟩
    rcases exists_of_bind_eq_ok hencoded with ⟨⟨library, placed⟩, hlibrary, hencoded⟩
    rcases exists_of_bind_eq_ok hencoded with ⟨parameters, hparameters, hencoded⟩
    cases hencoded
    rcases (encodeParameters_sized _).of_ok hparameters with ⟨hparameters, hlength⟩
    refine ⟨hparameters, ?_, ?_⟩
    · simp only [List.length_cons, List.length_append, length_word32, hlength,
        Definition.encodedSize]
      omega
    · exact ((hpool.intern hname).1.intern hlibrary).1
  · intro pool known hpool hfits _ hroom
    rcases hpool.exists_intern ((Pool.length_le_adjoin _ _).trans_lt hroom) with
      ⟨name, named, hname⟩
    rcases (hpool.intern hname).1.exists_intern hroom with ⟨library, placed, hlibrary⟩
    rcases (encodeParameters_sized _).exists_ok hfits with ⟨parameters, hparameters⟩
    simp only [encodeExternal, hname, hlibrary, hparameters, bind, Except.bind]
    exact ⟨_, _, rfl⟩

theorem encodeDefinition_writes (definition : Definition) :
    Writes (encodeDefinition · definition) definition.strings definition.Fits
      definition.encodedSize := by
  cases definition with
  | routine routine => exact encodeRoutine_writes routine
  | external function => exact encodeExternal_writes function

/-- Definitions are written exactly when they all fit, as far as there is room. -/
theorem encodeDefinitions_writes (definitions : List Definition) :
    Writes (encodeDefinitions · definitions) (definitions.flatMap Definition.strings)
      (∀ definition ∈ definitions, definition.Fits)
      (definitions.map Definition.encodedSize).sum := by
  induction definitions with
  | nil =>
    constructor
    · intro pool after known bytes hpool hencoded
      cases hencoded
      exact ⟨by simp, rfl, hpool⟩
    · intro pool known _ _ _ _
      exact ⟨[], pool, rfl⟩
  | cons definition definitions ih =>
    constructor
    · intro pool after known bytes hpool hencoded
      rcases exists_of_bind_eq_ok hencoded with ⟨⟨front, middle⟩, hfront, hencoded⟩
      rcases exists_of_bind_eq_ok hencoded with ⟨⟨back, last⟩, hback, hencoded⟩
      cases hencoded
      rcases (encodeDefinition_writes definition).of_ok hpool hfront with
        ⟨hfirst, hfrontLength, hmiddle⟩
      rcases ih.of_ok hmiddle hback with ⟨hothers, hbackLength, hlast⟩
      refine ⟨List.forall_mem_cons.mpr ⟨hfirst, hothers⟩, ?_, ?_⟩
      · rw [List.length_append, hfrontLength, hbackLength, List.map_cons, List.sum_cons]
      · rw [List.flatMap_cons, Pool.adjoinAll_append]
        exact hlast
    · intro pool known hpool hfits hsize hroom
      rw [List.map_cons, List.sum_cons] at hsize
      rw [List.flatMap_cons, Pool.adjoinAll_append] at hroom
      rcases List.forall_mem_cons.mp hfits with ⟨hfirst, hothers⟩
      have hplaced := (Pool.length_le_adjoinAll _ _).trans_lt hroom
      rcases (encodeDefinition_writes definition).exists_ok hpool hfirst (by omega) hplaced with
        ⟨front, middle, hfront⟩
      have hmiddle := ((encodeDefinition_writes definition).of_ok hpool hfront).2.2
      rcases ih.exists_ok hmiddle hothers (by omega) hroom with ⟨back, last, hback⟩
      simp only [encodeDefinitions, hfront, hback, bind, Except.bind]
      exact ⟨_, _, rfl⟩

/-- Resources are written as far as there is room. -/
theorem encodeResources_writes (resources : List Resource) :
    Writes (encodeResources · resources) (resources.map Resource.bytes) True
      ((1 + 4) * resources.length) := by
  induction resources with
  | nil =>
    constructor
    · intro pool after known bytes hpool hencoded
      cases hencoded
      exact ⟨trivial, rfl, hpool⟩
    · intro pool known _ _ _ _
      exact ⟨[], pool, rfl⟩
  | cons resource resources ih =>
    constructor
    · intro pool after known bytes hpool hencoded
      rcases exists_of_bind_eq_ok hencoded with ⟨⟨index, middle⟩, hindex, hencoded⟩
      rcases exists_of_bind_eq_ok hencoded with ⟨⟨others, last⟩, hothers, hencoded⟩
      cases hencoded
      rcases ih.of_ok (hpool.intern hindex).1 hothers with ⟨-, hlength, hlast⟩
      refine ⟨trivial, ?_, hlast⟩
      simp only [List.length_cons, List.length_append, length_word32, hlength]
      omega
    · intro pool known hpool _ hsize hroom
      rw [List.length_cons] at hsize
      rw [List.map_cons, Pool.adjoinAll_cons] at hroom
      have hplaced := (Pool.length_le_adjoinAll _ _).trans_lt hroom
      rcases hpool.exists_intern hplaced with ⟨index, middle, hindex⟩
      rcases ih.exists_ok (hpool.intern hindex).1 trivial (by omega) hroom with
        ⟨others, last, hothers⟩
      simp only [encodeResources, hindex, hothers, bind, Except.bind]
      exact ⟨_, _, rfl⟩

end Parts

/-! ## Modules -/

section Sections

variable {kind : Section} {count : Nat} {number contents bytes : List UInt8}

/-- A section that was written leaves room for its count and for its contents. -/
theorem lt_of_countedSection (hnumber : encodeCount count = .ok number)
    (hsection : encodeSection kind (number ++ contents) = .ok bytes) :
    4 + contents.length < 2 ^ 32 := by
  have hlt := ((encodeSection_sized kind _).of_ok hsection).1
  rwa [List.length_append, ((encodeCount_sized count).of_ok hnumber).2] at hlt

/-- Contents that leave room for their count are written as a section. -/
theorem exists_countedSection (kind : Section) (count : Nat) (contents : List UInt8)
    (hcount : count ≤ contents.length)
    (hroom : 4 + contents.length < 2 ^ 32) :
    ∃ number bytes, encodeCount count = .ok number ∧
      encodeSection kind (number ++ contents) = .ok bytes := by
  rcases (encodeCount_sized count).exists_ok (by omega) with ⟨number, hnumber⟩
  have hlength := ((encodeCount_sized count).of_ok hnumber).2
  rcases (encodeSection_sized kind (number ++ contents)).exists_ok
    (by rw [List.length_append]; omega) with ⟨bytes, hbytes⟩
  exact ⟨number, bytes, hnumber, hbytes⟩

end Sections

/-- The pools on the way stand for the strings of the name, the resources and the
definitions. -/
theorem adjoinAll_strings (module : Module) :
    Pool.adjoinAll [] module.strings =
      Pool.adjoinAll (Pool.adjoinAll (Pool.adjoin [] (Text.utf8 module.name))
        (module.resources.entries.map Resource.bytes))
          (module.definitions.flatMap Definition.strings) := by
  rw [Module.strings, Pool.adjoinAll_cons, Pool.adjoinAll_append]

section Modules

variable {module : Module}

/-- The last pool on the way stands for the strings that the module refers to, and the sections
are as long as their fields. -/
theorem parts_of_encode {named placed last : Pool} {name : UInt32}
    {resources definitions strings : List UInt8}
    (hname : Pool.empty.intern (Text.utf8 module.name) = .ok (name, named))
    (hresources : encodeResources named module.resources.entries = .ok (resources, placed))
    (hdefinitions : encodeDefinitions placed module.definitions = .ok (definitions, last))
    (hstrings : last.encode = .ok strings) :
    (∀ definition ∈ module.definitions, definition.Fits) ∧
      strings.length = module.dataSize ∧ 4 + resources.length = module.resourcesSize ∧
        4 + definitions.length = module.codeSize := by
  have hnamed := (Pool.represents_empty.intern hname).1
  rcases (encodeResources_writes _).of_ok hnamed hresources with ⟨-, hresourcesLength, hplaced⟩
  rcases (encodeDefinitions_writes _).of_ok hplaced hdefinitions with
    ⟨hfits, hdefinitionsLength, hlast⟩
  rw [← adjoinAll_strings] at hlast
  refine ⟨hfits, ?_, ?_, ?_⟩
  · rw [((Pool.encode_sized hlast).of_ok hstrings).2, Pool.encodedSize_adjoinAll]
  · rw [hresourcesLength, Module.resourcesSize, ResourceTable.size]
  · rw [hdefinitionsLength, Module.codeSize]

/-- What was written keeps to the limits of the format. -/
theorem fits_of_encode {bytes : List UInt8} (hencoded : encode module = .ok bytes) :
    (∀ definition ∈ module.definitions, definition.Fits) ∧
      module.dataSize < 2 ^ 32 ∧ module.resourcesSize < 2 ^ 32 ∧ module.codeSize < 2 ^ 32 := by
  rcases encode_eq_ok_iff.mp hencoded with ⟨hname, hresourceCount, hresources, hdefinitionCount,
    hdefinitions, hstrings, -, hdata, hresourceSection, hcode⟩
  rcases parts_of_encode hname hresources hdefinitions hstrings with
    ⟨hfits, hdataLength, hresourcesLength, hdefinitionsLength⟩
  have hdataSize := ((encodeSection_sized _ _).of_ok hdata).1
  have hresourcesSize := lt_of_countedSection hresourceCount hresourceSection
  have hcodeSize := lt_of_countedSection hdefinitionCount hcode
  rw [hdataLength] at hdataSize
  rw [hresourcesLength] at hresourcesSize
  rw [hdefinitionsLength] at hcodeSize
  exact ⟨hfits, hdataSize, hresourcesSize, hcodeSize⟩

/-- A module that keeps to the limits of the format is written. -/
theorem exists_encode (hfits : ∀ definition ∈ module.definitions, definition.Fits)
    (hdataSize : module.dataSize < 2 ^ 32) (hresourcesSize : module.resourcesSize < 2 ^ 32)
    (hcodeSize : module.codeSize < 2 ^ 32) : ∃ bytes, encode module = .ok bytes := by
  -- No pool on the way has more bytes than the last one, which the data section has room for.
  have hlastRoom : (Pool.adjoinAll [] module.strings).flatten.length < 2 ^ 32 := by
    rw [← Pool.encodedSize_adjoinAll, Pool.encodedSize_eq] at hdataSize
    omega
  rw [adjoinAll_strings] at hlastRoom
  have hplacedRoom := (Pool.length_le_adjoinAll _ _).trans_lt hlastRoom
  have hnamedRoom := (Pool.length_le_adjoinAll _ _).trans_lt hplacedRoom
  rcases Pool.represents_empty.exists_intern hnamedRoom with ⟨name, named, hname⟩
  have hnamed := (Pool.represents_empty.intern hname).1
  rcases (encodeSection_sized .header
    (word32 majorVersion ++ (word32 minorVersion ++ word32 name))).exists_ok (by simp) with
    ⟨header, hheader⟩
  -- The counts of the sections fit, since every item takes at least one byte.
  unfold Module.resourcesSize ResourceTable.size at hresourcesSize
  rcases (encodeResources_writes _).exists_ok hnamed trivial (by omega) hplacedRoom with
    ⟨resources, placed, hresources⟩
  have hplaced := (encodeResources_writes _).of_ok hnamed hresources
  rcases exists_countedSection .resources module.resources.size resources
    (by rw [ResourceTable.size]; omega) (by omega) with
    ⟨resourceCount, resourceSection, hresourceCount, hresourceSection⟩
  unfold Module.codeSize at hcodeSize
  rcases (encodeDefinitions_writes _).exists_ok hplaced.2.2 hfits (by omega) hlastRoom with
    ⟨definitions, last, hdefinitions⟩
  have hlast := (encodeDefinitions_writes _).of_ok hplaced.2.2 hdefinitions
  have hfewer := length_le_sum_map Definition.encodedSize_pos module.definitions
  rcases exists_countedSection .code module.definitions.length definitions
    (by omega) (by omega) with ⟨definitionCount, codeSection, hdefinitionCount, hcode⟩
  rcases (Pool.encode_sized hlast.2.2).exists_ok hlastRoom with ⟨strings, hstrings⟩
  have hlength := (parts_of_encode hname hresources hdefinitions hstrings).2.1
  rcases (encodeSection_sized .data strings).exists_ok (by omega) with ⟨data, hdata⟩
  exact ⟨_, encode_eq_ok_iff.mpr (.intro hname hresourceCount hresources hdefinitionCount
    hdefinitions hstrings hheader hdata hresourceSection hcode)⟩

end Modules

end Format

end StackCode
