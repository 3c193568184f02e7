import StackCode.Proofs.Format.PoolStrings

/-!
# Instructions read back

Every well-formed instruction is read back from the bytes that were written for it, whose
constants have no bits above their width.

Main definitions:

- `Instruction.Masked`: an instruction whose constant has no bits above its width.

Main results:

- Theorems `readOperand_reads`, `readTarget_reads`: operands and call targets.
- Theorem `readInstruction_reads`: instructions.
- Theorem `readCode_reads`: the code of a routine.
-/

namespace StackCode

/-- A constant operand has no bits above its width. -/
def Operand.Masked : Operand → Prop
  | .const value => value.Masked
  | _ => True

instance (operand : Operand) : Decidable operand.Masked :=
  match operand with
  | .const value => inferInstanceAs (Decidable value.Masked)
  | .localVar _ | .argument _ | .localAddress _ | .argumentAddress _ | .resource _ |
    .routine _ => isTrue trivial

/-- The operand of an instruction has no bits above its width. -/
def Instruction.Masked (instruction : Instruction) : Prop :=
  ∀ operand ∈ instruction.operand?, operand.Masked

instance (instruction : Instruction) : Decidable instruction.Masked :=
  inferInstanceAs (Decidable (∀ operand ∈ instruction.operand?, operand.Masked))

namespace Format

open Reader

/-! ## Types and operands -/

theorem readType_reads (type : DataType) : Reads readType [type.tag] type :=
  tag_reads (DataType.ofTag?_tag type)

theorem readConvention_reads (convention : Convention) :
    Reads readConvention [convention.tag] convention :=
  tag_reads (Convention.ofTag?_tag convention)

theorem readTypes_reads (types : List DataType) :
    ReadsEach readType (types.map DataType.tag) types := by
  rw [List.map_eq_flatMap]
  exact ReadsEach.of_flatMap fun type _ => readType_reads type

theorem readParameters_reads {types : List DataType} {bytes : List UInt8}
    (hencoded : encodeParameters? types = some bytes) : Reads readParameters bytes types := by
  unfold encodeParameters? at hencoded
  split at hencoded
  · rename_i hlength
    cases hencoded
    refine (byte_reads types.length.toUInt8).bind (many_reads (readTypes_reads types) ?_)
    rw [Nat.toUInt8_eq, UInt8.toNat_ofNat']
    exact Nat.mod_eq_of_lt hlength
  · cases hencoded

/-- An operand is read back, if a constant has no bits that reading would drop. -/
theorem readOperand_reads {operand : Operand} (hmasked : operand.Masked) :
    Reads readOperand (encodeOperand operand) operand := by
  refine (tag_reads (OperandKind.ofTag?_tag operand.kind)).bind ?_
  cases operand with
  | const value =>
    have hvalue : Value.ofRaw value.type value.raw = value := by
      unfold Operand.Masked Value.Masked at hmasked
      rw [Value.ofRaw, hmasked]
    refine (readType_reads value.type).bind ?_
    have hreads := (word64_reads value.raw).map fun raw => Operand.const (.ofRaw value.type raw)
    rw [hvalue] at hreads
    exact hreads
  | localVar index => exact (word16_reads index).map Operand.localVar
  | argument index => exact (byte_reads index).map Operand.argument
  | localAddress index => exact (word16_reads index).map Operand.localAddress
  | argumentAddress index => exact (byte_reads index).map Operand.argumentAddress
  | resource index => exact (word32_reads index).map Operand.resource
  | routine id => exact (word32_reads id).map Operand.routine

theorem readTarget_reads {target : CallTarget} {bytes : List UInt8}
    (hencoded : encodeTarget target = .ok bytes) : Reads readTarget bytes target := by
  cases target with
  | definition id =>
    cases hencoded
    refine (byte_reads definitionTarget).bind ?_
    rw [if_pos rfl]
    exact (word32_reads id).map CallTarget.definition
  | indirect signature =>
    unfold encodeTarget at hencoded
    cases hparameters : encodeParameters? signature.parameters with
    | none =>
      simp only [hparameters] at hencoded
      cases hencoded
    | some parameters =>
      simp only [hparameters] at hencoded
      cases hencoded
      refine (byte_reads indirectTarget).bind ?_
      rw [if_neg (by decide), if_pos rfl]
      refine (readType_reads signature.returnType).bind ?_
      refine (readParameters_reads hparameters).bind ?_
      exact (readConvention_reads signature.convention).map
        fun convention => CallTarget.indirect ⟨signature.returnType, signature.parameters,
          convention⟩

/-! ## Instructions -/

/-- The operands are read back when they are those that the opcode requires. -/
theorem readOperands_reads {instruction : Instruction} {bytes : List UInt8}
    (hshape : instruction.opcode.shape = instruction.shape) (hmasked : instruction.Masked)
    (hencoded : encodeOperands instruction = .ok bytes) :
    Reads (readOperands instruction.opcode) bytes instruction := by
  unfold readOperands
  rw [hshape]
  cases instruction with
  | simple opcode =>
    cases hencoded
    exact Reads.pure _
  | typed opcode type =>
    cases hencoded
    exact (readType_reads type).map (Instruction.typed opcode)
  | convert opcode source target =>
    cases hencoded
    exact (readType_reads source).bind
      ((readType_reads target).map (Instruction.convert opcode source))
  | conditional opcode comparison type =>
    cases hencoded
    exact (tag_reads (Comparison.ofTag?_tag comparison)).bind
      ((readType_reads type).map (Instruction.conditional opcode comparison))
  | branch opcode label =>
    cases hencoded
    exact (word32_reads label).map (Instruction.branch opcode)
  | stack opcode operand =>
    cases hencoded
    exact (readOperand_reads (hmasked operand rfl)).map (Instruction.stack opcode)
  | call opcode mode target =>
    obtain ⟨found, htarget, rfl⟩ := exists_of_map_eq_ok hencoded
    exact (tag_reads (CallMode.ofTag?_tag mode)).bind
      ((readTarget_reads htarget).map (Instruction.call opcode mode))

theorem readInstruction_reads {instruction : Instruction} {bytes : List UInt8}
    (hmasked : instruction.Masked) (hencoded : encodeInstruction instruction = .ok bytes) :
    Reads readInstruction bytes instruction := by
  unfold encodeInstruction at hencoded
  by_cases hformed : instruction.isWellFormed = true
  · rw [if_pos hformed] at hencoded
    have hshape : instruction.opcode.shape = instruction.shape := by
      unfold Instruction.isWellFormed at hformed
      rw [Bool.and_eq_true] at hformed
      exact eq_of_beq hformed.1
    obtain ⟨operands, hoperands, rfl⟩ := exists_of_map_eq_ok hencoded
    refine (tag_reads (Opcode.ofTag?_tag instruction.opcode)).bind ?_
    refine (readOperands_reads hshape hmasked hoperands).bind_nil ?_
    rw [if_pos hformed]
    exact Reads.pure instruction
  · rw [if_neg hformed] at hencoded
    cases hencoded

/-- Code is the bytes of its instructions, after those already written. -/
theorem exists_of_encodeCode {name : String} {index : Nat} {reversed bytes : List UInt8}
    {code : List Instruction} (hmasked : ∀ instruction ∈ code, instruction.Masked)
    (hencoded : encodeCode name index reversed code = .ok bytes) :
    ∃ written, bytes = reversed.reverse ++ written ∧ ReadsEach readInstruction written code := by
  induction code generalizing index reversed with
  | nil =>
    cases hencoded
    exact ⟨[], by rw [List.append_nil], .nil⟩
  | cons instruction code ih =>
    unfold encodeCode at hencoded
    cases hfirst : encodeInstruction instruction with
    | error cause =>
      simp only [hfirst] at hencoded
      cases hencoded
    | ok front =>
      simp only [hfirst] at hencoded
      obtain ⟨back, hbytes, hback⟩ := ih
        (fun later hlater => hmasked later (List.mem_cons_of_mem _ hlater)) hencoded
      refine ⟨front ++ back, ?_,
        .cons (readInstruction_reads (hmasked instruction List.mem_cons_self) hfirst) hback⟩
      rw [hbytes, List.reverse_append, List.reverse_reverse, List.append_assoc]

/-- The code of a routine is read back, instruction by instruction. -/
theorem readCode_reads {name : String} {bytes : List UInt8} {code : List Instruction}
    (hmasked : ∀ instruction ∈ code, instruction.Masked)
    (hencoded : encodeCode name 0 [] code = .ok bytes) :
    ReadsEach readInstruction bytes code := by
  obtain ⟨written, hbytes, hwritten⟩ := exists_of_encodeCode hmasked hencoded
  rw [hbytes]
  exact hwritten

end Format

end StackCode
