import StackCode.Proofs.Format.Recognizing
import StackCode.Proofs.Format.RoundTrip
import StackCode.Proofs.Memory.StoredBytes

/-!
# The layout of binary modules

The binary format as a relation between bytes and modules: a signature and four sections,
whose contents are laid out as the definitions below say.  Several byte strings may stand
for one module, since the data section may hold strings in any order, repeated or unused,
and since a constant may carry bits above its width.  Decoding accepts exactly the byte
strings of the format.

Main definitions:

- `OperandLayout`, `TargetLayout`, `InstructionLayout`: instructions.
- `DataLayout`: the data section.
- `ResourcesLayout`, `DefinitionLayout`: the other sections.
- `ModuleLayout`: whole modules.

Main results:

- Theorems `readInstruction_recognizes`, `readDefinition_recognizes`,
  `PoolView.read_recognizes`, `readResources_recognizes`: the parts of a module.
- Theorem `decode_eq_ok_iff`: decoding accepts the format and nothing else.
-/

namespace StackCode

/-- Strict decoding accepts encodings only. -/
theorem Text.ofUtf8?_eq_some_iff {bytes : List UInt8} {text : String} :
    Text.ofUtf8? bytes = some text ↔ bytes = Text.utf8 text := by
  constructor
  · intro htext
    unfold Text.ofUtf8? String.fromUTF8? at htext
    split at htext
    · cases htext
      rfl
    · cases htext
  · rintro rfl
    exact Text.ofUtf8?_utf8 text

/-- A well-formed instruction has the operands of its opcode, and a pop names a constant, a
local or an argument. -/
theorem Instruction.isWellFormed_iff (instruction : Instruction) :
    instruction.isWellFormed = true ↔ instruction.opcode.shape = instruction.shape ∧
      ∀ operand, instruction = .stack .pop operand →
        operand.kind ∈ [.const, .localVar, .argument] := by
  unfold Instruction.isWellFormed
  rw [Bool.and_eq_true, beq_iff_eq]
  refine and_congr_right fun _ => ?_
  split
  · rename_i operand _
    cases operand <;> simp [Operand.kind, OperandKind.isPopTarget]
  · rename_i hpop
    simp only [true_iff]
    rintro operand rfl
    exact absurd rfl (hpop operand)

namespace Format

open Reader

/-! ## Instructions -/

section Instructions

/-- A data type is its tag. -/
def TypeLayout (bytes : List UInt8) (type : DataType) : Prop := bytes = [type.tag]

/-- An operand after its kind.  A constant is a type and eight bytes, of which those above
the size of the type do not count. -/
def PayloadLayout (bytes : List UInt8) : Operand → Prop
  | .const value => ∃ raw, bytes = value.type.tag :: word64 raw ∧
      value.raw.toNat = raw.toNat % 256 ^ value.type.size
  | .localVar index => bytes = word16 index
  | .argument index => bytes = [index]
  | .localAddress index => bytes = word16 index
  | .argumentAddress index => bytes = [index]
  | .resource index => bytes = word32 index
  | .routine id => bytes = word32 id

/-- The operand of a push or a pop. -/
inductive OperandLayout : List UInt8 → Operand → Prop
  | intro {payload : List UInt8} {operand : Operand} (hpayload : PayloadLayout payload operand) :
      OperandLayout (operand.kind.tag :: payload) operand

/-- The signature of a function value. -/
def SignatureLayout (bytes : List UInt8) (signature : Signature) : Prop :=
  ∃ parameters,
    bytes = signature.returnType.tag :: (parameters ++ [signature.convention.tag]) ∧
      Counted 1 TypeLayout parameters signature.parameters

/-- The target of a call: an identifier, or a signature. -/
def TargetLayout (bytes : List UInt8) : CallTarget → Prop
  | .definition id => bytes = 0 :: word32 id
  | .indirect signature => ∃ found, bytes = 1 :: found ∧ SignatureLayout found signature

/-- The operands of an instruction, by its shape. -/
def OperandsLayout (bytes : List UInt8) : Instruction → Prop
  | .simple _ => bytes = []
  | .typed _ type => bytes = [type.tag]
  | .convert _ source target => bytes = [source.tag, target.tag]
  | .conditional _ comparison type => bytes = [comparison.tag, type.tag]
  | .branch _ label => bytes = word32 label
  | .stack _ operand => OperandLayout bytes operand
  | .call _ mode target => ∃ found, bytes = mode.tag :: found ∧ TargetLayout found target

/-- An instruction is the tag of its opcode and the operands that the opcode requires.  A
pop names a constant, a local or an argument. -/
inductive InstructionLayout : List UInt8 → Instruction → Prop
  | intro {operands : List UInt8} {instruction : Instruction}
      (hshape : instruction.opcode.shape = instruction.shape)
      (hpop : ∀ operand, instruction = .stack .pop operand →
        operand.kind ∈ [.const, .localVar, .argument])
      (hoperands : OperandsLayout operands instruction) :
      InstructionLayout (instruction.opcode.tag :: operands) instruction

theorem readType_recognizes : Recognizes readType TypeLayout :=
  tag_recognizes .dataType DataType.ofTag?_eq_some_iff

theorem readConvention_recognizes :
    Recognizes readConvention fun bytes convention => bytes = [convention.tag] :=
  tag_recognizes .convention Convention.ofTag?_eq_some_iff

theorem readParameters_recognizes : Recognizes readParameters (Counted 1 TypeLayout) :=
  counted_recognizes count8_recognizes readType_recognizes

theorem readOperand_recognizes : Recognizes readOperand OperandLayout := by
  refine ((tag_recognizes .operandKind OperandKind.ofTag?_eq_some_iff).before fun kind =>
    (?_ : Recognizes _ fun bytes operand => operand.kind = kind ∧ PayloadLayout bytes operand)).congr
      fun bytes operand => ?_
  · cases kind with
    | const =>
      refine (readType_recognizes.before fun type =>
        word64_recognizes.map fun raw => Operand.const (.ofRaw type raw)).congr ?_
      intro bytes operand
      constructor
      · rintro ⟨type, _, rfl, raw, rfl, rfl⟩
        exact ⟨rfl, raw, rfl, Value.toNat_and_mask type raw⟩
      · rintro ⟨hkind, hoperand⟩
        cases operand with
        | const value =>
          obtain ⟨raw, rfl, hraw⟩ := hoperand
          refine ⟨value.type, _, rfl, raw, rfl, ?_⟩
          rw [← Value.toNat_and_mask] at hraw
          rw [Value.ofRaw, ← UInt64.toNat_inj.mp hraw]
        | _ => cases hkind
    | localVar =>
      refine (word16_recognizes.map Operand.localVar).congr fun bytes operand => ?_
      cases operand <;> simp [Operand.kind, PayloadLayout]
    | argument =>
      refine (byte_recognizes.map Operand.argument).congr fun bytes operand => ?_
      cases operand <;> simp [Operand.kind, PayloadLayout]
    | localAddress =>
      refine (word16_recognizes.map Operand.localAddress).congr fun bytes operand => ?_
      cases operand <;> simp [Operand.kind, PayloadLayout]
    | argumentAddress =>
      refine (byte_recognizes.map Operand.argumentAddress).congr fun bytes operand => ?_
      cases operand <;> simp [Operand.kind, PayloadLayout]
    | resource =>
      refine (word32_recognizes.map Operand.resource).congr fun bytes operand => ?_
      cases operand <;> simp [Operand.kind, PayloadLayout]
    | routine =>
      refine (word32_recognizes.map Operand.routine).congr fun bytes operand => ?_
      cases operand <;> simp [Operand.kind, PayloadLayout]
  · constructor
    · rintro ⟨_, payload, rfl, rfl, hoperand⟩
      exact .intro hoperand
    · rintro ⟨hoperand⟩
      exact ⟨_, _, rfl, rfl, hoperand⟩

theorem readTarget_recognizes : Recognizes readTarget TargetLayout := by
  have hindirect : Recognizes (do
      let returnType ← readType
      let parameters ← readParameters
      let convention ← readConvention
      return CallTarget.indirect ⟨returnType, parameters, convention⟩)
      fun bytes target => ∃ signature, target = .indirect signature ∧
        SignatureLayout bytes signature := by
    refine (readType_recognizes.before fun returnType =>
      readParameters_recognizes.bind fun parameters =>
        readConvention_recognizes.map fun convention =>
          CallTarget.indirect ⟨returnType, parameters, convention⟩).congr ?_
    intro bytes target
    constructor
    · rintro ⟨returnType, _, rfl, front, _, parameters, rfl, hparameters, convention, rfl, rfl⟩
      exact ⟨⟨returnType, parameters, convention⟩, rfl, front, rfl, hparameters⟩
    · rintro ⟨signature, rfl, front, rfl, hparameters⟩
      exact ⟨signature.returnType, _, rfl, front, _, signature.parameters, rfl, hparameters,
        signature.convention, rfl, rfl⟩
  refine (byte_recognizes.before fun found =>
    (word32_recognizes.map CallTarget.definition).ite (hindirect.ite (.fail _))).congr ?_
  intro bytes target
  constructor
  · rintro ⟨found, back, rfl, ⟨rfl, id, rfl, rfl⟩ | ⟨-, ⟨rfl, signature, rfl, hsignature⟩ |
      ⟨-, hfalse⟩⟩⟩
    · rfl
    · exact ⟨back, rfl, hsignature⟩
    · exact hfalse.elim
  · intro htarget
    cases target with
    | definition id => exact ⟨_, _, htarget, .inl ⟨rfl, id, rfl, rfl⟩⟩
    | indirect signature =>
      obtain ⟨back, rfl, hsignature⟩ := htarget
      exact ⟨_, back, rfl, .inr ⟨by decide, .inl ⟨rfl, signature, rfl, hsignature⟩⟩⟩

/-- The operands that an opcode requires give an instruction of the opcode's shape. -/
theorem readOperands_recognizes (opcode : Opcode) :
    Recognizes (readOperands opcode) fun bytes instruction =>
      instruction.opcode = opcode ∧ instruction.shape = opcode.shape ∧
        OperandsLayout bytes instruction := by
  unfold readOperands
  cases opcode.shape with
  | simple =>
    refine (Recognizes.pure (Instruction.simple opcode)).congr fun bytes instruction => ?_
    cases instruction <;> simp [Instruction.opcode, Instruction.shape, OperandsLayout, and_comm]
  | typed =>
    refine (readType_recognizes.map (Instruction.typed opcode)).congr fun bytes instruction => ?_
    cases instruction <;>
      simp [Instruction.opcode, Instruction.shape, OperandsLayout, TypeLayout, and_comm]
  | convert =>
    refine (readType_recognizes.before fun source =>
      readType_recognizes.map (Instruction.convert opcode source)).congr fun bytes instruction => ?_
    cases instruction <;>
      simp [Instruction.opcode, Instruction.shape, OperandsLayout, TypeLayout, and_comm]
  | conditional =>
    refine ((tag_recognizes .comparison Comparison.ofTag?_eq_some_iff).before fun comparison =>
      readType_recognizes.map (Instruction.conditional opcode comparison)).congr
        fun bytes instruction => ?_
    cases instruction <;>
      simp [Instruction.opcode, Instruction.shape, OperandsLayout, TypeLayout, and_comm]
  | branch =>
    refine (word32_recognizes.map (Instruction.branch opcode)).congr fun bytes instruction => ?_
    cases instruction <;> simp [Instruction.opcode, Instruction.shape, OperandsLayout, and_comm]
  | stack =>
    refine (readOperand_recognizes.map (Instruction.stack opcode)).congr fun bytes instruction => ?_
    cases instruction <;> simp [Instruction.opcode, Instruction.shape, OperandsLayout, and_comm]
  | call =>
    refine ((tag_recognizes .callMode CallMode.ofTag?_eq_some_iff).before fun mode =>
      readTarget_recognizes.map (Instruction.call opcode mode)).congr fun bytes instruction => ?_
    cases instruction <;>
      simp [Instruction.opcode, Instruction.shape, OperandsLayout, and_comm, and_left_comm]

theorem readInstruction_recognizes : Recognizes readInstruction InstructionLayout := by
  refine ((tag_recognizes .opcode Opcode.ofTag?_eq_some_iff).before fun opcode =>
    (readOperands_recognizes opcode).bind fun instruction =>
      (Recognizes.pure instruction).ite (.fail _)).congr fun bytes instruction => ?_
  constructor
  · rintro ⟨_, _, rfl, operands, _, instruction, rfl, ⟨rfl, hshape, hoperands⟩,
      ⟨hformed, rfl, rfl⟩ | ⟨-, hfalse⟩⟩
    · rw [Instruction.isWellFormed_iff] at hformed
      rw [List.append_nil]
      exact .intro hformed.1 hformed.2 hoperands
    · exact hfalse.elim
  · rintro ⟨hshape, hpop, hoperands⟩
    have hformed := instruction.isWellFormed_iff.mpr ⟨hshape, hpop⟩
    exact ⟨_, _, rfl, _, [], instruction, (List.append_nil _).symm,
      ⟨rfl, hshape.symm, hoperands⟩, .inl ⟨hformed, rfl, rfl⟩⟩

end Instructions

/-! ## The data section -/

/-- A span is an offset and a length. -/
def SpanLayout (bytes : List UInt8) (span : Nat × Nat) : Prop :=
  ∃ offset length : UInt32, bytes = word32 offset ++ word32 length ∧
    span = (offset.toNat, length.toNat)

/-- The data section is a table of spans and a blob that they lie in.  Spans may overlap and
need not cover the blob. -/
inductive DataLayout : List UInt8 → PoolView → Prop
  | intro {table blob : List UInt8} {spans : List (Nat × Nat)}
      (hspans : Counted 4 SpanLayout table spans) (hfits : blob.length < 256 ^ 4)
      (hbounds : ∀ span ∈ spans, span.1 + span.2 ≤ blob.length) :
      DataLayout (table ++ (LittleEndian.encode 4 blob.length ++ blob))
        (spans.map fun span => (blob.drop span.1).take span.2)

/-- A string is the index of its encoding in the data section. -/
def StringLayout (view : PoolView) (bytes : List UInt8) (text : String) : Prop :=
  ∃ index : UInt32, bytes = word32 index ∧ view[index.toNat]? = some (Text.utf8 text)

namespace PoolView

theorem readSpan_recognizes : Recognizes readSpan SpanLayout := by
  refine (word32_recognizes.before fun offset =>
    word32_recognizes.map fun length => (offset.toNat, length.toNat)).congr fun bytes span => ?_
  constructor
  · rintro ⟨offset, _, rfl, length, rfl, rfl⟩
    exact ⟨offset, length, rfl, rfl⟩
  · rintro ⟨offset, length, rfl, rfl⟩
    exact ⟨offset, _, rfl, length, rfl, rfl⟩

/-- Spans are cut out of a blob when they all lie in it. -/
theorem slices_eq_ok_iff {blob : List UInt8} {reversed view : PoolView}
    {spans : List (Nat × Nat)} :
    slices blob reversed spans = .ok view ↔
      (∀ span ∈ spans, span.1 + span.2 ≤ blob.length) ∧
        view = reversed.reverse ++ spans.map fun span => (blob.drop span.1).take span.2 := by
  induction spans generalizing reversed with
  | nil => simp [slices, eq_comm]
  | cons span spans ih =>
    rw [slices, slice]
    by_cases hbounds : span.1 + span.2 ≤ blob.length
    · simp [hbounds, ih]
    · simp [hbounds]

theorem read_recognizes : Recognizes read DataLayout := by
  refine ((counted_recognizes count32_recognizes readSpan_recognizes).bind fun spans =>
    (sized_recognizes.bind fun blob =>
      Recognizes.ofExcept (slices blob [] spans) ?_ ?_).assoc).assoc.congr fun bytes view => ?_
  · intro view hview
    rw [hview]
  · intro fault hfault
    rw [hfault]
  · constructor
    · rintro ⟨table, _, spans, rfl, hspans, _, _, blob, rfl, ⟨rfl, hfits⟩, rfl, hview⟩
      obtain ⟨hbounds, rfl⟩ := slices_eq_ok_iff.mp hview
      rw [List.append_nil]
      exact .intro hspans hfits hbounds
    · rintro ⟨hspans, hfits, hbounds⟩
      exact ⟨_, _, _, rfl, hspans, _, [], _, (List.append_nil _).symm, ⟨rfl, hfits⟩, rfl,
        slices_eq_ok_iff.mpr ⟨hbounds, rfl⟩⟩

theorem bytes_eq_ok_iff {view : PoolView} {index : UInt32} {bytes : List UInt8} :
    view.bytes index = .ok bytes ↔ view[index.toNat]? = some bytes := by
  unfold PoolView.bytes
  cases view[index.toNat]? <;> simp

theorem string_eq_ok_iff {view : PoolView} {index : UInt32} {text : String} :
    view.string index = .ok text ↔ view[index.toNat]? = some (Text.utf8 text) := by
  rw [← bytes_eq_ok_iff]
  unfold PoolView.string
  cases view.bytes index with
  | error fault => simp [bind, Except.bind]
  | ok bytes =>
    rw [Except.ok.injEq, ← Text.ofUtf8?_eq_some_iff]
    simp only [bind, Except.bind]
    cases Text.ofUtf8? bytes <;> simp [pure, Except.pure]

end PoolView

theorem readString_recognizes (view : PoolView) :
    Recognizes (readString view) (StringLayout view) := by
  refine (word32_recognizes.before fun index =>
    Recognizes.ofExcept (view.string index) ?_ ?_).congr fun bytes text => ?_
  · intro text htext
    rw [htext]
  · intro fault hfault
    rw [hfault]
  · constructor
    · rintro ⟨index, _, rfl, rfl, htext⟩
      exact ⟨index, List.append_nil _, PoolView.string_eq_ok_iff.mp htext⟩
    · rintro ⟨index, rfl, htext⟩
      exact ⟨index, [], (List.append_nil _).symm, rfl, PoolView.string_eq_ok_iff.mpr htext⟩

/-! ## Definitions -/

/-- A routine after its name: its return type, its parameters, its local variables, the
positions of its labels and its code. -/
def BodyLayout (bytes : List UInt8) (routine : Routine) : Prop :=
  ∃ parameters locals labels code,
    bytes = routine.returnType.tag :: (parameters ++ (locals ++ (labels ++ code))) ∧
      Counted 1 TypeLayout parameters routine.parameters ∧
      Counted 2 TypeLayout locals routine.locals.toList ∧
      Counted 4 (fun bytes label => bytes = word32 label) labels routine.labels.toList ∧
      Counted 4 InstructionLayout code routine.code.toList

/-- An external function after its name: its library, its convention, its return type and
its parameters. -/
def ImportLayout (view : PoolView) (bytes : List UInt8) (function : External) : Prop :=
  ∃ library parameters,
    bytes = library ++ (function.convention.tag :: function.returnType.tag :: parameters) ∧
      StringLayout view library function.library ∧
      Counted 1 TypeLayout parameters function.parameters

/-- A definition is a marker, an identifier, a name and the rest of a routine or of an
external function. -/
inductive DefinitionLayout (view : PoolView) : List UInt8 → Definition → Prop
  | routine {routine : Routine} {name body : List UInt8}
      (hname : StringLayout view name routine.name) (hbody : BodyLayout body routine) :
      DefinitionLayout view (0xF0 :: (word32 routine.id ++ (name ++ body))) (.routine routine)
  | external {function : External} {name body : List UInt8}
      (hname : StringLayout view name function.name)
      (hbody : ImportLayout view body function) :
      DefinitionLayout view (0xF1 :: (word32 function.id ++ (name ++ body))) (.external function)

theorem readRoutine_recognizes (id : DefinitionId) (name : String) :
    Recognizes (readRoutine id name) fun bytes routine =>
      routine.id = id ∧ routine.name = name ∧ BodyLayout bytes routine := by
  refine (readType_recognizes.before fun returnType =>
    readParameters_recognizes.bind fun parameters =>
      ((counted_recognizes count16_recognizes readType_recognizes).bind fun locals =>
        ((counted_recognizes count32_recognizes word32_recognizes).bind fun labels =>
          ((counted_recognizes count32_recognizes readInstruction_recognizes).map fun code =>
            Routine.mk id name returnType parameters locals.toArray labels.toArray
              code.toArray).assoc).assoc).assoc).congr fun bytes routine => ?_
  constructor
  · rintro ⟨returnType, _, rfl, parameters, _, _, rfl, hparameters, locals, _, _, rfl, hlocals,
      labels, code, _, rfl, hlabels, _, hcode, rfl⟩
    exact ⟨rfl, rfl, parameters, locals, labels, code, rfl, hparameters, hlocals, hlabels, hcode⟩
  · rintro ⟨rfl, rfl, parameters, locals, labels, code, rfl, hparameters, hlocals, hlabels, hcode⟩
    exact ⟨routine.returnType, _, rfl, parameters, _, _, rfl, hparameters, locals, _, _, rfl,
      hlocals, labels, code, _, rfl, hlabels, _, hcode, rfl⟩

theorem readExternal_recognizes (view : PoolView) (id : DefinitionId) (name : String) :
    Recognizes (readExternal view id name) fun bytes function =>
      function.id = id ∧ function.name = name ∧ ImportLayout view bytes function := by
  refine ((readString_recognizes view).bind fun library =>
    readConvention_recognizes.before fun convention =>
      readType_recognizes.before fun returnType =>
        readParameters_recognizes.map fun parameters =>
          External.mk id name returnType parameters library convention).congr fun bytes function => ?_
  constructor
  · rintro ⟨library, _, _, rfl, hlibrary, convention, _, rfl, returnType, parameters, rfl, _,
      hparameters, rfl⟩
    exact ⟨rfl, rfl, library, parameters, rfl, hlibrary, hparameters⟩
  · rintro ⟨rfl, rfl, library, parameters, rfl, hlibrary, hparameters⟩
    exact ⟨library, _, _, rfl, hlibrary, function.convention, _, rfl, function.returnType,
      parameters, rfl, _, hparameters, rfl⟩

theorem readDefinition_recognizes (view : PoolView) :
    Recognizes (readDefinition view) (DefinitionLayout view) := by
  refine (byte_recognizes.before fun marker => word32_recognizes.before fun id =>
    (readString_recognizes view).bind fun name =>
      ((readRoutine_recognizes id name).map Definition.routine).ite
        (((readExternal_recognizes view id name).map Definition.external).ite (.fail _))).congr ?_
  intro bytes definition
  constructor
  · rintro ⟨marker, _, rfl, id, _, rfl, name, body, _, rfl, hname,
      ⟨rfl, routine, ⟨rfl, rfl, hbody⟩, rfl⟩ |
      ⟨-, ⟨rfl, function, ⟨rfl, rfl, hbody⟩, rfl⟩ | ⟨-, hfalse⟩⟩⟩
    · exact .routine hname hbody
    · exact .external hname hbody
    · exact hfalse.elim
  · rintro (⟨hname, hbody⟩ | ⟨hname, hbody⟩)
    · exact ⟨_, _, rfl, _, _, rfl, _, _, _, rfl, hname, .inl ⟨rfl, _, ⟨rfl, rfl, hbody⟩, rfl⟩⟩
    · exact ⟨_, _, rfl, _, _, rfl, _, _, _, rfl, hname,
        .inr ⟨by decide, .inl ⟨rfl, _, ⟨rfl, rfl, hbody⟩, rfl⟩⟩⟩

/-! ## Resources -/

/-- A resource is its kind and the index of its bytes in the data section. -/
def ResourceLayout (view : PoolView) (bytes : List UInt8) (resource : Resource) : Prop :=
  ∃ index : UInt32, bytes = resource.kind.tag :: word32 index ∧
    view[index.toNat]? = some resource.bytes

/-- The section of resources holds resources with distinct bytes. -/
def ResourcesLayout (view : PoolView) (bytes : List UInt8) (table : ResourceTable) : Prop :=
  Counted 4 (ResourceLayout view) bytes table.entries ∧
    (table.entries.map Resource.bytes).Nodup

theorem readResource_recognizes (view : PoolView) :
    Recognizes (readResource view) (ResourceLayout view) := by
  refine ((tag_recognizes .resourceKind ResourceKind.ofTag?_eq_some_iff).before fun kind =>
    word32_recognizes.before fun index =>
      Recognizes.ofExcept ((view.bytes index).map (Resource.mk kind)) ?_ ?_).congr
        fun bytes resource => ?_
  · intro resource hresource
    obtain ⟨bytes, hbytes, rfl⟩ := exists_of_map_eq_ok hresource
    rw [hbytes]
  · intro fault hfault
    cases hbytes : view.bytes index with
    | error found =>
      rw [hbytes] at hfault
      cases hfault
      rfl
    | ok bytes =>
      rw [hbytes] at hfault
      cases hfault
  · constructor
    · rintro ⟨kind, _, rfl, index, _, rfl, rfl, hresource⟩
      obtain ⟨bytes, hbytes, rfl⟩ := exists_of_map_eq_ok hresource
      rw [List.append_nil]
      exact ⟨index, rfl, PoolView.bytes_eq_ok_iff.mp hbytes⟩
    · rintro ⟨index, rfl, hbytes⟩
      refine ⟨resource.kind, _, rfl, index, [], (List.append_nil _).symm, rfl, ?_⟩
      rw [PoolView.bytes_eq_ok_iff.mpr hbytes]
      rfl

/-- The resources that are read extend the table of those before them. -/
theorem readResources_recognizes (view : PoolView) (table : ResourceTable) (count : Nat)
    (htable : (table.entries.map Resource.bytes).Nodup) :
    Recognizes (readResources view table count) fun bytes result =>
      ∃ resources, result = ⟨table.entries ++ resources⟩ ∧ resources.length = count ∧
        Each (ResourceLayout view) bytes resources ∧
          ((table.entries ++ resources).map Resource.bytes).Nodup := by
  induction count generalizing table with
  | zero =>
    refine (Recognizes.pure table).congr fun bytes result => ?_
    constructor
    · rintro ⟨rfl, rfl⟩
      exact ⟨[], by simp, rfl, .nil, by simpa using htable⟩
    · rintro ⟨resources, rfl, hlength, heach, -⟩
      obtain rfl := List.length_eq_zero_iff.mp hlength
      cases heach
      exact ⟨rfl, by simp⟩
  | succ count ih =>
    refine ((readResource_recognizes view).bind fun resource =>
      (?_ : Recognizes _ fun bytes result => ∃ resources,
        result = ⟨table.entries ++ resource :: resources⟩ ∧ resources.length = count ∧
          Each (ResourceLayout view) bytes resources ∧
            ((table.entries ++ resource :: resources).map Resource.bytes).Nodup)).congr
      fun bytes result => ?_
    · by_cases hnew : resource.bytes ∈ table.entries.map Resource.bytes
      · -- The bytes are in the table, so no table of distinct ones holds them once more.
        obtain ⟨index, hindex⟩ := Option.ne_none_iff_exists'.mp (mt
          ResourceTable.find?_eq_none_iff.mp (not_not_intro hnew))
        rw [hindex]
        refine (Recognizes.fail _).congr fun bytes result => ?_
        constructor
        · exact False.elim
        · rintro ⟨resources, -, -, -, hnodup⟩
          rw [List.map_append, List.nodup_append] at hnodup
          exact hnodup.2.2 _ hnew _ (List.mem_map_of_mem List.mem_cons_self) rfl
      · have hgrown : ((table.entries ++ [resource]).map Resource.bytes).Nodup := by
          rw [List.map_append, List.nodup_append]
          refine ⟨htable, by simp, ?_⟩
          rintro _ hmember _ hresource rfl
          exact hnew (List.mem_singleton.mp hresource ▸ hmember)
        rw [ResourceTable.find?_eq_none_iff.mpr hnew, ResourceTable.add_of_notMem hnew]
        refine (ih _ hgrown).congr fun bytes result => ?_
        simp
    · constructor
      · rintro ⟨front, back, resource, rfl, hresource, resources, rfl, hlength, heach, hnodup⟩
        exact ⟨resource :: resources, rfl, congrArg Nat.succ hlength, .cons hresource heach, hnodup⟩
      · rintro ⟨resources, rfl, hlength, heach, hnodup⟩
        cases heach with
        | nil => cases hlength
        | @cons front back resource resources hresource heach =>
          exact ⟨front, back, resource, rfl, hresource, resources, rfl, Nat.succ.inj hlength, heach,
            hnodup⟩

/-- The section of resources starts from an empty table. -/
theorem resourceSection_recognizes (view : PoolView) :
    Recognizes (within .resources do
      let count ← Reader.word32
      readResources view .empty count.toNat) (Sectioned 2 (ResourcesLayout view)) := by
  have hsequence := count32_recognizes.bind fun count =>
    readResources_recognizes view .empty count List.nodup_nil
  simp only [bind_assoc, pure_bind] at hsequence
  refine within_recognizes .resources (hsequence.congr fun bytes table => ?_)
  constructor
  · rintro ⟨_, _, _, rfl, ⟨rfl, hfits⟩, resources, rfl, rfl, heach, hnodup⟩
    exact ⟨.intro hfits heach, hnodup⟩
  · obtain ⟨entries⟩ := table
    rintro ⟨⟨hfits, heach⟩, hnodup⟩
    exact ⟨_, _, _, rfl, ⟨rfl, hfits⟩, entries, rfl, rfl, heach, hnodup⟩

/-! ## Modules -/

/-- The header is a version and the index of the module's name.  The minor version does not
matter. -/
def HeaderLayout (bytes : List UInt8) (name : UInt32) : Prop :=
  ∃ minor, bytes = word32 1 ++ (word32 minor ++ word32 name)

/-- A module is a signature and four sections, with nothing after them.  Definitions have
distinct identifiers. -/
inductive ModuleLayout : List UInt8 → Module → Prop
  | intro {module : Module} {view : PoolView} {name : UInt32}
      {header data resources code : List UInt8}
      (hheader : Sectioned 0 HeaderLayout header name)
      (hdata : Sectioned 1 DataLayout data view)
      (hresources : Sectioned 2 (ResourcesLayout view) resources module.resources)
      (hcode : Sectioned 3 (Counted 4 (DefinitionLayout view)) code module.definitions)
      (hname : view[name.toNat]? = some (Text.utf8 module.name))
      (hids : (module.definitions.map Definition.id).Nodup) :
      ModuleLayout ([0x62, 0x72, 0x00, 0x00] ++ (header ++ (data ++ (resources ++ code)))) module

theorem readHeader_recognizes : Recognizes readHeader HeaderLayout := by
  refine (word32_recognizes.before fun major => word32_recognizes.before fun minor =>
    word32_recognizes.ite (.fail _)).congr fun bytes name => ?_
  constructor
  · rintro ⟨major, _, rfl, minor, _, rfl, ⟨rfl, rfl⟩ | ⟨-, hfalse⟩⟩
    · exact ⟨minor, rfl⟩
    · exact hfalse.elim
  · rintro ⟨minor, rfl⟩
    exact ⟨_, _, rfl, minor, _, rfl, .inl ⟨rfl, rfl⟩⟩

theorem headerSection_recognizes :
    Recognizes (within .header readHeader) (Sectioned 0 HeaderLayout) :=
  within_recognizes .header readHeader_recognizes

theorem dataSection_recognizes :
    Recognizes (within .data PoolView.read) (Sectioned 1 DataLayout) :=
  within_recognizes .data PoolView.read_recognizes

theorem codeSection_recognizes (view : PoolView) :
    Recognizes (within .code do
      let count ← Reader.word32
      many (readDefinition view) count.toNat)
      (Sectioned 3 (Counted 4 (DefinitionLayout view))) :=
  within_recognizes .code
    (counted_recognizes count32_recognizes (readDefinition_recognizes view))

/-- What a module was read from is laid out as a module. -/
theorem moduleLayout_of_decode {bytes : List UInt8} {module : Module}
    (hdecoded : decode bytes = .ok module) : ModuleLayout bytes module := by
  unfold decode at hdecoded
  split at hdecoded
  · rename_i found rest hread
    cases hdecoded
    unfold readModule at hread
    obtain ⟨opening, _, sections, ⟨rfl, -⟩, hbytes, hread⟩ :=
      (take_recognizes _).inverts_bind hread
    split at hread
    · cases hread
    rename_i hsignature
    obtain rfl := not_not.mp hsignature
    obtain ⟨name, header, _, hheader, hsections, hread⟩ := headerSection_recognizes.inverts_bind hread
    obtain ⟨view, data, _, hdata, hmore, hread⟩ := dataSection_recognizes.inverts_bind hread
    obtain ⟨table, resources, _, hresources, hrest, hread⟩ :=
      (resourceSection_recognizes view).inverts_bind hread
    obtain ⟨definitions, code, last, hcode, hlast, hread⟩ :=
      (codeSection_recognizes view).inverts_bind hread
    obtain ⟨hend, hread⟩ := of_finish_bind_eq_ok hread
    simp only at hbytes
    rw [hbytes, hsections, hmore, hrest, hlast, hend, List.append_nil]
    -- The name and the identifiers are checked after all sections have been read.
    cases htext : view.string name with
    | error fault =>
      rw [htext] at hread
      cases hread
    | ok text =>
      rw [htext] at hread
      simp only at hread
      cases hparts : Module.ofParts text definitions table with
      | error duplicate =>
        rw [hparts] at hread
        cases hread
      | ok module =>
        rw [hparts] at hread
        cases hread
        obtain ⟨hids, rfl⟩ := ofParts_eq_ok_iff.mp hparts
        exact .intro hheader hdata hresources hcode (PoolView.string_eq_ok_iff.mp htext) hids
  · cases hdecoded

/-- Decoding accepts the bytes of a module and nothing else. -/
theorem decode_eq_ok_iff (bytes : List UInt8) (module : Module) :
    decode bytes = .ok module ↔ ModuleLayout bytes module := by
  constructor
  · exact moduleLayout_of_decode
  · rintro ⟨hheader, hdata, hresources, hcode, hname, hids⟩
    exact decode_sections (headerSection_recognizes.reads hheader)
      (dataSection_recognizes.reads hdata) ((resourceSection_recognizes _).reads hresources)
      ((codeSection_recognizes _).reads hcode) (PoolView.string_eq_ok_iff.mpr hname) hids

end Format

end StackCode
