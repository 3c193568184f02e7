import StackCode.Proofs.Machine.Layers

/-!
# The faults that an instruction can raise

Some faults depend on the values of a run: an arena that is full, a divisor that is zero,
an address that leads nowhere.  All others have a cause that can be read off the
instruction, its routine, the module or the host.  This file lists these causes, and shows
which faults the operations of the machine and of its arithmetic raise.

Main definitions:

- `Fault.isDynamic`: faults that depend on the values of a run.
- `Raises`: the faults that an instruction can raise, each with its cause.
- `Machine.Throws`: which faults a computation raises, on whatever machine.

Main results:

- Theorems `Numeric.binary_cases`, `Numeric.unary_cases`, `Numeric.cast_cases`: arithmetic.
- Theorems `Machine.enter_throws`, `Machine.tailEnter_throws`: opening activations.
-/

namespace StackCode

/-! ## Causes -/

/-- The fault depends on the values of a run and on what it has used of its limits. -/
def Fault.isDynamic : Fault → Bool
  | stackOverflow | stackUnderflow | divisionByZero | typeMismatch .. | signatureMismatch ..
  | invalidAddress _ | hostFunction _ | outOfFuel => true
  | _ => false

/-- The faults that an instruction of a routine can raise, each with its cause. -/
inductive Raises (setup : Setup) (routine : Routine) (instruction : Instruction) : Fault → Prop
  | dynamic {fault : Fault} (hdynamic : fault.isDynamic = true) :
      Raises setup routine instruction fault
  | malformed (hformed : instruction.isWellFormed = false) :
      Raises setup routine instruction .malformedInstruction
  | missingLocal {index : LocalIndex}
      (hnamed : instruction.operand? = some (.localVar index) ∨
        instruction.operand? = some (.localAddress index))
      (hmissing : routine.locals.size ≤ index.toNat) :
      Raises setup routine instruction (.invalidLocal index)
  | missingArgument {index : ArgumentIndex}
      (hnamed : instruction.operand? = some (.argument index) ∨
        instruction.operand? = some (.argumentAddress index))
      (hmissing : routine.parameters.length ≤ index.toNat) :
      Raises setup routine instruction (.invalidArgument index)
  | missingLabel {label : Label} (hnamed : instruction.label? = some label)
      (hmissing : ∀ position, routine.target? label = some position →
        routine.code.size < position) :
      Raises setup routine instruction (.invalidLabel label)
  | missingResource {index : ResourceIndex}
      (hnamed : instruction.operand? = some (.resource index))
      (hmissing : setup.module.resources.get? index = none) :
      Raises setup routine instruction (.invalidResource index)
  | missingFunction {id : DefinitionId} (hnamed : instruction.operand? = some (.routine id))
      (hmissing : setup.module.find? id = none) :
      Raises setup routine instruction (.unresolvedCall (.definition id))
  | missingDefinition {id : DefinitionId} (hnamed : instruction.callee? = some id)
      (hmissing : setup.module.find? id = none) :
      Raises setup routine instruction (.unresolvedCall (.definition id))
  | missingHost {mode : CallMode} {target : CallTarget} {function : External}
      (hcall : instruction.call? = some (mode, target))
      (hreaches : target.Reaches setup.module (.external function))
      (hmissing : setup.host.find? function.library function.name = none) :
      Raises setup routine instruction (.unresolvedCall (.host function.library function.name))
  | missingValue {mode : CallMode} {expected : Signature} {address : UInt64}
      (hcall : instruction.call? = some (mode, .indirect expected)) :
      Raises setup routine instruction (.unresolvedCall (.functionValue address))
  | floatBits {opcode : Opcode} {type : DataType} (hbitwise : opcode.isBitwise = true)
      (hfloat : type.isFloat = true) :
      Raises setup routine instruction (.unsupportedType opcode type)
  | voidOperand {opcode : Opcode} (hvoid : .void ∈ instruction.dataTypes) :
      Raises setup routine instruction (.unsupportedType opcode .void)
  | voidSlot {callee : Routine} (hmember : .routine callee ∈ setup.module.definitions)
      (hvoid : .void ∈ callee.frameTypes) :
      Raises setup routine instruction (.unsupportedType .push .void)
  | voidResult {function : External} {program : HostFunction} {arguments : List Value}
      {value : Value} {before after : Surroundings}
      (hmember : .external function ∈ setup.module.definitions)
      (hprogram : setup.host.find? function.library function.name = some program)
      (harguments : arguments.map Value.type = function.parameters)
      (hrun : (program arguments).run before = .ok (some value) after)
      (hvoid : value.type = .void) :
      Raises setup routine instruction (.unsupportedType .push .void)

/-! ## Arithmetic -/

/-- The opcode combines the two topmost operands. -/
def Opcode.isBinary : Opcode → Bool
  | add | subtract | multiply | divide | modulo | and | or | xor | shiftLeft | shiftRight => true
  | _ => false

/-- The opcode changes the topmost operand. -/
def Opcode.isUnary : Opcode → Bool
  | negate | increment | decrement | not => true
  | _ => false

namespace Numeric

/-- What an operation of a type gives: a value of the type, or a fault because the divisor
is zero or because the bits of a floating-point number were asked for. -/
def Computes (opcode : Opcode) (type : DataType) : Except Fault Value → Prop
  | .ok value => value.type = type
  | .error fault => fault = .divisionByZero ∨
      (fault = .unsupportedType opcode type ∧ opcode.isBitwise = true ∧ type.isFloat = true)

theorem floatBinary_cases {opcode : Opcode} (hbinary : opcode.isBinary = true) {type : DataType}
    (hfloat : type.isFloat = true) (a b : Nat) :
    Computes opcode type ((floatBinary opcode type a b).map (ofFloatBits type)) := by
  cases opcode with
  | add | subtract | multiply => exact rfl
  | divide | modulo =>
    simp only [floatBinary]
    split
    · exact .inl rfl
    · exact rfl
  | and | or | xor | shiftLeft | shiftRight => exact .inr ⟨rfl, rfl, hfloat⟩
  | _ => cases hbinary

theorem integerBinary_cases {opcode : Opcode} (hbinary : opcode.isBinary = true)
    (type : DataType) (a b : BitVec type.width) :
    Computes opcode type ((integerBinary opcode type a b).map (ofBits type)) := by
  cases opcode with
  | add | subtract | multiply | and | or | xor | shiftLeft | shiftRight => exact rfl
  | divide | modulo =>
    simp only [integerBinary]
    split
    · exact .inl rfl
    · exact rfl
  | _ => cases hbinary

/-- An operation on two values of a type that has storage. -/
theorem binary_cases {opcode : Opcode} (hbinary : opcode.isBinary = true) {type : DataType}
    (hstorable : type ≠ .void) (a b : Value) : Computes opcode type (binary opcode type a b) := by
  cases type with
  | void => exact absurd rfl hstorable
  | f64 | f32 => exact floatBinary_cases hbinary rfl _ _
  | _ => exact integerBinary_cases hbinary _ _ _

/-- An operation on one value of a type that has storage. -/
theorem unary_cases {opcode : Opcode} (hunary : opcode.isUnary = true) {type : DataType}
    (hstorable : type ≠ .void) (a : Value) : Computes opcode type (unary opcode type a) := by
  have hfloat : type.isFloat = true → ∀ bits : Nat,
      Computes opcode type ((floatUnary opcode type bits).map (ofFloatBits type)) := by
    intro hfloat bits
    cases opcode with
    | negate | increment | decrement => exact rfl
    | not => exact .inr ⟨rfl, rfl, hfloat⟩
    | _ => cases hunary
  have hinteger : ∀ bits : BitVec type.width,
      Computes opcode type ((integerUnary opcode type bits).map (ofBits type)) := by
    intro bits
    cases opcode with
    | negate | increment | decrement | not => exact rfl
    | _ => cases hunary
  cases type with
  | void => exact absurd rfl hstorable
  | f64 | f32 => exact hfloat rfl _
  | _ => exact hinteger _

/-- A conversion gives a value of the target type, unless one of the types is void. -/
theorem cast_cases (value : Value) (type : DataType) :
    match cast value type with
    | .ok result => result.type = type
    | .error fault => fault = .unsupportedType .cast .void ∧ (value.type = .void ∨ type = .void) := by
  unfold cast
  cases hwide : widen value with
  | error fault =>
    have hvoid : value.type = .void ∧ fault = .unsupportedType .cast .void := by
      unfold widen at hwide
      split at hwide
      · rename_i htype
        cases hwide
        exact ⟨htype, rfl⟩
      · cases hwide
      · cases hwide
      · cases hwide
    exact ⟨hvoid.2, .inl hvoid.1⟩
  | ok wide =>
    cases type with
    | void => exact ⟨rfl, .inr rfl⟩
    | _ => exact rfl

end Numeric

/-! ## Operations of the machine -/

namespace Machine

/-- A result as `after` says, or a fault as `allowed` says. -/
def Allows {α : Type} (allowed : Fault → Prop) (after : α → Prop) : Except Fault α → Prop
  | .ok result => after result
  | .error fault => allowed fault

/-- What a computation gave, without the machine after it. -/
def outcome {α : Type} : EStateM.Result Fault Machine α → Except Fault α
  | .ok result _ => .ok result
  | .error fault _ => .error fault

/-- Whatever the machine, a computation gives a result as `after` says, or a fault as
`allowed` says. -/
def Throws {α : Type} (allowed : Fault → Prop) (computation : Exec α) (after : α → Prop) : Prop :=
  ∀ machine, Allows allowed after (outcome (computation machine))

section Throws

variable {α β : Type} {allowed : Fault → Prop} {computation : Exec α} {after : α → Prop}

theorem Throws.pure {result : α} (hafter : after result) :
    Throws allowed (pure result : Exec α) after :=
  fun _ => hafter

theorem Throws.throw {fault : Fault} (hallowed : allowed fault) :
    Throws allowed (throw fault : Exec α) after :=
  fun _ => hallowed

theorem Throws.bind {next : α → Exec β} {final : β → Prop}
    (hfirst : Throws allowed computation after)
    (hnext : ∀ result, after result → Throws allowed (next result) final) :
    Throws allowed (computation >>= next) final := by
  intro machine
  have hended := hfirst machine
  change Allows allowed final (outcome (EStateM.bind computation next machine))
  unfold EStateM.bind
  cases hresult : computation machine with
  | ok result middle =>
    rw [hresult] at hended
    exact hnext result hended middle
  | error fault middle =>
    rw [hresult] at hended
    exact hended

/-- Looking at a machine faults as the view does. -/
theorem Throws.inspect {view : Machine → Except Fault α}
    (hview : ∀ machine, Allows allowed after (view machine)) :
    Throws allowed (inspect view) after := by
  intro machine
  have hended := hview machine
  unfold Machine.inspect
  cases hresult : view machine with
  | ok result =>
    rw [hresult] at hended
    exact hended
  | error fault =>
    rw [hresult] at hended
    exact hended

/-- A change of the activations raises no fault. -/
theorem onCalls_throws (change : CallStack → CallStack) :
    Throws allowed (onCalls change) fun _ => True :=
  fun _ => .intro

/-! ### Operands -/

theorem onArena_push_throws {value : Value} (hoverflow : allowed .stackOverflow)
    (hvoid : value.type = .void → allowed (.unsupportedType .push .void)) :
    Throws allowed (onArena (Arena.push value)) fun _ => True := by
  intro machine
  rw [onArena_eq, Arena.push_eq]
  by_cases htype : value.type = .void
  · rw [if_pos htype]
    exact hvoid htype
  · rw [if_neg htype]
    by_cases hfull : machine.memory.arena.capacity < machine.memory.arena.sp + value.size
    · rw [if_pos hfull]
      exact hoverflow
    · rw [if_neg hfull]
      exact .intro

theorem push_throws {value : Value} (hoverflow : allowed .stackOverflow)
    (hvoid : value.type = .void → allowed (.unsupportedType .push .void)) :
    Throws allowed (push value) fun _ => True :=
  Throws.bind (onArena_push_throws hoverflow hvoid) fun _ _ => Throws.pure .intro

theorem pushMany_throws {values : List Value} (hoverflow : allowed .stackOverflow)
    (hvoid : .void ∈ values.map Value.type → allowed (.unsupportedType .push .void)) :
    Throws allowed (pushMany values) fun _ => True := by
  induction values with
  | nil => exact Throws.pure .intro
  | cons value values ih =>
    rw [List.map_cons, List.mem_cons] at hvoid
    refine Throws.bind (push_throws hoverflow fun htype => hvoid (.inl htype.symm)) ?_
    exact fun _ _ => ih fun hrest => hvoid (.inr hrest)

theorem pushLocals_throws {types : List DataType} (hoverflow : allowed .stackOverflow)
    (hvoid : .void ∈ types → allowed (.unsupportedType .push .void)) (reversed : List Nat) :
    Throws allowed (pushLocals reversed types) fun _ => True := by
  induction types generalizing reversed with
  | nil => exact Throws.pure .intro
  | cons type types ih =>
    rw [List.mem_cons] at hvoid
    refine Throws.bind (onArena_push_throws hoverflow fun htype => hvoid (.inl htype.symm)) ?_
    exact fun offset _ => ih (fun hrest => hvoid (.inr hrest)) (offset :: reversed)

variable (hdynamic : ∀ fault : Fault, fault.isDynamic = true → fault ≠ .stackOverflow → allowed fault)
include hdynamic

theorem pop_throws (type : DataType) :
    Throws allowed (pop type) fun value => value.type = type := by
  intro machine
  change Allows allowed _ (outcome (onArena (Arena.pop type machine.calls.floor) machine))
  rw [onArena_eq]
  unfold Arena.pop
  cases machine.memory.arena.tags with
  | nil => exact hdynamic _ rfl nofun
  | cons tag tags =>
    obtain ⟨offset, found⟩ := tag
    simp only
    by_cases hdeep : offset < machine.calls.floor
    · rw [if_pos hdeep]
      exact hdynamic _ rfl nofun
    · rw [if_neg hdeep]
      by_cases htype : found = type
      · rw [if_neg (not_not_intro htype)]
        exact htype
      · rw [if_pos htype]
        exact hdynamic _ rfl nofun

theorem popInto_throws (values : List Value) (types : List DataType) :
    Throws allowed (popInto values types) fun result =>
      result.map Value.type = types.reverse ++ values.map Value.type := by
  induction types generalizing values with
  | nil => exact Throws.pure rfl
  | cons type types ih =>
    refine Throws.bind (pop_throws hdynamic type) fun value hvalue => ?_
    have hrest := ih (value :: values)
    rw [List.map_cons, hvalue, List.append_cons, ← List.reverse_cons] at hrest
    exact hrest

theorem popMany_throws (types : List DataType) :
    Throws allowed (popMany types) fun values => values.map Value.type = types := by
  have hpopped := popInto_throws hdynamic [] types.reverse
  rw [List.reverse_reverse, List.map_nil, List.append_nil] at hpopped
  exact hpopped

theorem checkTags_throws (floor : Nat) (tags : List (Nat × DataType)) (types : List DataType) :
    Allows allowed (fun _ => True) (Arena.checkTags floor tags types) := by
  induction tags generalizing types with
  | nil => exact .intro
  | cons tag tags ih =>
    obtain ⟨offset, found⟩ := tag
    cases types with
    | nil => exact .intro
    | cons expected types =>
      unfold Arena.checkTags
      by_cases hdeep : offset < floor
      · rw [if_pos hdeep]
        exact hdynamic _ rfl (by rintro ⟨⟩)
      · rw [if_neg hdeep]
        by_cases htype : found = expected
        · rw [if_neg (not_not_intro htype)]
          exact ih types
        · rw [if_pos htype]
          exact hdynamic _ rfl (by rintro ⟨⟩)

theorem checkTop_throws (types : List DataType) :
    Throws allowed (checkTop types) fun _ => True := by
  refine Throws.inspect fun machine => ?_
  unfold Arena.checkTop
  simp only
  by_cases hshort : (machine.memory.arena.tags.take types.length).length < types.length
  · rw [if_pos hshort]
    exact hdynamic _ rfl nofun
  · rw [if_neg hshort]
    exact checkTags_throws hdynamic _ _ types

theorem readSlot_throws (offset : Nat) (type : DataType) :
    Throws allowed (readSlot offset type) fun value => value.type = type := by
  refine Throws.inspect fun machine => ?_
  unfold Arena.read
  by_cases hlive : offset + type.size ≤ machine.memory.arena.sp
  · rw [if_pos hlive]
    exact rfl
  · rw [if_neg hlive]
    exact hdynamic _ rfl nofun

theorem writeSlot_throws (offset : Nat) (value : Value) :
    Throws allowed (writeSlot offset value) fun _ => True := by
  intro machine
  rw [writeSlot, onArena_eq]
  unfold Arena.write
  by_cases hlive : offset + value.size ≤ machine.memory.arena.sp
  · simp only [if_pos hlive]
    exact .intro
  · simp only [if_neg hlive]
    exact hdynamic _ rfl (by rintro ⟨⟩)

/-! ### Memory, host and fuel -/

theorem resolve_error {memory : Memory} {address : UInt64} {length : Nat} {fault : Fault}
    (hresolve : memory.resolve address length = .error fault) : allowed fault := by
  rw [Memory.fault_of_resolve hresolve]
  exact hdynamic _ rfl nofun

/-- The value of a type at an address. -/
theorem read_throws (memory : Memory) (address : UInt64) (type : DataType) :
    Allows allowed (fun value => value.type = type) (memory.read address type) := by
  unfold Memory.read Memory.readBytes
  cases hresolve : memory.resolve address type.size with
  | error fault => exact resolve_error hdynamic hresolve
  | ok region =>
    cases region with
    | arena offset => exact rfl
    | resource offset => exact rfl

theorem write_throws (address : UInt64) (value : Value) :
    Throws allowed (onMemory (Memory.write address value)) fun _ => True := by
  intro machine
  unfold onMemory Memory.write Memory.writeBytes
  cases hresolve : machine.memory.resolve address value.bytes.length with
  | error fault =>
    simp only [hresolve]
    exact resolve_error hdynamic hresolve
  | ok region =>
    cases region with
    | arena offset =>
      simp only [hresolve]
      exact .intro
    | resource offset =>
      simp only [hresolve]
      exact hdynamic _ rfl nofun

/-- A host function fails with a message of its own. -/
theorem runHost_throws (program : HostProgram) :
    Throws allowed (runHost program) fun result =>
      ∃ before after, program.run before = .ok result after := by
  intro machine
  unfold runHost
  cases hrun : program.run ⟨machine.memory, machine.console, machine.notes⟩ with
  | ok result after =>
    simp only [hrun]
    exact ⟨_, _, hrun⟩
  | error message after =>
    simp only [hrun]
    exact hdynamic _ rfl nofun

theorem spend_throws : Throws allowed spend fun _ => True := by
  rintro ⟨memory, console, notes, calls, fuel, executed, peak⟩
  match fuel with
  | none => exact .intro
  | some 0 => exact hdynamic _ rfl nofun
  | some (left + 1) => exact .intro

/-! ### Activations -/

theorem frame_throws : Throws allowed frame fun _ => True := by
  refine Throws.inspect fun machine => ?_
  cases machine.calls.top? with
  | none => exact hdynamic _ rfl nofun
  | some frame => exact .intro

/-- Laying out an activation of a routine without void slots raises no fault but those of a
full arena. -/
theorem layOut_throws {routine : Routine} (hoverflow : allowed .stackOverflow)
    (hvoid : .void ∈ routine.frameTypes → allowed (.unsupportedType .push .void))
    (savedFp : UInt64) (savedIp : UInt32) :
    Throws allowed (layOut routine savedFp savedIp) fun _ => True := by
  have hlocals : .void ∈ routine.locals.toList → allowed (.unsupportedType .push .void) :=
    fun hlocal => hvoid (List.mem_append_right _ hlocal)
  have hsp : Throws allowed sp fun _ => True := Throws.inspect fun _ => .intro
  refine Throws.bind hsp fun header _ => ?_
  cases offsetsBelow header [] routine.parameters.reverse with
  | none => exact Throws.throw (hdynamic _ rfl nofun)
  | some found =>
    have hpointer : (Value.pointer savedFp).type ≠ .void := by simp [Value.pointer]
    have hposition : (⟨.u32, savedIp.toUInt64⟩ : Value).type ≠ .void := by simp
    refine Throws.bind (push_throws hoverflow fun h => absurd h hpointer) fun _ _ => ?_
    refine Throws.bind (push_throws hoverflow fun h => absurd h hposition) fun _ _ => ?_
    refine Throws.bind hsp fun fp _ => ?_
    refine Throws.bind (pushLocals_throws hoverflow hlocals []) fun locals _ => ?_
    exact Throws.bind hsp fun floor _ _ => .intro

theorem savedRegisters_throws (fp : Nat) :
    Throws allowed (savedRegisters fp) fun _ => True := by
  unfold savedRegisters
  split
  · exact Throws.throw (hdynamic _ rfl nofun)
  · refine Throws.bind (readSlot_throws hdynamic _ _) fun savedFp _ => ?_
    refine Throws.bind (readSlot_throws hdynamic _ _) fun savedIp _ => ?_
    exact Throws.pure .intro

/-- Opening an activation of a routine without void slots. -/
theorem enter_throws {routine : Routine} (hoverflow : allowed .stackOverflow)
    (hvoid : .void ∈ routine.frameTypes → allowed (.unsupportedType .push .void))
    (limits : Limits) : Throws allowed (enter limits routine) fun _ => True := by
  have hview : ∀ view : Machine → Nat × UInt64 × UInt32,
      Throws allowed (inspect fun machine => .ok (view machine)) fun _ => True :=
    fun view => Throws.inspect fun _ => .intro
  refine Throws.bind (hview _) ?_
  rintro ⟨depth, savedFp, savedIp⟩ -
  simp only
  split
  · exact Throws.throw hoverflow
  · refine Throws.bind (checkTop_throws hdynamic _) fun _ _ => ?_
    exact layOut_throws hdynamic hoverflow hvoid savedFp savedIp

/-- Replacing an activation by one of a routine without void slots. -/
theorem tailEnter_throws {routine : Routine} (hoverflow : allowed .stackOverflow)
    (hvoid : .void ∈ routine.frameTypes → allowed (.unsupportedType .push .void)) :
    Throws allowed (tailEnter routine) fun _ => True := by
  refine Throws.bind (checkTop_throws hdynamic _) fun _ _ => ?_
  refine Throws.bind (popMany_throws hdynamic _) fun arguments harguments => ?_
  refine Throws.bind (frame_throws hdynamic) fun old _ => ?_
  refine Throws.bind (onCalls_throws CallStack.pop) fun _ _ => ?_
  refine Throws.bind (savedRegisters_throws hdynamic old.fp) ?_
  rintro ⟨savedFp, savedIp⟩ -
  have htruncate : Throws allowed (truncate old.base) fun _ => True := fun _ => .intro
  refine Throws.bind htruncate fun _ _ => ?_
  refine Throws.bind (pushMany_throws hoverflow fun hargument => hvoid ?_) fun _ _ => ?_
  · rw [harguments] at hargument
    exact List.mem_append_left _ (List.mem_append_left _ hargument)
  · exact layOut_throws hdynamic hoverflow hvoid savedFp savedIp

end Throws

end Machine

end StackCode
