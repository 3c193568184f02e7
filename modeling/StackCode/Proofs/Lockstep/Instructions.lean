import StackCode.Proofs.Lockstep.Bond

/-!
# Instructions in lockstep

An instruction touches memory, console and host through a few operations only.  A pairing
of machines that respects these operations is kept by every instruction, by every call and
by every return.  No instruction looks at the fuel that is left.

Main definition: `Pairing.Lawful`: the operations that a pairing has to respect.

Main results:

- Theorem `Pairing.leave_keeps`: returns.
- Theorems `Pairing.enter_keeps`, `Pairing.tailEnter_keeps`: activations that are opened.
- Theorem `Pairing.execute_keeps`: every instruction.
-/

namespace StackCode

namespace Pairing

open Machine

/-- What a pairing of machines that run with two setups has to respect: what the machines
can see of their memories, and the operations that change memory and console. -/
structure Lawful (pairing : Pairing) (setup other : Setup) : Prop where
  module_eq : other.module = setup.module
  host_eq : other.host = setup.host
  depths : other.limits.maxCallDepth = setup.limits.maxCallDepth ∨
    setup.limits.maxCallDepth ≤ other.limits.maxCallDepth ∧
      ∀ memory, pairing.memory.Excused .stackOverflow memory
  fails : ∀ {fault : Fault} {memory second : Memory}, fault ≠ .outOfFuel →
    pairing.memory.Tied memory second → pairing.memory.Failed fault memory second
  sp_eq : ∀ {memory second : Memory}, pairing.memory.Tied memory second →
    second.arena.sp = memory.arena.sp
  tags_eq : ∀ {memory second : Memory}, pairing.memory.Tied memory second →
    second.arena.tags = memory.arena.tags
  read_eq : ∀ {memory second : Memory}, pairing.memory.Tied memory second →
    ∀ offset type, second.arena.read offset type = memory.arena.read offset type
  pushes : ∀ value, pairing.memory.Keeps (fun _ => True) (Memory.onArena (Arena.push value))
    (Memory.onArena (Arena.push value))
  pops : ∀ type floor, pairing.memory.Keeps (fun value => value.type = type)
    (Memory.onArena (Arena.pop type floor)) (Memory.onArena (Arena.pop type floor))
  writes : ∀ offset value, pairing.memory.Keeps (fun _ => True)
    (Memory.onArena (Arena.write offset value)) (Memory.onArena (Arena.write offset value))
  truncates : ∀ offset, pairing.memory.Keeps (fun _ => True)
    (Memory.onArena fun arena => .ok () (arena.truncate offset))
    (Memory.onArena fun arena => .ok () (arena.truncate offset))
  loads : ∀ address {type : DataType}, type ≠ .void → pairing.bond.Keeps (fun _ => True)
    (inspect fun machine => machine.memory.read address type)
    (inspect fun machine => machine.memory.read address type)
  stores : ∀ address {value : Value}, value.type ≠ .void → pairing.memory.Keeps (fun _ => True)
    (Memory.write address value) (Memory.write address value)
  places : ∀ index resource, pairing.bond.Keeps (fun _ => True) (placeResource index resource)
    (placeResource index resource)
  prints : ∀ {console second : Console} (bytes : List UInt8), pairing.Consoles console second →
    pairing.Consoles (console.write bytes) (second.write bytes)
  reads : ∀ {console second : Console}, pairing.Consoles console second →
    second.readByte.1 = console.readByte.1 ∧
      pairing.Consoles console.readByte.2 second.readByte.2
  hosts : ∀ {library name : String} {function : HostFunction},
    setup.host.find? library name = some function → ∀ arguments,
      pairing.bond.Keeps (fun _ => True) (runHost (function arguments))
        (runHost (function arguments))

variable {α : Type} {known : α → Prop} {pairing : Pairing} {setup other : Setup}
  (hlawful : pairing.Lawful setup other)
include hlawful

/-! ## Faults -/

/-- Every fault but a lack of fuel is found by both. -/
theorem throw_keeps {fault : Fault} (hfuel : fault ≠ .outOfFuel) :
    pairing.bond.Keeps known (throw fault) (throw fault) := by
  constructor
  · intro machine hlost
    exact pairing.bond.excused_of_lost fault hlost
  · intro machine second htied
    exact .inr (.error ⟨hlawful.fails hfuel htied.1, htied.2⟩)

/-- A result that is not a lack of fuel. -/
theorem lift_keeps {result : Except Fault α} (hresult : Allows (· ≠ .outOfFuel) known result) :
    pairing.bond.Keeps known (lift result) (lift result) := by
  cases result with
  | ok value => exact .pure hresult
  | error fault => exact throw_keeps hlawful hresult

/-- Looking at what both machines see in the same way. -/
theorem view_keeps {view : Machine → Except Fault α}
    (hviews : ∀ machine second, pairing.bond.Tied machine second → view second = view machine)
    (hallows : ∀ machine, Allows (· ≠ .outOfFuel) known (view machine)) :
    pairing.bond.Keeps known (inspect view) (inspect view) := by
  apply inspect_keeps hviews
  · intro machine result hresult
    have hknown := hallows machine
    rwa [hresult] at hknown
  · intro machine second fault htied hfault
    have hfuel := hallows machine
    rw [hfault] at hfuel
    exact ⟨hlawful.fails hfuel htied.1, htied.2⟩

/-! ## Operands -/

theorem frame_keeps : pairing.bond.Keeps (fun _ => True) frame frame := by
  apply view_keeps hlawful
  · intro machine second htied
    rw [htied.2.calls_eq]
  · intro machine
    cases machine.calls.top? with
    | none => exact nofun
    | some found => exact .intro

omit hlawful in
theorem floor_keeps : pairing.bond.Keeps (fun _ => True) floor floor :=
  inspect_calls_keeps CallStack.floor

theorem sp_keeps : pairing.bond.Keeps (fun _ => True) sp sp := by
  apply view_keeps hlawful
  · intro machine second htied
    rw [hlawful.sp_eq htied.1]
  · exact fun _ => .intro

theorem onArena_push_keeps (value : Value) :
    pairing.bond.Keeps (fun _ => True) (onArena (Arena.push value))
      (onArena (Arena.push value)) :=
  onMemory_keeps (hlawful.pushes value)

theorem push_keeps (value : Value) :
    pairing.bond.Keeps (fun _ => True) (push value) (push value) :=
  .bind (onArena_push_keeps hlawful value) fun _ _ => .pure .intro

theorem pop_keeps (type : DataType) :
    pairing.bond.Keeps (fun value => value.type = type) (pop type) (pop type) :=
  .bind floor_keeps fun floor _ => onMemory_keeps (hlawful.pops type floor)

theorem popInto_keeps (types : List DataType) (values : List Value) :
    pairing.bond.Keeps (fun _ => True) (popInto values types) (popInto values types) := by
  induction types generalizing values with
  | nil => exact .pure .intro
  | cons type types ih => exact .bind (pop_keeps hlawful type) fun value _ => ih (value :: values)

theorem popMany_keeps (types : List DataType) :
    pairing.bond.Keeps (fun _ => True) (popMany types) (popMany types) :=
  popInto_keeps hlawful types.reverse []

theorem pushMany_keeps (values : List Value) :
    pairing.bond.Keeps (fun _ => True) (pushMany values) (pushMany values) := by
  induction values with
  | nil => exact .pure .intro
  | cons value values ih => exact .bind (push_keeps hlawful value) fun _ _ => ih

omit hlawful in
theorem checkTags_allows (floor : Nat) (tags : List (Nat × DataType)) (types : List DataType) :
    Allows (· ≠ .outOfFuel) (fun _ => True) (Arena.checkTags floor tags types) := by
  fun_induction Arena.checkTags floor tags types with
  | case1 => exact nofun
  | case2 => exact nofun
  | case3 offset found tags expected types hfloor htype ih => exact ih
  | case4 => exact .intro

theorem checkTop_keeps (types : List DataType) :
    pairing.bond.Keeps (fun _ => True) (checkTop types) (checkTop types) := by
  apply view_keeps hlawful
  · intro machine second htied
    simp only [Arena.checkTop, hlawful.tags_eq htied.1, htied.2.calls_eq]
  · intro machine
    unfold Arena.checkTop
    simp only
    split
    · exact nofun
    · exact checkTags_allows _ _ types

theorem readSlot_keeps (offset : Nat) (type : DataType) :
    pairing.bond.Keeps (fun _ => True) (readSlot offset type) (readSlot offset type) := by
  apply view_keeps hlawful
  · intro machine second htied
    exact hlawful.read_eq htied.1 offset type
  · intro machine
    unfold Arena.read
    split
    · exact .intro
    · exact nofun

theorem writeSlot_keeps (offset : Nat) (value : Value) :
    pairing.bond.Keeps (fun _ => True) (writeSlot offset value) (writeSlot offset value) :=
  onMemory_keeps (hlawful.writes offset value)

theorem truncate_keeps (offset : Nat) :
    pairing.bond.Keeps (fun _ => True) (truncate offset) (truncate offset) :=
  onMemory_keeps (hlawful.truncates offset)

/-! ## Console -/

theorem print_keeps (bytes : List UInt8) :
    pairing.bond.Keeps (fun _ => True) (print bytes) (print bytes) := by
  constructor
  · intro machine hlost
    exact ⟨.intro, hlost⟩
  · intro machine second htied
    rcases htied with ⟨hmemory, halike⟩
    exact .inr (.ok .intro ⟨hmemory, hlawful.prints bytes halike.consoles, halike.notes, halike.meters,
      halike.calls_eq, halike.peak_eq⟩)

theorem readChar_keeps : pairing.bond.Keeps (fun _ => True) readChar readChar := by
  constructor
  · intro machine hlost
    exact ⟨.intro, hlost⟩
  · intro machine second htied
    rcases htied with ⟨hmemory, halike⟩
    rcases hlawful.reads halike.consoles with ⟨hbyte, hconsoles⟩
    right
    simp only [readChar, hbyte]
    exact .ok .intro ⟨hmemory, hconsoles, halike.notes, halike.meters, halike.calls_eq, halike.peak_eq⟩

/-! ## Moves -/

theorem localSlot_keeps (routine : Routine) (index : LocalIndex) :
    pairing.bond.Keeps (fun _ => True) (localSlot routine index) (localSlot routine index) := by
  apply Bond.Keeps.bind (frame_keeps hlawful)
  intro current _
  split
  · exact .pure .intro
  · exact throw_keeps hlawful nofun

theorem argumentSlot_keeps (routine : Routine) (index : ArgumentIndex) :
    pairing.bond.Keeps (fun _ => True) (argumentSlot routine index)
      (argumentSlot routine index) := by
  apply Bond.Keeps.bind (frame_keeps hlawful)
  intro current _
  split
  · exact .pure .intro
  · exact throw_keeps hlawful nofun

theorem operandValue_keeps (module : Module) (routine : Routine) (operand : Operand) :
    pairing.bond.Keeps (fun _ => True) (operandValue module routine operand)
      (operandValue module routine operand) := by
  cases operand with
  | const value => exact .pure .intro
  | localVar index =>
    exact .bind (localSlot_keeps hlawful routine index) fun slot _ =>
      readSlot_keeps hlawful slot.1 slot.2
  | argument index =>
    exact .bind (argumentSlot_keeps hlawful routine index) fun slot _ =>
      readSlot_keeps hlawful slot.1 slot.2
  | localAddress index =>
    exact .bind (localSlot_keeps hlawful routine index) fun _ _ => .pure .intro
  | argumentAddress index =>
    exact .bind (argumentSlot_keeps hlawful routine index) fun _ _ => .pure .intro
  | resource index =>
    simp only [operandValue]
    cases module.resources.get? index with
    | none => exact throw_keeps hlawful nofun
    | some resource => exact .bind (hlawful.places index resource) fun _ _ => .pure .intro
  | routine id =>
    simp only [operandValue]
    split
    · exact throw_keeps hlawful nofun
    · exact .pure .intro

theorem pushOperand_keeps (module : Module) (routine : Routine) (operand : Operand) :
    pairing.bond.Keeps (fun _ => True) (pushOperand module routine operand)
      (pushOperand module routine operand) :=
  .bind (operandValue_keeps hlawful module routine operand) fun value _ =>
    push_keeps hlawful value

theorem popOperand_keeps (routine : Routine) (operand : Operand) :
    pairing.bond.Keeps (fun _ => True) (popOperand routine operand)
      (popOperand routine operand) := by
  cases operand with
  | const value => exact .bind (pop_keeps hlawful _) fun _ _ => .pure .intro
  | localVar index =>
    exact .bind (localSlot_keeps hlawful routine index) fun slot _ =>
      .bind (pop_keeps hlawful slot.2) fun value _ => writeSlot_keeps hlawful slot.1 value
  | argument index =>
    exact .bind (argumentSlot_keeps hlawful routine index) fun slot _ =>
      .bind (pop_keeps hlawful slot.2) fun value _ => writeSlot_keeps hlawful slot.1 value
  | localAddress index => exact throw_keeps hlawful nofun
  | argumentAddress index => exact throw_keeps hlawful nofun
  | resource index => exact throw_keeps hlawful nofun
  | routine id => exact throw_keeps hlawful nofun

/-! ## Typed instructions -/

theorem load_keeps {type : DataType} (hstorable : type ≠ .void) :
    pairing.bond.Keeps (fun _ => True) (load type) (load type) :=
  .bind (pop_keeps hlawful .pointer) fun address _ =>
    .bind (hlawful.loads address.raw hstorable) fun value _ => push_keeps hlawful value

theorem store_keeps {type : DataType} (hstorable : type ≠ .void) :
    pairing.bond.Keeps (fun _ => True) (store type) (store type) := by
  apply Bond.Keeps.bind (pop_keeps hlawful type)
  intro value htype
  apply Bond.Keeps.bind (pop_keeps hlawful .pointer)
  intro address _
  apply onMemory_keeps (hlawful.stores address.raw _)
  rwa [htype]

/-- What arithmetic gives is pushed. -/
theorem push_computed_keeps {opcode : Opcode} {type : DataType} {result : Except Fault Value}
    (hresult : Numeric.Computes opcode type result) :
    pairing.bond.Keeps (fun _ => True) (lift result >>= push) (lift result >>= push) := by
  have hallows : Allows (· ≠ .outOfFuel) (fun _ => True) result := by
    cases result with
    | ok value => exact .intro
    | error fault =>
      rcases hresult with rfl | ⟨rfl, _⟩
      · exact nofun
      · exact nofun
  exact .bind (lift_keeps hlawful hallows) fun value _ => push_keeps hlawful value

theorem typed_keeps {opcode : Opcode} (type : DataType) (hshape : opcode.shape = .typed) :
    pairing.bond.Keeps (fun _ => True) (typed opcode type) (typed opcode type) := by
  unfold typed
  by_cases hvoid : type = .void
  · rw [if_pos hvoid]
    exact throw_keeps hlawful nofun
  · rw [if_neg hvoid]
    have hunary : opcode.isUnary = true →
        pairing.bond.Keeps (fun _ => True) (unary opcode type) (unary opcode type) := by
      intro hopcode
      exact .bind (pop_keeps hlawful type) fun a _ =>
        push_computed_keeps hlawful (Numeric.unary_cases hopcode hvoid a)
    have hbinary : opcode.isBinary = true →
        pairing.bond.Keeps (fun _ => True) (binary opcode type) (binary opcode type) := by
      intro hopcode
      exact .bind (pop_keeps hlawful type) fun b _ => .bind (pop_keeps hlawful type) fun a _ =>
        push_computed_keeps hlawful (Numeric.binary_cases hopcode hvoid a b)
    cases opcode with
    | load => exact load_keeps hlawful hvoid
    | store => exact store_keeps hlawful hvoid
    | negate | increment | decrement | not => exact hunary rfl
    | print => exact .bind (pop_keeps hlawful type) fun value _ => print_keeps hlawful _
    | add | subtract | multiply | divide | modulo | and | or | xor | shiftLeft | shiftRight =>
      exact hbinary rfl
    | _ => cases hshape

/-! ## Conversions, comparisons and jumps -/

theorem convert_keeps (source target : DataType) :
    pairing.bond.Keeps (fun _ => True)
      (do
        let value ← pop source
        push (← lift (Numeric.cast value target))
        return Flow.proceed)
      (do
        let value ← pop source
        push (← lift (Numeric.cast value target))
        return Flow.proceed) := by
  apply Bond.Keeps.bind (pop_keeps hlawful source)
  intro value _
  have hallows : Allows (· ≠ .outOfFuel) (fun _ => True) (Numeric.cast value target) := by
    have hcast := Numeric.cast_cases value target
    cases hresult : Numeric.cast value target with
    | ok result => exact .intro
    | error fault =>
      rw [hresult] at hcast
      rw [hcast.1]
      exact nofun
  apply Bond.Keeps.bind (lift_keeps hlawful hallows)
  intro result _
  exact .bind (push_keeps hlawful result) fun _ _ => .pure .intro

theorem test_keeps (comparison : Comparison) (type : DataType) :
    pairing.bond.Keeps (fun _ => True) (test comparison type) (test comparison type) := by
  have hcompare : ∀ a b : Value, pairing.bond.Keeps (fun _ => True)
      (lift (Numeric.compare comparison type a b))
      (lift (Numeric.compare comparison type a b)) := by
    intro a b
    apply lift_keeps hlawful
    unfold Numeric.compare
    split
    · exact nofun
    · exact .intro
  unfold test
  split
  · exact .bind (pop_keeps hlawful type) fun b _ =>
      .bind (pop_keeps hlawful type) fun a _ => hcompare a b
  · rw [pure_bind]
    exact .bind (pop_keeps hlawful type) fun a _ => hcompare a (.zero type)

theorem conditional_keeps (opcode : Opcode) (comparison : Comparison) (type : DataType) :
    pairing.bond.Keeps (fun _ => True) (conditional opcode comparison type)
      (conditional opcode comparison type) := by
  apply Bond.Keeps.bind (test_keeps hlawful comparison type)
  intro holds _
  split
  · split
    · exact .pure .intro
    · exact .bind (frame_keeps hlawful) fun _ _ => onCalls_keeps _
  · exact push_keeps hlawful _

theorem jump_keeps (routine : Routine) (label : Label) :
    pairing.bond.Keeps (fun _ => True) (jump routine label) (jump routine label) := by
  unfold jump
  split
  · split
    · exact onCalls_keeps _
    · exact throw_keeps hlawful nofun
  · exact throw_keeps hlawful nofun

/-! ## Activations -/

theorem pushLocals_keeps (types : List DataType) (reversed : List Nat) :
    pairing.bond.Keeps (fun _ => True) (pushLocals reversed types)
      (pushLocals reversed types) := by
  induction types generalizing reversed with
  | nil => exact .pure .intro
  | cons type types ih =>
    exact .bind (onArena_push_keeps hlawful (.zero type)) fun offset _ => ih (offset :: reversed)

theorem layOut_keeps (routine : Routine) (savedFp : UInt64) (savedIp : UInt32) :
    pairing.bond.Keeps (fun _ => True) (layOut routine savedFp savedIp)
      (layOut routine savedFp savedIp) := by
  apply Bond.Keeps.bind (sp_keeps hlawful)
  intro header _
  cases offsetsBelow header [] routine.parameters.reverse with
  | none => exact throw_keeps hlawful nofun
  | some found =>
    apply Bond.Keeps.bind (push_keeps hlawful _)
    intro _ _
    apply Bond.Keeps.bind (push_keeps hlawful _)
    intro _ _
    apply Bond.Keeps.bind (sp_keeps hlawful)
    intro fp _
    apply Bond.Keeps.bind (pushLocals_keeps hlawful routine.locals.toList [])
    intro locals _
    exact .bind (sp_keeps hlawful) fun floor _ => pushFrame_keeps _

/-- The depth of the call stack with the registers that an activation saves. -/
def callRegisters (calls : CallStack) : Nat × UInt64 × UInt32 :=
  (calls.depth,
    match calls.top? with
    | some frame => (frame.fp.toUInt64, frame.ip.toUInt32)
    | none => (0, 0))

/-- Opening an activation.  The second machine may allow deeper nesting if an overflow of
the first one is excused. -/
theorem enter_keeps (routine : Routine) :
    pairing.bond.Keeps (fun _ => True) (enter setup.limits routine)
      (enter other.limits routine) := by
  apply Bond.Keeps.bind (inspect_calls_keeps callRegisters)
  intro seen _
  rcases seen with ⟨depth, savedFp, savedIp⟩
  have hopens : pairing.bond.Keeps (fun _ => True)
      (do checkTop routine.parameters; layOut routine savedFp savedIp)
      (do checkTop routine.parameters; layOut routine savedFp savedIp) :=
    .bind (checkTop_keeps hlawful routine.parameters) fun _ _ =>
      layOut_keeps hlawful routine savedFp savedIp
  simp only
  rcases hlawful.depths with hsame | ⟨hdeeper, hexcused⟩
  · rw [hsame]
    split
    · exact throw_keeps hlawful (by simp)
    · exact hopens
  · by_cases hfull : setup.limits.maxCallDepth ≤ depth
    · rw [if_pos hfull]
      exact ⟨fun {machine} _ => hexcused machine.memory,
        fun {machine _} _ => .inl (hexcused machine.memory)⟩
    · rw [if_neg hfull]
      by_cases hdeep : other.limits.maxCallDepth ≤ depth
      · omega
      · rw [if_neg hdeep]
        exact hopens

theorem savedRegisters_keeps (fp : Nat) :
    pairing.bond.Keeps (fun _ => True) (savedRegisters fp) (savedRegisters fp) := by
  unfold savedRegisters
  split
  · exact throw_keeps hlawful nofun
  · exact .bind (readSlot_keeps hlawful _ _) fun savedFp _ =>
      .bind (readSlot_keeps hlawful _ _) fun savedIp _ => .pure .intro

theorem tailEnter_keeps (routine : Routine) :
    pairing.bond.Keeps (fun _ => True) (tailEnter routine) (tailEnter routine) := by
  apply Bond.Keeps.bind (checkTop_keeps hlawful routine.parameters)
  intro _ _
  apply Bond.Keeps.bind (popMany_keeps hlawful routine.parameters)
  intro arguments _
  apply Bond.Keeps.bind (frame_keeps hlawful)
  intro old _
  apply Bond.Keeps.bind (onCalls_keeps CallStack.pop)
  intro _ _
  apply Bond.Keeps.bind (savedRegisters_keeps hlawful old.fp)
  intro saved _
  apply Bond.Keeps.bind (truncate_keeps hlawful old.base)
  intro _ _
  apply Bond.Keeps.bind (pushMany_keeps hlawful arguments)
  intro _ _
  exact layOut_keeps hlawful routine saved.1 saved.2

theorem popResult_keeps (type : DataType) :
    pairing.bond.Keeps (fun _ => True) (popResult type) (popResult type) := by
  unfold popResult
  split
  · exact .pure .intro
  · exact .bind (pop_keeps hlawful type) fun value _ => .pure .intro

/-- Closing an activation. -/
theorem leave_keeps : pairing.bond.Keeps (fun _ => True) leave leave := by
  apply Bond.Keeps.bind (frame_keeps hlawful)
  intro old _
  apply Bond.Keeps.bind (popResult_keeps hlawful old.routine.returnType)
  intro result _
  apply Bond.Keeps.bind (savedRegisters_keeps hlawful old.fp)
  intro saved _
  apply Bond.Keeps.bind (truncate_keeps hlawful old.base)
  intro _ _
  apply Bond.Keeps.bind (onCalls_keeps CallStack.pop)
  intro _ _
  apply Bond.Keeps.bind (inspect_calls_keeps fun calls => calls.frames.isEmpty)
  intro isLast _
  split
  · exact .pure .intro
  · apply Bond.Keeps.bind (onCalls_keeps _)
    intro _ _
    cases result with
    | none => exact .pure .intro
    | some value => exact .bind (push_keeps hlawful value) fun _ _ => .pure .intro

/-! ## Calls -/

theorem callExternal_keeps (function : External) :
    pairing.bond.Keeps (fun _ => True) (callExternal setup.host function)
      (callExternal other.host function) := by
  rw [hlawful.host_eq]
  apply Bond.Keeps.bind (checkTop_keeps hlawful function.parameters)
  intro _ _
  cases hprogram : setup.host.find? function.library function.name with
  | none => exact throw_keeps hlawful nofun
  | some program =>
    apply Bond.Keeps.bind (popMany_keeps hlawful function.parameters)
    intro arguments _
    apply Bond.Keeps.bind (hlawful.hosts hprogram arguments)
    intro result _
    cases result with
    | some value =>
      simp only
      split
      · exact push_keeps hlawful value
      · exact throw_keeps hlawful nofun
    | none =>
      simp only
      split
      · exact .pure .intro
      · exact throw_keeps hlawful nofun

theorem callee_keeps (target : CallTarget) :
    pairing.bond.Keeps (fun _ => True) (callee setup.module target)
      (callee other.module target) := by
  rw [hlawful.module_eq]
  cases target with
  | definition id =>
    simp only [callee]
    split
    · exact .pure .intro
    · exact throw_keeps hlawful nofun
  | indirect expected =>
    apply Bond.Keeps.bind (pop_keeps hlawful .pointer)
    intro address _
    have hallows : Allows (· ≠ .outOfFuel) (fun _ => True)
        (functionAt setup.module address.raw) := by
      unfold functionAt
      split
      · exact .intro
      · split
        · exact nofun
        · exact nofun
    apply Bond.Keeps.bind (lift_keeps hlawful hallows)
    intro definition _
    split
    · exact .pure .intro
    · exact throw_keeps hlawful nofun

theorem call_keeps (mode : CallMode) (target : CallTarget) :
    pairing.bond.Keeps (fun _ => True) (call setup mode target) (call other mode target) := by
  apply Bond.Keeps.bind (callee_keeps hlawful target)
  intro definition _
  cases definition with
  | routine routine =>
    cases mode with
    | direct => exact .bind (enter_keeps hlawful routine) fun _ _ => .pure .intro
    | tail => exact .bind (tailEnter_keeps hlawful routine) fun _ _ => .pure .intro
  | external function =>
    cases mode with
    | direct => exact .bind (callExternal_keeps hlawful function) fun _ _ => .pure .intro
    | tail => exact .bind (callExternal_keeps hlawful function) fun _ _ => leave_keeps hlawful

/-! ## Instructions -/

theorem simple_keeps (opcode : Opcode) :
    pairing.bond.Keeps (fun _ => True) (simple opcode) (simple opcode) := by
  unfold simple
  split
  · exact .pure .intro
  · exact leave_keeps hlawful
  · exact .bind (pop_keeps hlawful .u8) fun value _ =>
      .bind (print_keeps hlawful _) fun _ _ => .pure .intro
  · apply Bond.Keeps.bind (readChar_keeps hlawful)
    intro byte? _
    cases byte? with
    | some byte => exact .bind (push_keeps hlawful _) fun _ _ => .pure .intro
    | none => exact .bind (push_keeps hlawful _) fun _ _ => .pure .intro
  · exact throw_keeps hlawful nofun

/-- Every instruction, well formed or not, of every routine. -/
theorem execute_keeps (routine : Routine) (instruction : Instruction) :
    pairing.bond.Keeps (fun _ => True) (execute setup routine instruction)
      (execute other routine instruction) := by
  unfold execute
  cases hformed : instruction.isWellFormed with
  | false => exact throw_keeps hlawful nofun
  | true =>
    cases instruction with
    | simple opcode => exact simple_keeps hlawful opcode
    | typed opcode type =>
      have hshape : opcode.shape = .typed := by
        simpa [Instruction.isWellFormed, Instruction.opcode, Instruction.shape] using hformed
      exact .bind (typed_keeps hlawful type hshape) fun _ _ => .pure .intro
    | convert opcode source target => exact convert_keeps hlawful source target
    | conditional opcode comparison type =>
      exact .bind (conditional_keeps hlawful opcode comparison type) fun _ _ => .pure .intro
    | branch opcode label =>
      exact .bind (jump_keeps hlawful routine label) fun _ _ => .pure .intro
    | stack opcode operand =>
      cases opcode with
      | push =>
        rw [hlawful.module_eq]
        exact .bind (pushOperand_keeps hlawful _ routine operand) fun _ _ => .pure .intro
      | pop => exact .bind (popOperand_keeps hlawful routine operand) fun _ _ => .pure .intro
      | _ => cases hformed
    | call opcode mode target => exact call_keeps hlawful mode target

end Pairing

end StackCode
