import StackCode.Proofs.Lockstep.Runs
import StackCode.Proofs.Numeric.Wrapping
import StackCode.Proofs.Structured.Refinement

/-!
# Following code

What each instruction of the machine with activation records does, as a step from one state
to the next, so that a program can be followed step by step.  A module of plain routines
that ends on this machine ends in the same way on the machine with a packed arena.

All steps here are taken without a limit of fuel.

Main definitions:

- `Value.Kept`: a value that can be pushed and is read back as it is.
- `Structured.Steps`: states that a number of steps lead to.
- `Structured.Activation.after`: an activation at another position with other operands.

Main results:

- Theorems `Structured.step_push`, `step_popLocal`, `step_typed`, `step_print`,
  `step_guard`, `step_jump`: instructions that stay in the routine.
- Theorems `Structured.step_call`, `step_call_overflow`, `step_return`, `step_finish`: calls and
  returns.
- Theorem `Machine.account_run`: a run that ends on the machine with activation records.
-/

namespace StackCode

/-- A value that can be pushed and is read back as it is. -/
structure Value.Kept (value : Value) : Prop where
  type_ne : value.type ≠ .void
  stored_eq : value.stored = value

/-- The value that stands for an integer is kept. -/
theorem Value.kept_ofInt {type : DataType} (htype : type ≠ .void) (n : Int) :
    (Value.ofInt type n).Kept :=
  ⟨htype, Value.stored_ofInt type n⟩

theorem Value.kept_i32 (n : Int) : (Value.ofInt .i32 n).Kept :=
  kept_ofInt (by decide) n

namespace Structured

/-! ## Steps -/

/-- Exactly `steps` steps lead from one state to another. -/
def Steps (module : Module) (limits : Limits) (steps : Nat) (state next : State) : Prop :=
  runFor module limits steps state = .running next

section Steps

variable {module : Module} {limits : Limits} {state middle next : State} {steps more : Nat}

theorem Steps.refl (module : Module) (limits : Limits) (state : State) :
    Steps module limits 0 state state :=
  rfl

/-- A step in front of others. -/
theorem Steps.cons (hstep : step module limits state = .running middle)
    (hrest : Steps module limits steps middle next) :
    Steps module limits (steps + 1) state next := by
  unfold Steps at *
  rwa [runFor, hstep]

/-- What comes after some steps goes on from where they lead. -/
theorem Steps.runFor_add (hsteps : Steps module limits steps state next) (more : Nat) :
    runFor module limits (steps + more) state = runFor module limits more next := by
  induction steps generalizing state with
  | zero =>
    cases hsteps
    rw [Nat.zero_add]
  | succ steps ih =>
    unfold Steps at hsteps
    rw [runFor] at hsteps
    rw [Nat.succ_add, runFor]
    cases hstep : step module limits state with
    | running middle =>
      rw [hstep] at hsteps
      exact ih hsteps
    | returned result surface =>
      rw [hstep] at hsteps
      cases hsteps
    | trapped trap surface =>
      rw [hstep] at hsteps
      cases hsteps

theorem Steps.trans (hfirst : Steps module limits steps state middle)
    (hsecond : Steps module limits more middle next) :
    Steps module limits (steps + more) state next := by
  unfold Steps
  rw [hfirst.runFor_add]
  exact hsecond

/-- The step at which a run returns, after others. -/
theorem Steps.returned {result : Option Value} {surface : Surface}
    (hsteps : Steps module limits steps state next)
    (hlast : step module limits next = .returned result surface) :
    runFor module limits (steps + 1) state = .returned result surface := by
  rw [hsteps.runFor_add, runFor, hlast]

/-- The step at which a run traps, after others. -/
theorem Steps.trapped {trap : Trap} {surface : Surface}
    (hsteps : Steps module limits steps state next)
    (hlast : step module limits next = .trapped trap surface) :
    runFor module limits (steps + 1) state = .trapped trap surface := by
  rw [hsteps.runFor_add, runFor, hlast]

end Steps

/-! ## Instructions that stay in the routine -/

/-- The activation at another position with other operands. -/
def Activation.after (current : Activation) (ip : Nat) (operands : List Value) : Activation :=
  { current with ip, operands }

/-- The activation with other locals. -/
def Activation.withLocals (current : Activation) (locals : List Value) : Activation :=
  { current with locals }

theorem Activation.size_after (current : Activation) (ip : Nat) (operands : List Value) :
    (current.after ip operands).size = packedSize current.arguments + headerSize +
      packedSize current.locals + packedSize operands :=
  rfl

/-- The surface after one more instruction. -/
def Surface.counted (surface : Surface) : Surface :=
  { surface with executed := surface.executed + 1 }

/-- The surface after bytes were written. -/
def Surface.printed (surface : Surface) (bytes : List UInt8) : Surface :=
  { surface with console := surface.console.write bytes }

/-- An activation as an instruction finds it. -/
def Surface.scene (surface : Surface) (current : Activation) : Scene :=
  ⟨current, surface.console, surface.placement⟩

section Scenes

variable {current : Activation} {callers : List Activation} {surface : Surface} {ip : Nat}
  {operands : List Value} {value : Value} {capacity : Nat} {module : Module}

/-- Popping the topmost operand. -/
theorem pop_after {type : DataType} (htype : value.type = type) :
    pop type (surface.scene (current.after ip (value :: operands))) =
      .ok value (surface.scene (current.after ip operands)) :=
  pop_eq_ok.mpr ⟨operands, rfl, htype, rfl⟩

/-- Pushing a value that fits above all activations. -/
theorem push_after (hkept : value.Kept)
    (hroom : usedBytes (current.after ip (value :: operands) :: callers) ≤ capacity) :
    push (capacity - usedBytes callers) value (surface.scene (current.after ip operands)) =
      .ok () (surface.scene (current.after ip (value :: operands))) := by
  rw [usedBytes_cons, Activation.size_after, packedSize_cons] at hroom
  have hsize : (surface.scene (current.after ip operands)).current.size = _ :=
    current.size_after ip operands
  have hfits : ¬ capacity - usedBytes callers <
      (surface.scene (current.after ip operands)).current.size + value.size := by
    omega
  rw [push, if_neg hkept.type_ne, if_neg hfits, hkept.stored_eq]
  rfl

/-- Whether an opcode is an operation on one operand. -/
def isUnary : Opcode → Bool
  | .negate | .increment | .decrement | .not => true
  | _ => false

/-- Whether an opcode is an operation on two operands. -/
def isBinary : Opcode → Bool
  | .add | .subtract | .multiply | .divide | .modulo | .and | .or | .xor | .shiftLeft
  | .shiftRight => true
  | _ => false

/-- Replacing the topmost operand. -/
theorem typed_unary {opcode : Opcode} {type : DataType} {a result : Value}
    (hunary : isUnary opcode = true) (hvoid : type ≠ .void) (ha : a.type = type)
    (hresult : Numeric.unary opcode type a = .ok result) (hkept : result.Kept)
    (hroom : usedBytes (current.after ip (result :: operands) :: callers) ≤ capacity) :
    typed (capacity - usedBytes callers) opcode type
        (surface.scene (current.after ip (a :: operands))) =
      .ok () (surface.scene (current.after ip (result :: operands))) := by
  have hlift : lift (Numeric.unary opcode type a) (surface.scene (current.after ip operands)) =
      .ok result (surface.scene (current.after ip operands)) := lift_eq_ok.mpr ⟨hresult, rfl⟩
  have hreplace : (pop type >>= fun a => lift (Numeric.unary opcode type a) >>=
      push (capacity - usedBytes callers)) (surface.scene (current.after ip (a :: operands))) =
        .ok () (surface.scene (current.after ip (result :: operands))) :=
    bind_eq_ok.mpr ⟨_, _, pop_after ha, bind_eq_ok.mpr ⟨_, _, hlift, push_after hkept hroom⟩⟩
  unfold typed
  rw [if_neg hvoid]
  cases opcode with
  | negate => exact hreplace
  | increment => exact hreplace
  | decrement => exact hreplace
  | not => exact hreplace
  | _ => cases hunary

/-- Replacing the two topmost operands. -/
theorem typed_binary {opcode : Opcode} {type : DataType} {a b result : Value}
    (hbinary : isBinary opcode = true) (hvoid : type ≠ .void) (ha : a.type = type)
    (hb : b.type = type) (hresult : Numeric.binary opcode type a b = .ok result)
    (hkept : result.Kept)
    (hroom : usedBytes (current.after ip (result :: operands) :: callers) ≤ capacity) :
    typed (capacity - usedBytes callers) opcode type
        (surface.scene (current.after ip (b :: a :: operands))) =
      .ok () (surface.scene (current.after ip (result :: operands))) := by
  have hlift : lift (Numeric.binary opcode type a b)
      (surface.scene (current.after ip operands)) =
        .ok result (surface.scene (current.after ip operands)) := lift_eq_ok.mpr ⟨hresult, rfl⟩
  have hreplace : (pop type >>= fun b => pop type >>= fun a =>
      lift (Numeric.binary opcode type a b) >>= push (capacity - usedBytes callers))
        (surface.scene (current.after ip (b :: a :: operands))) =
          .ok () (surface.scene (current.after ip (result :: operands))) :=
    bind_eq_ok.mpr ⟨_, _, pop_after hb, bind_eq_ok.mpr ⟨_, _, pop_after ha,
      bind_eq_ok.mpr ⟨_, _, hlift, push_after hkept hroom⟩⟩⟩
  unfold typed
  rw [if_neg hvoid]
  cases opcode with
  | add => exact hreplace
  | subtract => exact hreplace
  | multiply => exact hreplace
  | divide => exact hreplace
  | modulo => exact hreplace
  | and => exact hreplace
  | or => exact hreplace
  | xor => exact hreplace
  | shiftLeft => exact hreplace
  | shiftRight => exact hreplace
  | _ => cases hbinary

/-- A comparison of the two topmost operands. -/
theorem test_after {comparison : Comparison} {type : DataType} {a b : Value} {holds : Bool}
    (harity : comparison.arity = 2) (ha : a.type = type) (hb : b.type = type)
    (hcompare : Numeric.compare comparison type a b = .ok holds) :
    test comparison type (surface.scene (current.after ip (b :: a :: operands))) =
      .ok holds (surface.scene (current.after ip operands)) := by
  rw [test, if_pos harity]
  exact bind_eq_ok.mpr ⟨_, _, pop_after hb, bind_eq_ok.mpr
    ⟨_, _, pop_after ha, lift_eq_ok.mpr ⟨hcompare, rfl⟩⟩⟩

end Scenes

section Instructions

variable {module : Module} {limits : Limits} {current : Activation} {callers : List Activation}
  {surface : Surface} {instruction : Instruction} {ip : Nat} {operands : List Value}

/-- Without a limit of fuel the next instruction is counted and executed, and what it asks
for is carried out. -/
theorem advance_of_execute {effect : Effect} {scene : Scene}
    (hcode : current.routine.code[ip]? = some instruction) (hfuel : surface.fuel = none)
    (hexecute : execute module (limits.capacity - usedBytes callers) instruction
      (surface.scene (current.after (ip + 1) operands)) = .ok effect scene) :
    advance module limits ⟨current.after ip operands, callers, surface⟩ =
      perform limits ⟨scene.current, callers, surface.counted.withScene scene⟩ effect := by
  have hspent : surface.spend = .ok surface.counted := by
    simp [Surface.spend, Surface.counted, hfuel]
  have hfetched : (current.after ip operands).routine.code[(current.after ip operands).ip]? =
      some instruction := hcode
  unfold advance
  simp only [hfetched, hspent]
  exact congrArg (carryOut limits callers surface.counted) hexecute

/-- An instruction that asks for nothing. -/
theorem step_of_execute {scene : Scene} (hcode : current.routine.code[ip]? = some instruction)
    (hfuel : surface.fuel = none)
    (hexecute : execute module (limits.capacity - usedBytes callers) instruction
      (surface.scene (current.after (ip + 1) operands)) = .ok .next scene) :
    step module limits ⟨current.after ip operands, callers, surface⟩ =
      .running ⟨scene.current, callers, surface.counted.withScene scene⟩ := by
  rw [step, advance_of_execute hcode hfuel hexecute]
  rfl

/-- Pushing the value that an operand stands for. -/
theorem step_push {operand : Operand} {value : Value}
    (hcode : current.routine.code[ip]? = some (.stack .push operand))
    (hfuel : surface.fuel = none)
    (hvalue : operandValue module operand (surface.scene (current.after (ip + 1) operands)) =
      .ok value (surface.scene (current.after (ip + 1) operands)))
    (hkept : value.Kept)
    (hroom : usedBytes (current.after (ip + 1) (value :: operands) :: callers) ≤
      limits.capacity) :
    step module limits ⟨current.after ip operands, callers, surface⟩ =
      .running ⟨current.after (ip + 1) (value :: operands), callers, surface.counted⟩ :=
  step_of_execute hcode hfuel (bind_eq_ok.mpr
    ⟨_, _, bind_eq_ok.mpr ⟨_, _, hvalue, push_after hkept hroom⟩, rfl⟩)

/-- Popping into a local. -/
theorem step_popLocal {index : LocalIndex} {value old : Value}
    (hcode : current.routine.code[ip]? = some (.popLocal index)) (hfuel : surface.fuel = none)
    (hold : current.locals[index.toNat]? = some old) (htype : value.type = old.type) :
    step module limits ⟨current.after ip (value :: operands), callers, surface⟩ =
      .running ⟨(current.withLocals (current.locals.set index.toNat value)).after (ip + 1) operands,
        callers, surface.counted⟩ := by
  have hinto : popOperand (.localVar index)
      (surface.scene (current.after (ip + 1) (value :: operands))) =
        .ok () (surface.scene ((current.withLocals
          (current.locals.set index.toNat value)).after (ip + 1) operands)) := by
    have hfound : (surface.scene
        (current.after (ip + 1) (value :: operands))).current.locals[index.toNat]? = some old :=
      hold
    rw [popOperand, running_bind]
    simp only [hfound]
    exact bind_eq_ok.mpr ⟨_, _, pop_after htype, rfl⟩
  exact step_of_execute hcode hfuel (bind_eq_ok.mpr ⟨_, _, hinto, rfl⟩)

/-- An instruction on one data type that changes the running activation only. -/
theorem step_typed {opcode : Opcode} {type : DataType} {scene : Scene}
    (hcode : current.routine.code[ip]? = some (.typed opcode type)) (hfuel : surface.fuel = none)
    (hshape : opcode.shape = .typed)
    (htyped : typed (limits.capacity - usedBytes callers) opcode type
      (surface.scene (current.after (ip + 1) operands)) = .ok () scene) :
    step module limits ⟨current.after ip operands, callers, surface⟩ =
      .running ⟨scene.current, callers, surface.counted.withScene scene⟩ := by
  have hformed : (Instruction.typed opcode type).isWellFormed = true := by
    simp [Instruction.isWellFormed, Instruction.opcode, Instruction.shape, hshape]
  refine step_of_execute hcode hfuel ?_
  rw [execute, hformed]
  exact bind_eq_ok.mpr ⟨_, _, htyped, rfl⟩

/-- Printing the topmost operand on a line. -/
theorem step_print {type : DataType} {value : Value}
    (hcode : current.routine.code[ip]? = some (.typed .print type)) (hfuel : surface.fuel = none)
    (hvoid : type ≠ .void) (htype : value.type = type) :
    step module limits ⟨current.after ip (value :: operands), callers, surface⟩ =
      .running ⟨current.after (ip + 1) operands, callers,
        surface.counted.printed (Text.utf8 (value.text ++ "\n"))⟩ := by
  have htyped : typed (limits.capacity - usedBytes callers) .print type
      (surface.scene (current.after (ip + 1) (value :: operands))) =
        .ok () ((surface.printed (Text.utf8 (value.text ++ "\n"))).scene
          (current.after (ip + 1) operands)) := by
    rw [typed, if_neg hvoid]
    exact bind_eq_ok.mpr ⟨_, _, pop_after htype, rfl⟩
  exact step_typed hcode hfuel rfl htyped

/-- A guard skips the next instruction unless its comparison holds. -/
theorem step_guard {comparison : Comparison} {type : DataType} {a b : Value} {holds : Bool}
    (hcode : current.routine.code[ip]? = some (.guard comparison type))
    (hfuel : surface.fuel = none) (harity : comparison.arity = 2) (ha : a.type = type)
    (hb : b.type = type) (hcompare : Numeric.compare comparison type a b = .ok holds) :
    step module limits ⟨current.after ip (b :: a :: operands), callers, surface⟩ =
      .running ⟨current.after (if holds then ip + 1 else ip + 2) operands, callers,
        surface.counted⟩ := by
  have hguard : conditional (limits.capacity - usedBytes callers) .guard comparison type
      (surface.scene (current.after (ip + 1) (b :: a :: operands))) =
        .ok () (surface.scene (current.after (if holds then ip + 1 else ip + 2) operands)) := by
    refine bind_eq_ok.mpr ⟨holds, _, test_after harity ha hb hcompare, ?_⟩
    cases holds <;> rfl
  exact step_of_execute hcode hfuel (bind_eq_ok.mpr ⟨_, _, hguard, rfl⟩)

/-- Continuing at a label. -/
theorem step_jump {label : Label} {position : Nat}
    (hcode : current.routine.code[ip]? = some (.jump label)) (hfuel : surface.fuel = none)
    (htarget : current.routine.target? label = some position)
    (hinside : position ≤ current.routine.code.size) :
    step module limits ⟨current.after ip operands, callers, surface⟩ =
      .running ⟨current.after position operands, callers, surface.counted⟩ := by
  have hjump : jump label (surface.scene (current.after (ip + 1) operands)) =
      .ok () (surface.scene (current.after position operands)) := by
    have hfound : (surface.scene (current.after (ip + 1) operands)).current.routine.target? label =
        some position := htarget
    rw [jump, running_bind]
    simp only [hfound]
    rw [if_pos (by exact hinside)]
    rfl
  exact step_of_execute hcode hfuel (bind_eq_ok.mpr ⟨_, _, hjump, rfl⟩)

/-! ## Calls and returns -/

/-- A call of a routine asks for it. -/
theorem execute_callDefinition {id : DefinitionId} {routine : Routine} {room : Nat} {scene : Scene}
    (hfind : module.find? id = some (.routine routine)) :
    execute module room (.callDefinition id) scene = .ok (.call .direct routine) scene := by
  have hcallee : callee module (.definition id) scene = .ok (.routine routine) scene := by
    simp only [callee, hfind]
    rfl
  exact bind_eq_ok.mpr ⟨_, _, hcallee, rfl⟩

/-- Opening an activation on the topmost operands, when there is room for it. -/
theorem enter_after {routine : Routine} {arguments : List Value}
    (htypes : arguments.map Value.type = routine.parameters)
    (hdepth : callers.length + 1 < limits.maxCallDepth)
    (hroom : usedBytes (.opened routine arguments ip :: current.after ip operands :: callers) ≤
      limits.capacity) :
    enter limits routine ⟨current.after ip (arguments.reverse ++ operands), callers, surface⟩ =
      .continued ⟨.opened routine arguments ip, current.after ip operands :: callers,
        { surface with peak := max surface.peak (callers.length + 2) }⟩ := by
  have hmatch : Arena.matchTop ((arguments.reverse ++ operands).map Value.type)
      routine.parameters = .ok () := by
    rw [Arena.matchTop_eq_ok_iff, ← htypes]
    exact ⟨operands.map Value.type, by simp⟩
  have hlength : routine.parameters.length = arguments.reverse.length := by
    simp [← htypes]
  have htaken : (current.after ip (arguments.reverse ++ operands)).takeArguments
      routine.parameters = .ok (arguments, operands) := by
    simp only [Activation.takeArguments, Activation.after, hmatch, hlength, List.take_left,
      List.drop_left, List.reverse_reverse]
  have hshallow : ¬ limits.maxCallDepth ≤ callers.length + 1 := Nat.not_le.mpr hdepth
  unfold enter
  simp only [if_neg hshallow, htaken]
  exact if_neg (Nat.not_lt.mpr hroom)

/-- Calling a routine with the topmost operands as its arguments. -/
theorem step_call {id : DefinitionId} {routine : Routine} {arguments : List Value}
    (hcode : current.routine.code[ip]? = some (.callDefinition id)) (hfuel : surface.fuel = none)
    (hfind : module.find? id = some (.routine routine))
    (htypes : arguments.map Value.type = routine.parameters)
    (hdepth : callers.length + 1 < limits.maxCallDepth)
    (hroom : usedBytes (.opened routine arguments (ip + 1) ::
      current.after (ip + 1) operands :: callers) ≤ limits.capacity) :
    step module limits ⟨current.after ip (arguments.reverse ++ operands), callers, surface⟩ =
      .running ⟨.opened routine arguments (ip + 1), current.after (ip + 1) operands :: callers,
        { surface.counted with peak := max surface.peak (callers.length + 2) }⟩ := by
  have hadvance := (advance_of_execute hcode hfuel (execute_callDefinition hfind)).trans
    (@enter_after limits current callers surface.counted (ip + 1) operands routine arguments
      htypes hdepth hroom)
  rw [step, hadvance]
  rfl

/-- Calling a routine where the activations are nested as deeply as they may be. -/
theorem step_call_overflow {id : DefinitionId} {routine : Routine}
    (hcode : current.routine.code[ip]? = some (.callDefinition id)) (hfuel : surface.fuel = none)
    (hfind : module.find? id = some (.routine routine))
    (hdepth : limits.maxCallDepth ≤ callers.length + 1) :
    step module limits ⟨current.after ip operands, callers, surface⟩ =
      .trapped ⟨.stackOverflow, current.routine.name, ip⟩ surface.counted := by
  have henter : enter limits routine
      ⟨current.after (ip + 1) operands, callers, surface.counted⟩ =
        .faulted .stackOverflow surface.counted := if_pos hdepth
  have hadvance := (advance_of_execute hcode hfuel (execute_callDefinition hfind)).trans henter
  rw [step, hadvance]
  rfl

/-- Returning to the caller. -/
theorem step_return {caller : Activation} {result : Option Value}
    (hcode : current.routine.code[ip]? = some (.simple .ret)) (hfuel : surface.fuel = none)
    (hresult : (current.after (ip + 1) operands).result = .ok result) :
    step module limits ⟨current.after ip operands, caller :: callers, surface⟩ =
      .running ⟨caller.after current.resume (result.toList ++ caller.operands), callers,
        surface.counted⟩ := by
  have hleave : leave ⟨current.after (ip + 1) operands, caller :: callers, surface.counted⟩ =
      .continued ⟨caller.after current.resume (result.toList ++ caller.operands), callers,
        surface.counted⟩ := by
    unfold leave
    simp only [hresult]
    rfl
  have hadvance := (@advance_of_execute module limits _ _ _ _ _ _ .leave _ hcode hfuel rfl).trans
    hleave
  rw [step, hadvance]

/-- Returning from the first activation ends the run. -/
theorem step_finish {result : Option Value}
    (hcode : current.routine.code[ip]? = some (.simple .ret)) (hfuel : surface.fuel = none)
    (hresult : (current.after (ip + 1) operands).result = .ok result) :
    step module limits ⟨current.after ip operands, [], surface⟩ =
      .returned result surface.counted := by
  have hleave : leave ⟨current.after (ip + 1) operands, [], surface.counted⟩ =
      .finished result surface.counted := by
    unfold leave
    simp only [hresult]
  have hadvance := (@advance_of_execute module limits _ _ _ _ _ _ .leave _ hcode hfuel rfl).trans
    hleave
  rw [step, hadvance]

end Instructions

end Structured

/-! ## The machine with a packed arena -/

/-- What an observation says about the run. -/
def Observation.account (observation : Observation) : Account :=
  ⟨observation.verdict, observation.surface.console, observation.surface.executed,
    observation.surface.peak⟩

/-- A routine whose parts were looked through is plain. -/
theorem Routine.plain_of_all {routine : Routine}
    (hlocals : routine.locals.toList.all (· != .void) = true)
    (hsize : routine.code.size < 2 ^ 32)
    (hcode : routine.code.toList.all (!·.reachesMemory) = true) : routine.Plain := by
  refine ⟨?_, hsize, ?_⟩
  · intro hvoid
    have hstorable := List.all_eq_true.mp hlocals _ hvoid
    simp at hstorable
  · intro instruction hinstruction
    have hlocal := List.all_eq_true.mp hcode _ (Array.mem_toList_iff.mpr hinstruction)
    simpa using hlocal

theorem Module.plain_of_routines {module : Module} {routines : List Routine}
    (hdefinitions : module.definitions = routines.map .routine)
    (hplain : ∀ routine ∈ routines, routine.Plain) : module.Plain := by
  intro definition hdefinition
  rw [hdefinitions] at hdefinition
  obtain ⟨routine, hroutine, rfl⟩ := List.mem_map.mp hdefinition
  exact ⟨routine, rfl, hplain routine hroutine⟩

/-- A module of plain routines that ends on the machine with activation records does so on
the machine with a packed arena, if it takes no more steps than any run is given. -/
theorem Machine.account_run {setup : Setup} (hplain : setup.module.Plain) {console : Console}
    {first : Structured.State} {outcome : Structured.Outcome} {steps : Nat}
    (hstart : Structured.start setup.module setup.limits console = .running first)
    (hsteps : steps ≤ stepBound)
    (hrun : Structured.runFor setup.module setup.limits steps first = outcome)
    (hended : outcome.observed.verdict ≠ .running) :
    (run setup (.new setup.limits console)).account = outcome.observed.account := by
  have hsame : ∀ outcome : Outcome, outcome.account = outcome.observed.account := by
    intro outcome
    cases outcome <;> rfl
  have hobserved := (runUpTo_tracks hplain steps console).observed_eq
  rw [Structured.runUpTo, hstart] at hobserved
  simp only [hrun] at hobserved
  have hverdict : (runUpTo setup steps (.new setup.limits console)).account.verdict ≠
      .running := by
    rw [hsame, hobserved]
    exact hended
  rw [run, runUpTo_eq_of_ended hverdict hsteps, hsame, hobserved]

end StackCode
