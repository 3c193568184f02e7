import StackCode.Proofs.Machine.CallSpan
import StackCode.Proofs.Verify.Accepted

/-!
# The faults of accepted modules

Verification looks at a module without running it.  This file says what it is worth at run
time: which faults an accepted module never raises, and where it can raise the others that
have to do with its code.  Nothing is assumed about the values of a run, so that it holds
also where stores have overwritten what an activation had saved.

Main definitions:

- `Module.WellFormed`: a module whose instructions are well formed.
- `Host.ReturnsStorable`: a host whose functions never return a void value.
- `CallTarget.Unanswered`: a call that need not find a function.
- `TrapPermitted`: the traps of accepted modules.

Main results:

- Theorem `Raises.permitted`: the faults of an instruction of an accepted module.
- Theorem `Machine.trap_permitted`: the traps of runs of an accepted module.
-/

namespace StackCode

/-! ## Assumptions -/

/-- All instructions of the module are well formed. -/
def Module.WellFormed (module : Module) : Prop :=
  ∀ routine, .routine routine ∈ module.definitions →
    ∀ instruction ∈ routine.code, instruction.isWellFormed = true

/-- The functions of the host never return a void value. -/
def Host.ReturnsStorable (host : Host) : Prop :=
  ∀ library name program, host.find? library name = some program →
    ∀ arguments before value after,
      (program arguments).run before = .ok (some value) after → value.type ≠ .void

/-- A module that is accepted, executable and well formed, and a host that returns no void
values. -/
structure Setup.Accepted (setup : Setup) : Prop where
  valid : (Verify.verify setup.module).isValid = true
  executable : setup.module.isExecutable = true
  wellFormed : setup.module.WellFormed
  host : setup.host.ReturnsStorable

/-! ## Permitted faults -/

/-- A call that need not find a function: of an external function that the host does not
have, or of a function value. -/
def CallTarget.Unanswered (setup : Setup) : CallTarget → Prop
  | .definition id => ∃ function, setup.module.find? id = some (.external function) ∧
      setup.host.find? function.library function.name = none
  | .indirect _ => True

/-- The faults that an instruction of an accepted module can raise. -/
def Permitted (setup : Setup) (instruction : Instruction) : Fault → Prop
  | .malformedInstruction | .invalidLocal _ | .invalidArgument _ | .invalidLabel _ => False
  | .unsupportedType opcode type => opcode.isBitwise = true ∧ (type = .f32 ∨ type = .f64)
  | .unresolvedCall _ => ∃ opcode mode target,
      instruction = .call opcode mode target ∧ target.Unanswered setup
  | _ => True

/-- Faults that depend on the values of a run are permitted. -/
theorem permitted_of_isDynamic {fault : Fault} (hdynamic : fault.isDynamic = true)
    (setup : Setup) (instruction : Instruction) : Permitted setup instruction fault := by
  cases fault <;> first | exact .intro | cases hdynamic

/-- No slot of an activation of an accepted module is void. -/
theorem Verify.storable_frameTypes {module : Module} (hvalid : (verify module).isValid = true)
    {routine : Routine} (hroutine : .routine routine ∈ module.definitions) :
    .void ∉ routine.frameTypes := by
  have hparameters : .void ∉ routine.parameters := storable_parameters hvalid hroutine
  have hlocals := storable_locals hvalid hroutine
  simp only [Routine.frameTypes, List.mem_append, not_or]
  exact ⟨⟨hparameters, by decide⟩, hlocals⟩

/-- An instruction with a mode and a target of a call is a call. -/
theorem Instruction.exists_eq_call {instruction : Instruction} {mode : CallMode}
    {target : CallTarget} (hcall : instruction.call? = some (mode, target)) :
    ∃ opcode, instruction = .call opcode mode target := by
  cases instruction with
  | call opcode =>
    cases hcall
    exact ⟨opcode, rfl⟩
  | _ => cases hcall

/-- A call that reaches a function which the host does not have is unanswered. -/
theorem CallTarget.Reaches.unanswered {setup : Setup} {target : CallTarget} {function : External}
    (hreaches : target.Reaches setup.module (.external function))
    (hmissing : setup.host.find? function.library function.name = none) :
    target.Unanswered setup := by
  cases target with
  | definition id => exact ⟨function, hreaches, hmissing⟩
  | indirect expected => exact .intro

/-- Of the faults that an instruction can raise, those of an accepted module are
permitted. -/
theorem Raises.permitted {setup : Setup} (haccepted : setup.Accepted) {routine : Routine}
    {ip : Nat} {instruction : Instruction} {fault : Fault}
    (hroutine : .routine routine ∈ setup.module.definitions)
    (hcode : routine.code[ip]? = some instruction)
    (hraises : Raises setup routine instruction fault) : Permitted setup instruction fault := by
  obtain ⟨hvalid, -, hformed, hhost⟩ := haccepted
  cases hraises with
  | dynamic hdynamic => exact permitted_of_isDynamic hdynamic setup instruction
  | malformed hmalformed =>
    have hmember : instruction ∈ routine.code := Array.mem_of_getElem? hcode
    rw [hformed routine hroutine instruction hmember] at hmalformed
    cases hmalformed
  | missingLocal hnamed hmissing =>
    have hbound := Verify.local_lt hvalid hroutine hcode hnamed
    omega
  | missingArgument hnamed hmissing =>
    have hbound := Verify.argument_lt hvalid hroutine hcode hnamed
    omega
  | missingLabel hnamed hmissing =>
    obtain ⟨position, htarget, hinside⟩ := Verify.exists_target hvalid hroutine hcode hnamed
    have hpast := hmissing position htarget
    omega
  | missingResource hnamed hmissing => exact .intro
  | missingFunction hnamed hmissing =>
    exact absurd hmissing (Verify.exists_function hvalid hroutine hcode hnamed)
  | missingDefinition hnamed hmissing =>
    exact absurd hmissing (Verify.exists_callee hvalid hroutine hcode hnamed)
  | missingHost hcall hreaches hmissing =>
    obtain ⟨opcode, rfl⟩ := Instruction.exists_eq_call hcall
    exact ⟨opcode, _, _, rfl, hreaches.unanswered hmissing⟩
  | missingValue hcall =>
    obtain ⟨opcode, rfl⟩ := Instruction.exists_eq_call hcall
    exact ⟨opcode, _, _, rfl, .intro⟩
  | @floatBits opcode type hbitwise hfloat =>
    refine ⟨hbitwise, ?_⟩
    cases type <;> simp [DataType.isFloat] at hfloat ⊢
  | voidOperand hvoid =>
    exact absurd hvoid (Verify.storable_operands hvalid hroutine hcode)
  | voidSlot hmember hvoid =>
    exact absurd hvoid (Verify.storable_frameTypes hvalid hmember)
  | voidResult hmember hprogram harguments hrun hvoid =>
    exact absurd hvoid (hhost _ _ _ hprogram _ _ _ _ hrun)

/-! ## Permitted traps -/

namespace Machine

/-- A run traps in an activation of a routine of the module, at the instruction that the
trap names. -/
structure TrapsIn (setup : Setup) (machine : Machine) (trap : Trap) (frame : Frame) : Prop where
  stepped : ∃ steps current last, runUpTo setup steps machine = .running current ∧
    current.calls.top? = some frame ∧ step setup current = .trapped trap last
  member : .routine frame.routine ∈ setup.module.definitions
  routine_eq : trap.routine = frame.routine.name
  instruction_eq : trap.instruction = frame.ip

/-- The traps of runs of accepted modules. -/
structure TrapPermitted (setup : Setup) (machine : Machine) (trap : Trap) : Prop where
  not_malformed : trap.fault ≠ .malformedInstruction
  not_invalidLocal : ∀ index, trap.fault ≠ .invalidLocal index
  not_invalidArgument : ∀ index, trap.fault ≠ .invalidArgument index
  not_invalidLabel : ∀ label, trap.fault ≠ .invalidLabel label
  unsupported : ∀ opcode type, trap.fault = .unsupportedType opcode type →
    opcode.isBitwise = true ∧ (type = .f32 ∨ type = .f64)
  unresolved : ∀ missing, trap.fault = .unresolvedCall missing →
    ∃ frame opcode mode target, TrapsIn setup machine trap frame ∧
      frame.routine.code[frame.ip]? = some (.call opcode mode target) ∧ target.Unanswered setup

/-- A trap whose fault depends on the values of the run. -/
theorem trapPermitted_of_isDynamic {setup : Setup} {machine : Machine} {trap : Trap}
    (hdynamic : trap.fault.isDynamic = true) : TrapPermitted setup machine trap := by
  obtain ⟨fault, routine, position⟩ := trap
  cases fault with
  | stackOverflow | stackUnderflow | divisionByZero | typeMismatch | signatureMismatch
  | invalidAddress | hostFunction | outOfFuel => constructor <;> simp
  | _ => cases hdynamic

/-- A trap whose fault is permitted at the instruction that raised it. -/
theorem TrapsIn.trapPermitted {setup : Setup} {machine : Machine} {trap : Trap} {frame : Frame}
    (htraps : TrapsIn setup machine trap frame) {instruction : Instruction}
    (hcode : frame.routine.code[frame.ip]? = some instruction)
    (hpermitted : Permitted setup instruction trap.fault) : TrapPermitted setup machine trap := by
  refine ⟨?_, ?_, ?_, ?_, ?_, ?_⟩
  · intro hfault
    simp [hfault, Permitted] at hpermitted
  · intro index hfault
    simp [hfault, Permitted] at hpermitted
  · intro index hfault
    simp [hfault, Permitted] at hpermitted
  · intro label hfault
    simp [hfault, Permitted] at hpermitted
  · intro opcode type hfault
    simpa [hfault, Permitted] using hpermitted
  · intro missing hfault
    rw [hfault] at hpermitted
    obtain ⟨opcode, mode, target, rfl, hunanswered⟩ := hpermitted
    exact ⟨frame, opcode, mode, target, htraps, hcode, hunanswered⟩

/-- A run of an accepted, executable and well-formed module, with any limits, any console
and any host that returns no void values, never traps because of a malformed instruction or
of a local, an argument or a label that does not exist; it traps because of the type of an
operand only in a bit operation on floating-point numbers; and because of an unresolved
call only at a call of an external function that the host does not have or of a function
value. -/
theorem trap_permitted {setup : Setup} (haccepted : setup.Accepted) {machine last : Machine}
    (hreachable : Reachable setup machine) {bound : Nat} {trap : Trap}
    (htrapped : runUpTo setup bound machine = .trapped trap last) :
    TrapPermitted setup machine trap := by
  obtain ⟨main, hentry⟩ : ∃ main, setup.module.entry = .ok main := by
    have hexecutable := haccepted.executable
    unfold Module.isExecutable at hexecutable
    cases hentry : setup.module.entry with
    | ok main => exact ⟨main, rfl⟩
    | error cause => simp [hentry] at hexecutable
  have hmain := (entry_eq_ok hentry).1
  rcases exists_last_step htrapped nofun with hstart | ⟨steps, current, hrunning, hstep⟩
  · have hstarts := start_layered hreachable.sound
    rw [hstart] at hstarts
    rcases hstarts.2 main hentry with hdynamic | ⟨-, hvoid⟩
    · exact trapPermitted_of_isDynamic hdynamic
    · exact absurd hvoid (Verify.storable_frameTypes haccepted.valid hmain)
  · obtain ⟨layers, peak, hbelong, hpiled⟩ := piled_of_running (Belong setup.module)
      (fun first hfirst => by simpa [Belong] using (entry_eq_ok hfirst).1)
      (fun _ _ => Belong.of_moves) hreachable.sound hrunning
    have hensues := step_moves hpiled
    rw [hstep] at hensues
    obtain ⟨-, layer, lower, rfl, hroutine, hinstruction, hraises⟩ := hensues
    have hmember : .routine layer.routine ∈ setup.module.definitions :=
      hbelong layer List.mem_cons_self
    have htraps : TrapsIn setup machine trap
        (.placed layer.routine layer.ip (totalSize (layerTypes lower))) :=
      ⟨⟨steps, current, last, hrunning, hpiled.top?_eq, hstep⟩, hmember, hroutine,
        hinstruction⟩
    unfold RaisesAt at hraises
    cases hcode : layer.routine.code[layer.ip]? with
    | none =>
      rw [hcode] at hraises
      exact trapPermitted_of_isDynamic hraises.1
    | some instruction =>
      rw [hcode] at hraises
      exact htraps.trapPermitted hcode (hraises.permitted haccepted hmember hcode)

/-- A machine for a module that calls an external function, with a host that has none. -/
def unhosted : Setup := ⟨Samples.hello "hello", .default, .empty⟩

/-- The run of the module traps at the call of the external function. -/
theorem trap_permitted_unhosted :
    unhosted.Accepted ∧ ∃ trap last,
      runUpTo unhosted 9 (.new unhosted.limits (.new [])) = .trapped trap last ∧
        trap = ⟨.unresolvedCall (.host "c" "puts"), "main", 1⟩ ∧
          TrapPermitted unhosted (.new unhosted.limits (.new [])) trap := by
  have haccepted : unhosted.Accepted := by
    refine ⟨by decide +kernel, rfl, ?_, ?_⟩
    · intro routine hroutine
      have hmain : unhosted.module.routines.all
          (fun routine => routine.code.all Instruction.isWellFormed) = true := by decide +kernel
      have hlisted : routine ∈ unhosted.module.routines := List.mem_filterMap.mpr ⟨_, hroutine, rfl⟩
      exact Array.all_eq_true_iff_forall_mem.mp (List.all_eq_true.mp hmain routine hlisted)
    · intro library name program hfound
      cases hfound
  obtain ⟨trap, last, htrapped, htrap⟩ : ∃ trap last,
      runUpTo unhosted 9 (.new unhosted.limits (.new [])) = .trapped trap last ∧
        trap = ⟨.unresolvedCall (.host "c" "puts"), "main", 1⟩ := ⟨_, _, rfl, rfl⟩
  exact ⟨haccepted, trap, last, htrapped, htrap,
    trap_permitted haccepted (.new (.new [])) htrapped⟩

end Machine

end StackCode
