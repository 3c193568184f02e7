import StackCode.Proofs.Lockstep.Metering
import StackCode.Proofs.Lockstep.Runs
import StackCode.Proofs.Verify.RuntimeFaults

/-!
# Operands that verification does not look at

An instruction can name an argument, a local, a label, a definition or a resource.
Verification makes sure that the first four exist.  It never looks at the resources of a
module, so that an accepted module can trap because a resource does not exist; it does so
exactly when it pushes the address of such a resource.

Main definitions:

- `Verify.Resolves`: what an instruction names exists, resources apart.
- `Machine.Executes`: a run executes an instruction after a number of steps.
- `Machine.TrapsWith`: a run ends with a fault.

Main results:

- Theorem `Verify.verify_resources`: the report does not depend on the resources.
- Theorem `Machine.trapsWith_invalidResource_iff`: when a run lacks a resource.
- Theorem `Machine.unresolved_resources`: which operands of an accepted module exist, and
  when its runs lack a resource.
- Theorem `Machine.invalidResource_vacant`: an accepted module that lacks a resource.
-/

namespace StackCode

/-! ## What verification looks at -/

namespace Verify

section Resources

variable (module : Module) (table : ResourceTable) {rule : Rule}

/-- No rule looks at the resources of a module. -/
theorem findings_resources (hrule : rule ∈ rules) (definition? : Option Definition)
    (instruction? : Option Nat) (node : Node) :
    rule.findings ⟨{ module with resources := table }, definition?, instruction?⟩ node =
      rule.findings ⟨module, definition?, instruction?⟩ node := by
  have hcheck : rule.check ⟨{ module with resources := table }, definition?, instruction?⟩ node =
      rule.check ⟨module, definition?, instruction?⟩ node := by
    simp only [rules, List.mem_cons, List.not_mem_nil, or_false] at hrule
    rcases hrule with rfl | rfl | rfl | rfl | rfl | rfl | rfl | rfl <;> rfl
  rw [Rule.findings, Rule.findings, hcheck]

theorem walk_resources (hrule : rule ∈ rules) :
    walk { module with resources := table } rule = walk module rule := by
  have hstart : rule.findings (.start { module with resources := table }) .module =
      rule.findings (.start module) .module :=
    findings_resources module table hrule none none .module
  have hreportsAt : rule.reportsAt { module with resources := table } =
      rule.reportsAt module := by
    funext definition place
    cases place <;>
      simp only [Rule.reportsAt, Rule.findingsAt, findings_resources module table hrule]
  have hreportsIn : rule.reportsIn { module with resources := table } =
      rule.reportsIn module := by
    funext definition
    rw [Rule.reportsIn, Rule.reportsIn, hreportsAt]
  rw [walk, walk, hstart, hreportsIn]
  rfl

/-- The report on a module does not depend on its resources. -/
theorem verify_resources : verify { module with resources := table } = verify module := by
  rw [verify, verify, Report.mk.injEq, diagnostics_verifyWith, diagnostics_verifyWith]
  exact List.flatMap_congr fun rule hrule => walk_resources module table hrule

end Resources

/-- What an instruction of a routine names exists, resources apart. -/
structure Resolves (module : Module) (routine : Routine) (instruction : Instruction) : Prop where
  argument_lt : ∀ index, instruction.operand? = some (.argument index) ∨
    instruction.operand? = some (.argumentAddress index) → index.toNat < routine.parameters.length
  local_lt : ∀ index, instruction.operand? = some (.localVar index) ∨
    instruction.operand? = some (.localAddress index) → index.toNat < routine.locals.size
  target : ∀ label, instruction.label? = some label →
    ∃ position, routine.target? label = some position ∧ position < routine.code.size
  function : ∀ id, instruction.operand? = some (.routine id) → module.find? id ≠ none
  callee : ∀ id, instruction.callee? = some id → module.find? id ≠ none

/-- Everything but resources exists in an accepted module. -/
theorem resolves_of_valid {module : Module} (hvalid : (verify module).isValid = true)
    {routine : Routine} (hroutine : .routine routine ∈ module.definitions) {ip : Nat}
    {instruction : Instruction} (hcode : routine.code[ip]? = some instruction) :
    Resolves module routine instruction where
  argument_lt _ hnamed := Verify.argument_lt hvalid hroutine hcode hnamed
  local_lt _ hnamed := Verify.local_lt hvalid hroutine hcode hnamed
  target _ hnamed := exists_target hvalid hroutine hcode hnamed
  function _ hnamed := exists_function hvalid hroutine hcode hnamed
  callee _ hnamed := exists_callee hvalid hroutine hcode hnamed

end Verify

/-! ## Runs that lack a resource -/

namespace Machine

/-- A run executes an instruction of a routine after a number of steps: it fetches the
instruction and has the fuel for it. -/
def Executes (setup : Setup) (machine : Machine) (steps : Nat) (routine : Routine)
    (instruction : Instruction) : Prop :=
  ∃ current frame, runUpTo setup steps machine = .running current ∧
    current.calls.top? = some frame ∧ frame.routine = routine ∧
      routine.code[frame.ip]? = some instruction ∧ current.fuel ≠ some 0

/-- A run ends with a fault within a number of steps. -/
def TrapsWith (setup : Setup) (machine : Machine) (bound : Nat) (fault : Fault) : Prop :=
  ∃ trap last, runUpTo setup bound machine = .trapped trap last ∧ trap.fault = fault

/-- A resource that does not exist cannot be pushed, and no resource can be popped into. -/
theorem execute_missingResource {setup : Setup} {index : ResourceIndex}
    (hmissing : setup.module.resources.get? index = none) (opcode : Opcode) (routine : Routine)
    (machine : Machine) :
    execute setup routine (.stack opcode (.resource index)) machine =
      .error (if opcode = .push then .invalidResource index else .malformedInstruction)
        machine := by
  by_cases hpush : opcode = .push
  · subst hpush
    have hvalue : operandValue setup.module routine (.resource index) machine =
        .error (.invalidResource index) machine := by
      simp only [operandValue, hmissing]
      rfl
    change (pushOperand setup.module routine (.resource index) >>= fun _ => pure Flow.proceed)
      machine = _
    unfold pushOperand
    simp only [bind, EStateM.bind, hvalue]
    rfl
  · have hformed : (Instruction.stack opcode (.resource index)).isWellFormed = false := by
      cases opcode with
      | push => exact absurd rfl hpush
      | _ => rfl
    unfold execute
    rw [hformed, if_neg hpush]
    rfl

section Steps

variable {setup : Setup} {current : Machine} {frame : Frame} {index : ResourceIndex}

/-- A step that pushes a resource which does not exist. -/
theorem step_missingResource (htop : current.calls.top? = some frame)
    (hcode : frame.routine.code[frame.ip]? = some (.stack .push (.resource index)))
    (hfuel : current.fuel ≠ some 0) (hmissing : setup.module.resources.get? index = none) :
    step setup current =
      .trapped ⟨.invalidResource index, frame.routine.name, frame.ip⟩ (current.fetched frame) := by
  rw [step_eq_conclude htop, advance_eq_execute hcode, if_neg hfuel,
    execute_missingResource hmissing, if_pos rfl]
  rfl

/-- A step that lacks a resource was to push it. -/
theorem push_of_invalidResource (htop : current.calls.top? = some frame) {trap : Trap}
    {last : Machine} (hstep : step setup current = .trapped trap last)
    (hfault : trap.fault = .invalidResource index)
    (hraises : RaisesAt setup frame.routine frame.ip trap.fault) :
    frame.routine.code[frame.ip]? = some (.stack .push (.resource index)) ∧
      current.fuel ≠ some 0 ∧ setup.module.resources.get? index = none := by
  rw [hfault, RaisesAt] at hraises
  cases hcode : frame.routine.code[frame.ip]? with
  | none =>
    rw [hcode] at hraises
    cases hraises.1
  | some instruction =>
    rw [hcode] at hraises
    rw [step_eq_conclude htop, advance_eq_execute hcode] at hstep
    cases hraises with
    | dynamic hdynamic => cases hdynamic
    | missingResource hnamed hmissing =>
      cases instruction with
      | stack opcode operand =>
        cases hnamed
        by_cases hfuel : current.fuel = some 0
        · rw [if_pos hfuel] at hstep
          cases hstep
          cases hfault
        · rw [if_neg hfuel, execute_missingResource hmissing] at hstep
          cases hstep
          by_cases hpush : opcode = .push
          · rw [hpush]
            exact ⟨rfl, hfuel, hmissing⟩
          · rw [if_neg hpush] at hfault
            cases hfault
      | _ => cases hnamed

end Steps

section Runs

variable {setup : Setup} {machine : Machine}

/-- A run that starts does not lack a resource at its start. -/
theorem start_ne_invalidResource (hexecutable : setup.module.isExecutable = true)
    (hsound : machine.Sound setup.limits.capacity) {trap : Trap} {last : Machine}
    (hstart : start setup machine = .trapped trap last) (index : ResourceIndex) :
    trap.fault ≠ .invalidResource index := by
  intro hfault
  have hstarts := start_layered hsound
  rw [hstart] at hstarts
  unfold Module.isExecutable at hexecutable
  cases hentry : setup.module.entry with
  | error cause => simp [hentry] at hexecutable
  | ok main =>
    rcases hstarts.2 main hentry with hdynamic | ⟨hunsupported, -⟩
    · rw [hfault] at hdynamic
      cases hdynamic
    · rw [hfault] at hunsupported
      cases hunsupported

/-- A run that trapped within a number of steps executed its last instruction before. -/
theorem steps_lt_of_trapped {steps bound : Nat} {current last : Machine} {trap : Trap}
    (hrunning : runUpTo setup steps machine = .running current)
    (htrapped : runUpTo setup bound machine = .trapped trap last) : steps < bound := by
  by_contra hlate
  have hended : (runUpTo setup bound machine).account.verdict ≠ .running := by
    rw [htrapped]
    exact nofun
  rw [runUpTo_eq_of_ended hended (Nat.not_lt.mp hlate), htrapped] at hrunning
  cases hrunning

/-- A run lacks a resource exactly when it executes a push of one that does not exist. -/
theorem trapsWith_invalidResource_iff (hexecutable : setup.module.isExecutable = true)
    (hsound : machine.Sound setup.limits.capacity) (bound : Nat) (index : ResourceIndex) :
    TrapsWith setup machine bound (.invalidResource index) ↔
      setup.module.resources.get? index = none ∧
        ∃ steps < bound, ∃ routine, .routine routine ∈ setup.module.definitions ∧
          Executes setup machine steps routine (.stack .push (.resource index)) := by
  constructor
  · rintro ⟨trap, last, htrapped, hfault⟩
    have hended : ∀ current, Outcome.trapped trap last ≠ .running current := by
      intro current hrunning
      cases hrunning
    rcases exists_last_step htrapped hended with hstart | ⟨steps, current, hrunning, hstep⟩
    · exact absurd hfault (start_ne_invalidResource hexecutable hsound hstart index)
    · obtain ⟨layers, peak, hbelong, hpiled⟩ := piled_of_running (Belong setup.module)
        (fun first hfirst => by simpa [Belong] using (entry_eq_ok hfirst).1)
        (fun _ _ => Belong.of_moves) hsound hrunning
      have hensues := step_moves hpiled
      rw [hstep] at hensues
      obtain ⟨-, layer, lower, rfl, -, -, hraises⟩ := hensues
      obtain ⟨hcode, hfuel, hmissing⟩ :=
        push_of_invalidResource hpiled.top?_eq hstep hfault hraises
      exact ⟨hmissing, steps, steps_lt_of_trapped hrunning htrapped, layer.routine,
        hbelong layer List.mem_cons_self, current, _, hrunning, hpiled.top?_eq, rfl, hcode, hfuel⟩
  · rintro ⟨hmissing, steps, hbefore, _, -, current, frame, hrunning, htop, rfl, hcode, hfuel⟩
    have htrapped : runUpTo setup (steps + 1) machine =
        .trapped ⟨.invalidResource index, frame.routine.name, frame.ip⟩
          (current.fetched frame) := by
      rw [runUpTo_succ_of_running hrunning, step_missingResource htop hcode hfuel hmissing]
    have hended : (runUpTo setup (steps + 1) machine).account.verdict ≠ .running := by
      rw [htrapped]
      intro hverdict
      cases hverdict
    exact ⟨_, _, (runUpTo_eq_of_ended hended hbefore).trans htrapped, rfl⟩

end Runs

/-- Every push of a resource names an entry of the module's table. -/
def ResourcesExist (module : Module) : Prop :=
  ∀ routine, .routine routine ∈ module.definitions → ∀ (ip : Nat) (index : ResourceIndex),
    routine.code[ip]? = some (.stack .push (.resource index)) → module.resources.get? index ≠ none

/-- In an accepted module every argument, local, label and definition that an instruction
names exists.  Whether the resources exist does not matter for acceptance: a run lacks a
resource exactly when it executes a push of one that does not exist, and so never when all
pushes of resources name entries of the table. -/
theorem unresolved_resources {setup : Setup}
    (hvalid : (Verify.verify setup.module).isValid = true)
    (hexecutable : setup.module.isExecutable = true) {machine : Machine}
    (hreachable : Reachable setup machine) :
    (∀ routine, .routine routine ∈ setup.module.definitions → ∀ (ip : Nat) instruction,
      routine.code[ip]? = some instruction →
        Verify.Resolves setup.module routine instruction) ∧
    (∀ table, Verify.verify { setup.module with resources := table } =
      Verify.verify setup.module) ∧
    (∀ bound index, TrapsWith setup machine bound (.invalidResource index) ↔
      setup.module.resources.get? index = none ∧
        ∃ steps < bound, ∃ routine, .routine routine ∈ setup.module.definitions ∧
          Executes setup machine steps routine (.stack .push (.resource index))) ∧
    (ResourcesExist setup.module →
      ∀ bound index, ¬ TrapsWith setup machine bound (.invalidResource index)) := by
  have hlacks := trapsWith_invalidResource_iff hexecutable hreachable.sound
  refine ⟨?_, Verify.verify_resources setup.module, hlacks, ?_⟩
  · intro routine hroutine ip instruction hcode
    exact Verify.resolves_of_valid hvalid hroutine hcode
  · intro hexist bound index htraps
    obtain ⟨hmissing, -, -, routine, hroutine, -, frame, -, -, -, hcode, -⟩ :=
      (hlacks bound index).mp htraps
    exact hexist routine hroutine frame.ip index hcode hmissing

/-- A machine for a module that pushes a resource and has none. -/
def vacant : Setup :=
  let main : Routine :=
    { Routine.empty 0 entryName with code := #[.stack .push (.resource 0), Samples.ret] }
  ⟨⟨"vacant", [.routine main], .empty⟩, .default, .empty⟩

/-- The module of the machine is accepted and can be executed, and its run lacks the
resource. -/
theorem invalidResource_vacant :
    (Verify.verify vacant.module).isValid = true ∧ vacant.module.isExecutable = true ∧
      ∃ last, runUpTo vacant 1 (.new vacant.limits (.new [])) =
        .trapped ⟨.invalidResource 0, "main", 0⟩ last :=
  ⟨by decide +kernel, rfl, _, rfl⟩

/-- The run executes the push. -/
theorem unresolved_resources_vacant :
    (Verify.verify vacant.module).isValid = true ∧ vacant.module.isExecutable = true ∧
      TrapsWith vacant (.new vacant.limits (.new [])) 1 (.invalidResource 0) ∧
        ∃ steps < 1, ∃ routine, .routine routine ∈ vacant.module.definitions ∧
          Executes vacant (.new vacant.limits (.new [])) steps routine
            (.stack .push (.resource 0)) := by
  have hvalid : (Verify.verify vacant.module).isValid = true := by decide +kernel
  have htraps : TrapsWith vacant (.new vacant.limits (.new [])) 1 (.invalidResource 0) :=
    ⟨_, _, rfl, rfl⟩
  have hlacks := (unresolved_resources hvalid rfl (.new (.new []))).2.2.1 1 0
  exact ⟨hvalid, rfl, htraps, (hlacks.mp htraps).2⟩

end Machine

end StackCode
