import StackCode.Proofs.Machine.Layers
import StackCode.Proofs.Structured.Calls
import StackCode.Proofs.Structured.Slots
import StackCode.Proofs.Verify.Accepted
import StackCode.Samples

/-!
# The packed machine refines the structured one

The machine with an arena of bytes and the machine with activation records run side by
side: each step of one is a step of the other with the same outcome.

Main definitions:

- `Module.Plain`: a module whose routines do not reach memory.
- `Outcome.Tracks`: a run that has come as far as a structured run.
- `Module.Confined`: an accepted module of small routines that do not reach memory.

Main results:

- Theorem `execute_follows`: every instruction that does not reach memory.
- Theorem `step_tracks`: every step.
- Theorem `runUpTo_tracks`: every run.
- Theorem `observed_runUpTo`: what both machines show, after every number of steps.
-/

namespace StackCode

open Structured (Activation Scene Act Surface State Effect packedSize carryOut)

/-! ## Instructions -/

/-- A module of plain routines only. -/
def Module.Plain (module : Module) : Prop :=
  ∀ definition ∈ module.definitions, ∃ routine, definition = .routine routine ∧ routine.Plain

section Instructions

variable {limits : Limits} {stage : Stage} {routine : Routine} {callers : List Activation}
  {machine : Machine} {scene : Scene}

/-- A machine that shows a scene on top of other activations stands for a state. -/
theorem Stage.Shows.represents {capacity : Nat}
    (hshows : stage.Shows capacity routine machine scene)
    (hpacks : Packs stage.frames callers stage.below) :
    Represents capacity machine ⟨scene.current, callers, stage.surface.withScene scene⟩ :=
  ⟨_, _, .cons scene.current stage.savedFp hshows.fits hpacks, hshows.depicts⟩

/-- A computation on the running activation, and what comes after it. -/
theorem follows_bind {α : Type} {computation : Exec α} {act : Act α} {next : α → Exec Flow}
    {nextAct : α → Act Effect}
    (hmirrors : stage.Mirrors limits.capacity routine computation act)
    (hshows : stage.Shows limits.capacity routine machine scene)
    (hnext : ∀ result after sceneAfter, act scene = .ok result sceneAfter →
      stage.Shows limits.capacity routine after sceneAfter →
      Follows limits.capacity id (next result after)
        (carryOut limits callers stage.surface (nextAct result sceneAfter))) :
    Follows limits.capacity id ((computation >>= next) machine)
      (carryOut limits callers stage.surface ((act >>= nextAct) scene)) := by
  have hagrees := hmirrors machine scene hshows
  change Follows limits.capacity id (EStateM.bind computation next machine)
    (carryOut limits callers stage.surface (EStateM.bind act nextAct scene))
  unfold EStateM.bind
  generalize computation machine = found, hacted : act scene = expected at hagrees
  cases hagrees with
  | ok hafter => exact hnext _ _ _ hacted hafter
  | error hsurface => exact .faulted hsurface

/-- An instruction that stays in the running routine. -/
theorem follows_of_mirrors {computation : Exec Unit} {act : Act Unit}
    (hmirrors : stage.Mirrors limits.capacity routine computation act)
    (hshows : stage.Shows limits.capacity routine machine scene)
    (hpacks : Packs stage.frames callers stage.below) :
    Follows limits.capacity id ((do computation; return .proceed : Exec Flow) machine)
      (carryOut limits callers stage.surface ((do act; return .next : Act Effect) scene)) :=
  follows_bind hmirrors hshows fun _ _ _ _ hafter => .continued rfl (hafter.represents hpacks)

/-- A call that was resolved reaches a definition of the module that its target allows, and
leaves the position alone. -/
theorem callee_eq_ok {module : Module} {target : CallTarget} {definition : Definition}
    {sceneAfter : Scene}
    (hcallee : Structured.callee module target scene = .ok definition sceneAfter) :
    definition ∈ module.definitions ∧ target.Reaches module definition ∧
      sceneAfter.current.ip = scene.current.ip := by
  cases target with
  | definition id =>
    unfold Structured.callee at hcallee
    cases hfound : module.find? id with
    | none =>
      simp only [hfound] at hcallee
      cases hcallee
    | some found =>
      simp only [hfound] at hcallee
      cases hcallee
      exact ⟨List.mem_of_find?_eq_some hfound, hfound, rfl⟩
  | indirect expected =>
    obtain ⟨address, popped, hpop, hcallee⟩ := Structured.bind_eq_ok.mp hcallee
    obtain ⟨found, lifted, hlift, hcallee⟩ := Structured.bind_eq_ok.mp hcallee
    obtain ⟨operands, -, -, rfl⟩ := Structured.pop_eq_ok.mp hpop
    obtain ⟨hfunction, rfl⟩ := Structured.lift_eq_ok.mp hlift
    by_cases hsignature : found.signature = expected
    · rw [if_pos hsignature] at hcallee
      cases hcallee
      exact ⟨functionAt_mem hfunction, hsignature, rfl⟩
    · rw [if_neg hsignature] at hcallee
      cases hcallee

/-- A machine that shows a scene returns as its structured state does. -/
theorem leave_follows (hshows : stage.Shows limits.capacity routine machine scene)
    (hpacks : Packs stage.frames callers stage.below) :
    Follows limits.capacity id (Machine.leave machine)
      (carryOut limits callers stage.surface ((pure .leave : Act Effect) scene)) :=
  Machine.leave_leads hshows.fits hpacks stage.savedFp machine hshows.depicts

/-- Calls of plain routines in either mode. -/
theorem call_follows {setup : Setup} (hplain : setup.module.Plain)
    (hshows : stage.Shows setup.limits.capacity routine machine scene)
    (hposition : scene.current.ip < 2 ^ 32) (hpacks : Packs stage.frames callers stage.below)
    (mode : CallMode) (target : CallTarget) :
    Follows setup.limits.capacity id (Machine.call setup mode target machine)
      (carryOut setup.limits callers stage.surface
        (Structured.call setup.module mode target scene)) := by
  refine follows_bind (Stage.callee_mirrors setup.module target) hshows ?_
  intro definition after sceneAfter hacted hafter
  obtain ⟨hmember, -, hsame⟩ := callee_eq_ok hacted
  obtain ⟨callee, rfl, hcallee⟩ := hplain definition hmember
  rw [← hsame] at hposition
  cases mode with
  | direct =>
    exact Follows.then_proceed (Machine.enter_leads hcallee hafter.fits hposition hpacks
      stage.savedFp after hafter.depicts)
  | tail =>
    exact Follows.then_proceed (Machine.tailEnter_leads hcallee hafter.fits hpacks
      stage.savedFp after hafter.depicts)

theorem simple_follows (hshows : stage.Shows limits.capacity routine machine scene)
    (hpacks : Packs stage.frames callers stage.below) (opcode : Opcode) :
    Follows limits.capacity id (Machine.simple opcode machine)
      (carryOut limits callers stage.surface
        (Structured.simple (limits.capacity - packedSize stage.below) opcode scene)) := by
  have hmalformed : Follows limits.capacity id
      ((throw .malformedInstruction : Exec Flow) machine)
      (carryOut limits callers stage.surface
        ((throw .malformedInstruction : Act Effect) scene)) := .faulted hshows.surface_eq
  cases opcode with
  | nop => exact .continued rfl (hshows.represents hpacks)
  | ret => exact leave_follows hshows hpacks
  | printChar =>
    refine follows_bind (Stage.pop_mirrors .u8) hshows ?_
    intro value after sceneAfter _ hafter
    exact follows_of_mirrors (Stage.print_mirrors _) hafter hpacks
  | readChar =>
    refine follows_bind Stage.readChar_mirrors hshows ?_
    intro byte? after sceneAfter _ hafter
    cases byte? with
    | some byte => exact follows_of_mirrors (Stage.push_mirrors _) hafter hpacks
    | none => exact follows_of_mirrors (Stage.push_mirrors _) hafter hpacks
  | _ => exact hmalformed

/-- Every instruction that does not reach memory. -/
theorem execute_follows {setup : Setup} (hplain : setup.module.Plain)
    (hshows : stage.Shows setup.limits.capacity routine machine scene)
    (hposition : scene.current.ip < 2 ^ 32) (hpacks : Packs stage.frames callers stage.below)
    {instruction : Instruction} (hlocal : instruction.reachesMemory = false) :
    Follows setup.limits.capacity id (Machine.execute setup routine instruction machine)
      (carryOut setup.limits callers stage.surface
        (Structured.execute setup.module (setup.limits.capacity - packedSize stage.below)
          instruction scene)) := by
  unfold Machine.execute Structured.execute
  cases hformed : instruction.isWellFormed with
  | false => exact .faulted hshows.surface_eq
  | true =>
    simp only [Bool.not_true, Bool.false_eq_true, if_false]
    cases instruction with
    | simple opcode => exact simple_follows hshows hpacks opcode
    | typed opcode type =>
      refine follows_of_mirrors (Stage.typed_mirrors ?_ ?_ type) hshows hpacks
      · rintro rfl
        simp [Instruction.reachesMemory] at hlocal
      · rintro rfl
        simp [Instruction.reachesMemory] at hlocal
    | convert opcode source target =>
      refine follows_bind (Stage.pop_mirrors source) hshows ?_
      intro value popped scenePopped _ hpopped
      refine follows_bind (Stage.lift_mirrors _) hpopped ?_
      intro cast after sceneAfter _ hafter
      exact follows_of_mirrors (Stage.push_mirrors cast) hafter hpacks
    | conditional opcode comparison type =>
      exact follows_of_mirrors (Stage.conditional_mirrors opcode comparison type) hshows hpacks
    | branch opcode label => exact follows_of_mirrors (Stage.jump_mirrors label) hshows hpacks
    | stack opcode operand =>
      have hvalue : stage.Mirrors setup.limits.capacity routine
          (Machine.operandValue setup.module routine operand)
          (Structured.operandValue setup.module operand) := by
        apply Stage.operandValue_mirrors
        · rintro index rfl
          simp [Instruction.reachesMemory] at hlocal
        · rintro index rfl
          simp [Instruction.reachesMemory] at hlocal
      have hpush := Stage.Mirrors.bind hvalue Stage.push_mirrors
      have hpop := follows_of_mirrors (Stage.popOperand_mirrors operand) hshows hpacks
      cases opcode with
      | push => exact follows_of_mirrors hpush hshows hpacks
      | _ => exact hpop
    | call opcode mode target => exact call_follows hplain hshows hposition hpacks mode target

end Instructions

/-! ## Steps and runs -/

/-- A run of the machine has come as far as a structured run. -/
inductive Outcome.Tracks (capacity : Nat) : Outcome → Structured.Outcome → Prop
  | running {machine : Machine} {state : State}
      (hrepresents : Represents capacity machine state) :
      Tracks capacity (.running machine) (.running state)
  | returned {result : Option Value} {machine : Machine} {surface : Surface}
      (hsurface : machine.surface = surface) :
      Tracks capacity (.returned result machine) (.returned result surface)
  | trapped {trap : Trap} {machine : Machine} {surface : Surface}
      (hsurface : machine.surface = surface) :
      Tracks capacity (.trapped trap machine) (.trapped trap surface)

section Runs

variable {setup : Setup} {machine : Machine} {state : State}

/-- The next instruction, or the return past the end of a routine. -/
theorem advance_follows (hplain : setup.module.Plain) {frames : List Frame}
    {below : List Value} {savedFp : UInt64} (hfits : state.current.Fits)
    (hpacks : Packs frames state.callers below)
    (hdepicts : machine.Depicts setup.limits.capacity
      ⟨state.current.values savedFp ++ below,
        .placed state.current.routine state.current.ip (packedSize below) :: frames,
        state.surface⟩) :
    Follows setup.limits.capacity id
      (Machine.advance setup
        (.placed state.current.routine state.current.ip (packedSize below)) machine)
      (Structured.advance setup.module setup.limits state) := by
  unfold Machine.advance Structured.advance
  simp only [Frame.placed]
  cases hcode : state.current.routine.code[state.current.ip]? with
  | none => exact Machine.leave_leads hfits hpacks savedFp machine hdepicts
  | some instruction =>
    simp only
    have hspend := Machine.spend_gives setup.limits.capacity
      (state.current.values savedFp ++ below)
      (.placed state.current.routine (state.current.ip + 1) (packedSize below) :: frames)
      state.surface
    refine Machine.Leads.bind (Machine.onCalls_jump_gives _ _ _ (state.current.ip + 1)) ?_
      machine hdepicts
    cases hspent : state.surface.spend with
    | error surface =>
      rw [hspent] at hspend
      exact Machine.Leads.of_error (Machine.Gives.bind_error hspend)
    | ok surface =>
      rw [hspent] at hspend
      refine Machine.Leads.bind hspend fun after hafter => ?_
      have hmember := Array.mem_of_getElem? hcode
      have hinside := (Array.getElem?_eq_some_iff.mp hcode).1
      have hsize := hfits.plain.size_lt
      have hshows : Stage.Shows setup.limits.capacity ⟨frames, below, savedFp, surface⟩
          state.current.routine after
          ⟨{ state.current with ip := state.current.ip + 1 }, surface.console,
            surface.placement⟩ :=
        ⟨hafter, hfits.moved _ _, rfl⟩
      have hfollows := execute_follows hplain hshows (by simp only; omega) hpacks
        (hfits.plain.local_only instruction hmember)
      rw [hpacks.packedSize_eq] at hfollows
      exact hfollows

/-- Every step of the machine is a structured step. -/
theorem step_tracks (hplain : setup.module.Plain)
    (hrepresents : Represents setup.limits.capacity machine state) :
    (Machine.step setup machine).Tracks setup.limits.capacity
      (Structured.step setup.module setup.limits state) := by
  obtain ⟨frames, values, hpacks, hdepicts⟩ := hrepresents
  cases hpacks with
  | @cons frames callers below current savedFp hfits hbelow =>
    have hfollows := advance_follows hplain hfits hbelow hdepicts
    have htop : machine.calls.top? = some (.placed state.current.routine state.current.ip
        (packedSize below)) := by
      rw [CallStack.top?, hdepicts.frames_eq]
      rfl
    unfold Machine.step Structured.step
    rw [htop]
    simp only
    generalize Machine.advance setup
      (.placed state.current.routine state.current.ip (packedSize below)) machine = advanced,
      Structured.advance setup.module setup.limits state = progress at hfollows
    cases hfollows with
    | continued hflow hrepresents =>
      cases hflow
      exact .running hrepresents
    | finished hflow hsurface =>
      cases hflow
      exact .returned hsurface
    | faulted hsurface => exact .trapped hsurface

/-- So is every number of steps. -/
theorem runFor_tracks (hplain : setup.module.Plain) (bound : Nat)
    (hrepresents : Represents setup.limits.capacity machine state) :
    (Machine.runFor setup bound machine).Tracks setup.limits.capacity
      (Structured.runFor setup.module setup.limits bound state) := by
  induction bound generalizing machine state with
  | zero => exact .running hrepresents
  | succ bound ih =>
    have htracks := step_tracks hplain hrepresents
    unfold Machine.runFor Structured.runFor
    generalize Machine.step setup machine = outcome,
      Structured.step setup.module setup.limits state = expected at htracks
    cases htracks with
    | running hnext => exact ih hnext
    | returned hsurface => exact .returned hsurface
    | trapped hsurface => exact .trapped hsurface

/-- A run starts as the structured one does. -/
theorem start_tracks (hplain : setup.module.Plain) (console : Console) :
    (Machine.start setup (.new setup.limits console)).Tracks setup.limits.capacity
      (Structured.start setup.module setup.limits console) := by
  have hdepicts : ((Machine.new setup.limits console).reset setup.limits).Depicts
      setup.limits.capacity ⟨[], [], ⟨console, ⟨0, []⟩, setup.limits.fuel, 0, 0⟩⟩ := by
    refine ⟨Machine.capacity_new setup.limits console, ⟨⟨rfl, rfl, ?_, ?_, by simp⟩, rfl⟩,
      rfl, rfl⟩
    · exact Nat.zero_le _
    · exact Nat.zero_le _
  unfold Machine.start Structured.start
  cases hentry : setup.module.entry with
  | error cause => exact .trapped rfl
  | ok main =>
    obtain ⟨hmember, hparameters⟩ := entry_eq_ok hentry
    obtain ⟨routine, hroutine, hmain⟩ := hplain _ hmember
    cases hroutine
    have hfollows := Machine.enter_leads_first hmain hparameters _ hdepicts
    simp only
    generalize Machine.enter setup.limits main
      ((Machine.new setup.limits console).reset setup.limits) = entered,
      Structured.enterFirst setup.limits main
        ⟨console, ⟨0, []⟩, setup.limits.fuel, 0, 0⟩ = progress at hfollows
    cases hfollows with
    | continued _ hrepresents => exact .running hrepresents
    | finished hflow _ => cases hflow
    | faulted hsurface => exact .trapped hsurface

/-- A run of a module of plain routines is, step by step, a structured run. -/
theorem runUpTo_tracks (hplain : setup.module.Plain) (bound : Nat) (console : Console) :
    (Machine.runUpTo setup bound (.new setup.limits console)).Tracks setup.limits.capacity
      (Structured.runUpTo setup.module setup.limits bound console) := by
  have hstart := start_tracks hplain console
  unfold Machine.runUpTo Structured.runUpTo
  generalize Machine.start setup (.new setup.limits console) = outcome,
    Structured.start setup.module setup.limits console = expected at hstart
  cases hstart with
  | running hfirst => exact runFor_tracks hplain bound hfirst
  | returned hsurface => exact .returned hsurface
  | trapped hsurface => exact .trapped hsurface

end Runs

/-! ## What can be seen of a run -/

/-- How a run stands. -/
inductive Verdict where
  | running
  | returned (result : Option Value)
  | trapped (trap : Trap)
deriving DecidableEq, Repr

/-- What can be seen of a run: how it stands, its console, its counters and the places of
its resources. -/
structure Observation where
  verdict : Verdict
  surface : Surface
deriving DecidableEq, Repr

/-- What can be seen of a run of the machine. -/
def Outcome.observed : Outcome → Observation
  | .running machine => ⟨.running, machine.surface⟩
  | .returned result machine => ⟨.returned result, machine.surface⟩
  | .trapped trap machine => ⟨.trapped trap, machine.surface⟩

/-- What can be seen of a structured run. -/
def Structured.Outcome.observed : Structured.Outcome → Observation
  | .running state => ⟨.running, state.surface⟩
  | .returned result surface => ⟨.returned result, surface⟩
  | .trapped trap surface => ⟨.trapped trap, surface⟩

/-- A run that has come as far as a structured run looks the same. -/
theorem Outcome.Tracks.observed_eq {capacity : Nat} {outcome : Outcome}
    {expected : Structured.Outcome} (htracks : outcome.Tracks capacity expected) :
    outcome.observed = expected.observed := by
  cases htracks with
  | running hrepresents =>
    obtain ⟨frames, values, -, hdepicts⟩ := hrepresents
    exact congrArg (Observation.mk .running) hdepicts.surface_eq
  | returned hsurface => exact congrArg (Observation.mk _) hsurface
  | trapped hsurface => exact congrArg (Observation.mk _) hsurface

/-- A module that verification accepts, that has no host functions, whose routines do not
load, store or take addresses of slots, and whose positions fit into 32 bits. -/
structure Module.Confined (module : Module) : Prop where
  accepted : (Verify.verify module).isValid = true
  closed : module.externals = []
  local_only : ∀ routine ∈ module.routines, ∀ instruction ∈ routine.code.toList,
    instruction.reachesMemory = false
  size_lt : ∀ routine ∈ module.routines, routine.code.size < 2 ^ 32

/-- All definitions of a module without host functions are routines. -/
theorem Module.exists_routine {module : Module} (hclosed : module.externals = [])
    {definition : Definition} (hdefinition : definition ∈ module.definitions) :
    ∃ routine, definition = .routine routine ∧ routine ∈ module.routines := by
  cases definition with
  | routine routine =>
    exact ⟨routine, rfl, List.mem_filterMap.mpr ⟨_, hdefinition, rfl⟩⟩
  | external function =>
    have hmember : function ∈ module.externals :=
      List.mem_filterMap.mpr ⟨_, hdefinition, rfl⟩
    rw [hclosed] at hmember
    simp at hmember

/-- A confined module consists of plain routines. -/
theorem Module.Confined.plain {module : Module} (hconfined : module.Confined) :
    module.Plain := by
  intro definition hdefinition
  obtain ⟨routine, rfl, hroutine⟩ := Module.exists_routine hconfined.closed hdefinition
  refine ⟨routine, rfl, Verify.storable_locals hconfined.accepted hdefinition,
    hconfined.size_lt routine hroutine, ?_⟩
  intro instruction hinstruction
  exact hconfined.local_only routine hroutine instruction (Array.mem_toList_iff.mpr hinstruction)

/-- Every number of steps of a confined module, with any limits and any console, looks the
same on the machine with a packed arena as on the machine with activation records: the same
result or trap, the same output and rest of the input, the same counters. -/
theorem observed_runUpTo {setup : Setup} (hconfined : setup.module.Confined) (bound : Nat)
    (console : Console) :
    (Machine.runUpTo setup bound (.new setup.limits console)).observed =
      (Structured.runUpTo setup.module setup.limits bound console).observed :=
  (runUpTo_tracks hconfined.plain bound console).observed_eq

/-- A machine for a recursive routine with two parameters. -/
def raising : Setup := ⟨Samples.pow 3 2, .default, .empty⟩

/-- Both machines print the power and return after the same steps. -/
theorem observed_runUpTo_raising :
    raising.module.Confined ∧
      (Machine.runUpTo raising 40 (.new raising.limits (.new []))).observed =
        (Structured.runUpTo raising.module raising.limits 40 (.new [])).observed ∧
      (Structured.runUpTo raising.module raising.limits 40 (.new [])).observed.verdict =
        .returned none := by
  have hconfined : raising.module.Confined :=
    ⟨by decide +kernel, by decide +kernel, by decide +kernel, by decide +kernel⟩
  exact ⟨hconfined, observed_runUpTo hconfined 40 _, by decide +kernel⟩

end StackCode
