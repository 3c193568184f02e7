import StackCode.Proofs.Lockstep.Metering
import StackCode.Proofs.TailCall.Replacement

/-!
# Tail calls in a run

A tail call finds the machine in the middle of a step: its instruction is fetched, and the
function value of an indirect call is taken.  In all these states the machine consists of
layers, so the tail call replaces the topmost one.  A run whose steps only work in the running
activation or replace it stays at its depth, however long it is.

Main definitions:

- `Machine.Underway`: the machines of a run, inside its steps and between them.
- `Machine.isLevel`: the next instruction neither opens nor closes an activation.

Main results:

- Theorem `Site.execute_stays`: instructions other than calls and returns.
- Theorem `Machine.step_level`: one step that keeps the depth.
- Theorem `Machine.piled_of_level`: any number of such steps.
- Theorem `Machine.tailEnter_replaces`: the discipline of tail calls.
-/

namespace StackCode

/-! ## Instructions that stay in the running activation -/

namespace Site

open Machine

variable {site : Site}

/-- Instructions without operands other than returns. -/
theorem simple_stays {opcode : Opcode} (hsimple : site.instruction = .simple opcode)
    (hret : opcode ≠ .ret) : site.Stays (simple opcode) fun _ => True := by
  have hpushed : ∀ value : Value, value.type = .i32 →
      site.Stays (do push value; return Flow.proceed) fun _ => True := by
    intro value htype
    refine Stays.bind (push_stays fun hvoid => ?_) fun _ _ => Stays.pure .intro
    rw [htype] at hvoid
    cases hvoid
  have hformed : opcode.shape ≠ .simple → site.instruction.isWellFormed = false := by
    intro hshape
    rw [hsimple]
    simp [Instruction.isWellFormed, Instruction.opcode, Instruction.shape, hshape]
  unfold simple
  split
  · exact Stays.pure .intro
  · exact absurd rfl hret
  · exact Stays.bind (pop_stays .u8) fun _ _ => Stays.bind (print_stays _) fun _ _ =>
      Stays.pure .intro
  · refine Stays.bind readChar_stays fun byte? _ => ?_
    cases byte? with
    | some byte => exact hpushed _ rfl
    | none => exact hpushed _ rfl
  · refine Stays.throw (.malformed (hformed ?_))
    cases opcode <;> simp_all [Opcode.shape]

/-- Instructions other than calls and returns stay in the running activation. -/
theorem execute_stays {instruction : Instruction} (hinstruction : site.instruction = instruction)
    (hcall : instruction.call? = none) (hret : instruction ≠ .simple .ret) :
    site.Stays (execute site.setup site.running instruction) fun _ => True := by
  have hproceed : ∀ {computation : Exec Unit}, site.Stays computation (fun _ => True) →
      site.Stays (do computation; return Flow.proceed) fun _ => True :=
    fun hstays => hstays.bind fun _ _ => Stays.pure .intro
  unfold execute
  cases hformed : instruction.isWellFormed with
  | false => exact Stays.throw (.malformed (hinstruction ▸ hformed))
  | true =>
    cases instruction with
    | simple opcode => exact simple_stays hinstruction fun hopcode => hret (by rw [hopcode])
    | typed opcode type =>
      have hshape : opcode.shape = .typed := by
        simpa [Instruction.isWellFormed, Instruction.opcode, Instruction.shape] using hformed
      exact hproceed (typed_stays hinstruction hshape)
    | convert opcode source target =>
      refine Stays.bind (pop_stays source) fun value hvalue => ?_
      refine Stays.bind (lift_stays (cast_allows hinstruction hvalue)) fun result htype => ?_
      refine hproceed (push_stays fun hvoid => .voidOperand ?_)
      rw [hinstruction]
      simp [Instruction.dataTypes, ← htype, hvoid]
    | conditional opcode comparison type => exact hproceed (conditional_stays hinstruction)
    | branch opcode label => exact hproceed (jump_stays hinstruction)
    | stack opcode operand =>
      cases opcode with
      | push => exact hproceed (pushOperand_stays hinstruction)
      | pop => exact hproceed (popOperand_stays hinstruction)
      | _ => cases hformed
    | call opcode mode target => cases hcall

end Site

/-- Going on elsewhere keeps the running activation but for its position. -/
theorem CallStack.top?_jump {calls : CallStack} {frame : Frame} (htop : calls.top? = some frame)
    (ip : Nat) : (calls.jump ip).top? = some { frame with ip } := by
  obtain ⟨frames, depth, rfl⟩ := calls
  cases frames with
  | nil => cases htop
  | cons top frames =>
    cases htop
    rfl

namespace Machine

/-! ## Machines of a run -/

/-- Before every step of a run there is a running activation. -/
theorem Reachable.exists_piled {setup : Setup} {first current : Machine} {bound : Nat}
    (hreachable : Reachable setup first)
    (hrunning : runUpTo setup bound first = .running current) :
    ∃ layer lower peak, current.Piled setup.limits (layer :: lower) peak := by
  obtain ⟨layers, peak, -, hpiled⟩ := piled_of_running (fun _ => True)
    (fun _ _ => .intro) (fun _ _ _ _ => .intro) hreachable.sound hrunning
  obtain ⟨layer, lower, rfl⟩ := List.exists_cons_of_ne_nil hpiled.active
  exact ⟨layer, lower, peak, hpiled⟩

/-- The layers of a machine that has fetched an instruction. -/
theorem Layered.fetched {limits : Limits} {layer : Layer} {lower : List Layer} {peak : Nat}
    {machine : Machine} (hlayered : machine.Layered limits (layer :: lower) peak) (frame : Frame) :
    (machine.fetched frame).Layered limits
      (⟨layer.routine, frame.ip + 1, layer.operands⟩ :: lower) peak := by
  have hjump : onCalls (CallStack.jump (frame.ip + 1)) machine =
      .ok () { machine with calls := machine.calls.jump (frame.ip + 1) } := rfl
  exact ((jump_yields (frame.ip + 1)).of_ok hlayered hjump).congr rfl rfl rfl

/-- The layers of a machine that has found what a call reaches. -/
theorem Layered.found {setup : Setup} {layer : Layer} {lower : List Layer} {peak : Nat}
    {machine found : Machine} {target : CallTarget} {definition : Definition}
    (hlayered : machine.Layered setup.limits (layer :: lower) peak)
    (hcallee : callee setup.module target machine = .ok definition found) :
    (definition ∈ setup.module.definitions ∧ target.Reaches setup.module definition) ∧
      ∃ operands,
        found.Layered setup.limits (⟨layer.routine, layer.ip, operands⟩ :: lower) peak := by
  let site : Site := ⟨setup, layer.routine, .call .call .direct target, lower, peak⟩
  obtain ⟨hdefinition, operands, -, hfound⟩ :=
    (site.callee_behaves rfl layer.ip layer.operands).yields.of_ok hlayered hcallee
  exact ⟨hdefinition, operands, hfound⟩

/-- The machines that a run passes through on its way to a tail call: before a step, after
an instruction was fetched, and after a call found what it reaches. -/
inductive Underway (setup : Setup) : Machine → Prop
  | running {first current : Machine} {bound : Nat} (hreachable : Reachable setup first)
      (hrunning : runUpTo setup bound first = .running current) : Underway setup current
  | fetched {machine : Machine} {frame : Frame} (hunderway : Underway setup machine)
      (htop : machine.calls.top? = some frame) : Underway setup (machine.fetched frame)
  | found {machine found : Machine} {target : CallTarget} {definition : Definition}
      (hunderway : Underway setup machine)
      (hcallee : callee setup.module target machine = .ok definition found) :
      Underway setup found

/-- A machine that is underway consists of layers. -/
theorem Underway.layered {setup : Setup} {machine : Machine} (hunderway : Underway setup machine) :
    ∃ layer lower peak, machine.Layered setup.limits (layer :: lower) peak := by
  induction hunderway with
  | running hreachable hrunning =>
    obtain ⟨layer, lower, peak, hpiled⟩ := hreachable.exists_piled hrunning
    exact ⟨layer, lower, peak, hpiled.layered⟩
  | fetched hunderway htop ih =>
    obtain ⟨layer, lower, peak, hlayered⟩ := ih
    exact ⟨_, lower, peak, hlayered.fetched _⟩
  | found hunderway hcallee ih =>
    obtain ⟨layer, lower, peak, hlayered⟩ := ih
    obtain ⟨-, operands, hfound⟩ := hlayered.found hcallee
    exact ⟨_, lower, peak, hfound⟩

/-! ## Steps that keep the depth -/

/-- The machine is about to execute an instruction that is neither a call nor a return, a
direct call of a host function or a tail call of a routine. -/
def isLevel (setup : Setup) (machine : Machine) : Bool :=
  match machine.calls.top? with
  | none => false
  | some frame =>
    match frame.routine.code[frame.ip]? with
    | none => false
    | some (.simple .ret) => false
    | some (.call _ mode target) =>
      match callee setup.module target (machine.fetched frame), mode with
      | .ok (.routine _) _, .tail => true
      | .ok (.external _) _, .direct => true
      | _, _ => false
    | some _ => true

section Steps

variable {setup : Setup} {layer : Layer} {lower : List Layer} {peak : Nat} {machine next : Machine}

/-- A tail call of a routine and a direct call of a host function leave the layers below
the running activation alone. -/
theorem call_level {mode : CallMode} {target : CallTarget} {definition : Definition}
    {found : Machine} {flow : Flow}
    (hlayered : machine.Layered setup.limits (layer :: lower) peak) (hpeak : lower.length < peak)
    (hcallee : callee setup.module target machine = .ok definition found)
    (hlevel : (∃ routine, definition = .routine routine ∧ mode = .tail) ∨
      ∃ function, definition = .external function ∧ mode = .direct)
    (hcall : call setup mode target machine = .ok flow next) :
    ∃ after, next.Layered setup.limits (after :: lower) peak := by
  obtain ⟨⟨hmember, hreaches⟩, operands, hfound⟩ := hlayered.found hcallee
  unfold call at hcall
  rw [bind_eq_of_ok hcallee] at hcall
  rcases hlevel with ⟨routine, rfl, rfl⟩ | ⟨function, rfl, rfl⟩
  · obtain ⟨_, entered, hentered, hdone⟩ := exists_of_bind_eq hcall
    cases hdone
    obtain ⟨-, hnext⟩ := (tailEnter_yields layer.routine routine layer.ip).of_ok hfound hentered
    rw [length_layerFrames, Nat.max_eq_left hpeak] at hnext
    exact ⟨⟨routine, 0, []⟩, hnext⟩
  · obtain ⟨_, called, hcalled, hdone⟩ := exists_of_bind_eq hcall
    cases hdone
    let site : Site := ⟨setup, layer.routine, .call .call .direct target, lower, peak⟩
    obtain ⟨⟨ip, remaining, hnext⟩, -⟩ :=
      (site.callExternal_stays rfl hmember hreaches).yields.of_ok ⟨_, operands, hfound⟩ hcalled
    exact ⟨_, hnext⟩

/-- An instruction that keeps the depth leaves the layers below the running activation
alone. -/
theorem execute_level {frame : Frame} {instruction : Instruction} {flow : Flow}
    (hlayered : machine.Layered setup.limits (layer :: lower) peak) (hpeak : lower.length < peak)
    (htop : machine.calls.top? = some frame) (hroutine : frame.routine = layer.routine)
    (hcode : frame.routine.code[frame.ip]? = some instruction)
    (hlevel : machine.isLevel setup = true)
    (hexecute : execute setup frame.routine instruction (machine.fetched frame) = .ok flow next) :
    ∃ after, next.Layered setup.limits (after :: lower) peak := by
  have hfetched := hlayered.fetched frame
  unfold isLevel at hlevel
  rw [htop] at hlevel
  simp only [hcode] at hlevel
  by_cases hplain : instruction.call? = none ∧ instruction ≠ .simple .ret
  · let site : Site := ⟨setup, layer.routine, instruction, lower, peak⟩
    rw [hroutine] at hexecute
    obtain ⟨⟨ip, operands, hnext⟩, -⟩ :=
      (site.execute_stays rfl hplain.1 hplain.2).yields.of_ok ⟨_, _, hfetched⟩ hexecute
    exact ⟨_, hnext⟩
  · cases instruction with
    | call opcode mode target =>
      have hcall : call setup mode target (machine.fetched frame) = .ok flow next := by
        unfold execute at hexecute
        split at hexecute
        · cases hexecute
        · exact hexecute
      simp only at hlevel
      split at hlevel
      · rename_i routine found hcallee
        exact call_level hfetched hpeak hcallee (.inl ⟨routine, rfl, rfl⟩) hcall
      · rename_i function found hcallee
        exact call_level hfetched hpeak hcallee (.inr ⟨function, rfl, rfl⟩) hcall
      · cases hlevel
    | simple opcode =>
      rw [not_and, not_not] at hplain
      rw [hplain rfl] at hlevel
      cases hlevel
    | _ => exact absurd ⟨rfl, nofun⟩ hplain

/-- One step that keeps the depth. -/
theorem step_level (hpiled : machine.Piled setup.limits (layer :: lower) peak)
    (hlevel : machine.isLevel setup = true) (hstep : step setup machine = .running next) :
    ∃ after, next.Piled setup.limits (after :: lower) peak := by
  have htop := hpiled.top?_eq
  generalize hframe : Frame.placed layer.routine layer.ip (totalSize (layerTypes lower)) = frame
    at htop
  have hroutine : frame.routine = layer.routine := by rw [← hframe]; rfl
  have hexecuted : ∃ instruction, frame.routine.code[frame.ip]? = some instruction ∧
      execute setup frame.routine instruction (machine.fetched frame) = .ok .proceed next := by
    unfold step at hstep
    rw [htop] at hstep
    simp only at hstep
    cases hcode : frame.routine.code[frame.ip]? with
    | none =>
      unfold isLevel at hlevel
      rw [htop] at hlevel
      simp [hcode] at hlevel
    | some instruction =>
      refine ⟨instruction, rfl, ?_⟩
      rw [advance_eq_execute hcode] at hstep
      by_cases hempty : machine.fuel = some 0
      · simp [hempty] at hstep
      · rw [if_neg hempty] at hstep
        split at hstep <;> simp_all
  obtain ⟨instruction, hcode, hexecute⟩ := hexecuted
  obtain ⟨after, hnext⟩ := execute_level hpiled.layered hpiled.peak_le htop hroutine hcode hlevel
    hexecute
  exact ⟨after, hnext, nofun, hpiled.depth_le, hpiled.peak_le⟩

/-- Any number of steps that keep the depth. -/
theorem piled_of_level {first current later : Machine} {begin stop : Nat}
    (hpiled : current.Piled setup.limits (layer :: lower) peak)
    (hcurrent : runUpTo setup begin first = .running current) (hle : begin ≤ stop)
    (hlater : runUpTo setup stop first = .running later)
    (hlevel : ∀ time, begin ≤ time → time < stop →
      (runUpTo setup time first).machine.isLevel setup = true) :
    ∃ after, later.Piled setup.limits (after :: lower) peak := by
  induction stop, hle using Nat.le_induction generalizing later with
  | base =>
    rw [hcurrent] at hlater
    cases hlater
    exact ⟨layer, hpiled⟩
  | succ stop hle ih =>
    obtain ⟨before, hbefore, hstep⟩ := exists_step_of_runUpTo_succ hlater
    obtain ⟨middle, hmiddle⟩ := ih hbefore fun time hlow hhigh => hlevel time hlow (by omega)
    have hnow := hlevel stop hle (Nat.lt_succ_self stop)
    rw [hbefore] at hnow
    exact step_level hmiddle hnow hstep

end Steps

/-! ## The discipline of tail calls -/

/-- In every run of every module, with any limits and any host: a tail call of a routine that
gives a result puts an activation of the routine in the place of the running one.  And however
many tail calls follow on each other, as long as no activation is opened or closed in between,
the depth, the callers and the deepest nesting stay as they were. -/
theorem tailEnter_replaces (setup : Setup) :
    (∀ machine old routine next, Underway setup machine → machine.calls.top? = some old →
      tailEnter routine machine = .ok () next → ∃ new, Replaces machine old routine next new) ∧
    ∀ first current later begin stop, Reachable setup first → begin ≤ stop →
      runUpTo setup begin first = .running current →
      runUpTo setup stop first = .running later →
      (∀ time, begin ≤ time → time < stop →
        (runUpTo setup time first).machine.isLevel setup = true) →
      later.calls.depth = current.calls.depth ∧
        later.calls.frames.tail = current.calls.frames.tail ∧ later.peak = current.peak := by
  constructor
  · intro machine old routine next hunderway htop hentered
    obtain ⟨layer, lower, peak, hlayered⟩ := hunderway.layered
    exact hlayered.replaces htop hentered
  · intro first current later begin stop hreachable hle hcurrent hlater hlevel
    obtain ⟨layer, lower, peak, hpiled⟩ := hreachable.exists_piled hcurrent
    obtain ⟨after, hafter⟩ := piled_of_level hpiled hcurrent hle hlater hlevel
    refine ⟨?_, ?_, ?_⟩
    · rw [hafter.depth_eq, hpiled.depth_eq]
      rfl
    · rw [hafter.layered.frames_eq, hpiled.layered.frames_eq]
      rfl
    · rw [hafter.layered.peak_eq, hpiled.layered.peak_eq]

/-- A routine with two arguments that tail calls one with a single argument. -/
def wide : Routine :=
  { Routine.empty 2 "wide" with
    parameters := [.i32, .i32]
    locals := #[.i8]
    code := #[.pushArgument 1, .tailCall 1] }

/-- A machine for two routines that tail call each other forever.  They differ in their
arguments and locals, and one leaves an operand behind. -/
def alternating : Setup :=
  let main : Routine :=
    { Routine.empty 0 entryName with
      code := #[Samples.pushInt 5, .callDefinition 1] }
  let narrow : Routine :=
    { Routine.empty 1 "narrow" with
      parameters := [.i32]
      locals := #[.i64]
      code := #[Samples.pushInt 7, .pushArgument 0, .pushArgument 0, .tailCall 2] }
  ⟨⟨"alternate", [.routine main, .routine narrow, .routine wide], .empty⟩, .default, .empty⟩

/-- Whether a tail call of the wide routine gives a result, once the instruction of the
running activation is fetched. -/
def reachesWide (machine : Machine) : Bool :=
  machine.calls.top?.any fun frame =>
    match tailEnter wide (machine.fetched frame) with
    | .ok _ _ => true
    | .error _ _ => false

theorem exists_of_reachesWide {machine : Machine} (hreaches : machine.reachesWide = true) :
    ∃ frame next, machine.calls.top? = some frame ∧
      tailEnter wide (machine.fetched frame) = .ok () next := by
  unfold reachesWide at hreaches
  cases htop : machine.calls.top? with
  | none => simp [htop] at hreaches
  | some frame =>
    rw [htop, Option.any_some] at hreaches
    split at hreaches
    · rename_i result next hentered
      exact ⟨frame, next, rfl, hentered⟩
    · cases hreaches

/-- A run that goes on from a machine which passes a check. -/
theorem exists_running_of_any {outcome : Outcome} {check : Machine → Bool}
    (hpaused : (paused? outcome).any check = true) :
    ∃ current, outcome = .running current ∧ check current = true := by
  cases outcome with
  | running current => exact ⟨current, rfl, by simpa [paused?] using hpaused⟩
  | returned result last => simp [paused?] at hpaused
  | trapped trap last => simp [paused?] at hpaused

/-- The first of the tail calls, and the depth after eight of them. -/
theorem tailEnter_replaces_alternating :
    (∃ machine old next new, Underway alternating machine ∧ machine.calls.top? = some old ∧
      tailEnter wide machine = .ok () next ∧ Replaces machine old wide next new) ∧
    ∃ current later,
      runUpTo alternating 2 (.new alternating.limits (.new [])) = .running current ∧
        runUpTo alternating 26 (.new alternating.limits (.new [])) = .running later ∧
          current.calls.depth = 2 ∧ later.calls.depth = current.calls.depth := by
  obtain ⟨hreplaces, hlevel⟩ := tailEnter_replaces alternating
  constructor
  · have hcalls : (paused? (runUpTo alternating 5 (.new alternating.limits (.new [])))).any
        reachesWide = true := by
      decide +kernel
    obtain ⟨current, hcurrent, hreaches⟩ := exists_running_of_any hcalls
    obtain ⟨frame, next, htop, hentered⟩ := exists_of_reachesWide hreaches
    have hunderway : Underway alternating (current.fetched frame) :=
      .fetched (.running (.new (.new [])) hcurrent) htop
    have hold : (current.fetched frame).calls.top? = some { frame with ip := frame.ip + 1 } :=
      CallStack.top?_jump htop (frame.ip + 1)
    obtain ⟨new, hnew⟩ := hreplaces _ _ wide next hunderway hold hentered
    exact ⟨_, _, next, new, hunderway, hold, hentered, hnew⟩
  · have hsteps : ∀ time < 26, 2 ≤ time →
        (runUpTo alternating time (.new alternating.limits (.new []))).machine.isLevel
          alternating = true := by
      decide +kernel
    have hdeep : (paused? (runUpTo alternating 2 (.new alternating.limits (.new [])))).any
        (fun current => current.calls.depth = 2) = true := by
      decide +kernel
    have hruns : (paused? (runUpTo alternating 26 (.new alternating.limits (.new [])))).any
        (fun _ => true) = true := by
      decide +kernel
    obtain ⟨current, hcurrent, hdepth⟩ := exists_running_of_any hdeep
    obtain ⟨later, hlater, -⟩ := exists_running_of_any hruns
    obtain ⟨hsame, -, -⟩ := hlevel _ current later 2 26 (.new (.new [])) (by decide) hcurrent hlater
      fun time hlow hhigh => hsteps time hhigh hlow
    exact ⟨current, later, hcurrent, hlater, of_decide_eq_true hdepth, hsame⟩

end Machine

end StackCode
