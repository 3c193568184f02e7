import StackCode.Proofs.Machine.StepEffects

/-!
# Layers across steps

Whatever the code of a module is, each step changes the layers of a machine in one of the
ways that `Moves` lists, ends the run, or traps with a fault of the instruction that it
executed.  This file puts the instructions together to that statement, and says the same of
the start of a run.

Main definitions:

- `Machine.Piled`: a machine is a pile of layers within the limits.
- `Machine.Ensues`: what a step leads to.
- `Machine.Starts`: what the start of a run leads to.

Main results:

- Theorem `Site.execute_behaves`: every instruction.
- Theorem `Machine.step_moves`: every step.
- Theorem `Machine.start_layered`: the start of every run.
-/

namespace StackCode

namespace Site

open Machine

variable {site : Site}

/-! ## Calls -/

/-- An address that is no function value leads nowhere or to an unresolved call. -/
theorem functionAt_allows {opcode : Opcode} {mode : CallMode} {expected : Signature}
    (hcall : site.instruction = .call opcode mode (.indirect expected)) (address : UInt64) :
    Allows (Raises site.setup site.running site.instruction)
      (fun definition => definition ∈ site.setup.module.definitions)
      (functionAt site.setup.module address) := by
  cases hfunction : functionAt site.setup.module address with
  | ok definition => exact functionAt_mem hfunction
  | error fault =>
    unfold functionAt at hfunction
    split at hfunction
    · cases hfunction
    · split at hfunction
      · cases hfunction
        exact .dynamic rfl
      · cases hfunction
        have hmode : site.instruction.call? = some (mode, .indirect expected) := by rw [hcall]; rfl
        exact .missingValue hmode

/-- Finding what a call reaches takes the operands that say so. -/
theorem callee_behaves {opcode : Opcode} {mode : CallMode} {target : CallTarget}
    (hcall : site.instruction = .call opcode mode target) (ip : Nat) (operands : List DataType) :
    Behaves site.setup.limits.capacity (Raises site.setup site.running site.instruction)
      (Layered site.setup.limits (⟨site.running, ip, operands⟩ :: site.lower) site.peak)
      (callee site.setup.module target)
      (fun definition machine => (definition ∈ site.setup.module.definitions ∧
          target.Reaches site.setup.module definition) ∧
        ∃ rest, operands = target.operandTypes ++ rest ∧ machine.Layered site.setup.limits
          (⟨site.running, ip, rest⟩ :: site.lower) site.peak) := by
  cases target with
  | definition id =>
    simp only [callee]
    cases hfound : site.setup.module.find? id with
    | none =>
      have hnamed : site.instruction.callee? = some id := by rw [hcall]; rfl
      exact Behaves.throw (.missingDefinition hnamed hfound) fun _ h => h.sound
    | some definition =>
      refine Behaves.pure fun machine hlayered => ⟨⟨?_, hfound⟩, operands, rfl, hlayered⟩
      exact List.mem_of_find?_eq_some hfound
  | indirect expected =>
    have hfloor := floorOf_placed site.running ip (layerTypes site.lower) (layerFrames site.lower)
    refine Behaves.bind (.of_yields (pop_yields hfloor _) (pop_throws site.raises_dynamic _)) ?_
    rintro address popped ⟨⟨-, rest, rfl, hpopped⟩, -⟩
    refine Behaves.bind (.of_yields (Yields.inspect fun _ h => HasProfile.sound h)
      (Throws.inspect fun _ => functionAt_allows hcall address.raw)) ?_ popped hpopped
    rintro definition found ⟨⟨hfound, -⟩, hmember⟩
    simp only
    by_cases hsignature : definition.signature = expected
    · rw [if_pos hsignature]
      exact ⟨⟨hmember, hsignature⟩, rest, rfl, hfound⟩
    · rw [if_neg hsignature]
      exact ⟨hfound.sound, .dynamic rfl⟩

/-- A computation that stays in the running activation, after which the machine goes on. -/
theorem Stays.concludes {α : Type} {computation : Exec α} {known : α → Prop}
    (hstays : site.Stays computation known) (hpeak : site.lower.length < site.peak)
    (ip : Nat) (operands : List DataType) :
    Behaves site.setup.limits.capacity (Raises site.setup site.running site.instruction)
      site.Holds (do let _ ← computation; return Flow.proceed)
      (Concludes site.setup (⟨site.running, ip, operands⟩ :: site.lower) site.peak) := by
  refine Behaves.bind hstays fun _ => Behaves.pure ?_
  rintro machine ⟨⟨nextIp, nextOperands, hlayered⟩, -⟩
  refine ⟨⟨site.running, nextIp, nextOperands⟩ :: site.lower, .stays, ?_⟩
  rwa [List.length_cons, Nat.max_eq_left hpeak]

/-- Calls in either mode, of routines and of host functions. -/
theorem call_behaves {opcode : Opcode} {mode : CallMode} {target : CallTarget} {ip : Nat}
    (hcode : site.running.code[ip]? = some (.call opcode mode target))
    (hcall : site.instruction = .call opcode mode target)
    (hpeak : site.lower.length < site.peak) (operands : List DataType) :
    Behaves site.setup.limits.capacity (Raises site.setup site.running site.instruction)
      (Layered site.setup.limits (⟨site.running, ip + 1, operands⟩ :: site.lower) site.peak)
      (call site.setup mode target)
      (Concludes site.setup (⟨site.running, ip, operands⟩ :: site.lower) site.peak) := by
  have hmode : site.instruction.call? = some (mode, target) := by rw [hcall]; rfl
  refine Behaves.bind (callee_behaves hcall (ip + 1) operands) ?_
  rintro definition found ⟨⟨hmember, hreaches⟩, rest, rfl, hfound⟩
  cases definition with
  | routine routine =>
    have hvoid : .void ∈ routine.frameTypes → Raises site.setup site.running site.instruction
        (.unsupportedType .push .void) := fun hvoid => .voidSlot hmember hvoid
    cases mode with
    | direct =>
      have hfloor := floorOf_placed site.running (ip + 1) (layerTypes site.lower)
        (layerFrames site.lower)
      refine Behaves.bind (.of_yields (enter_yields rest hfloor site.setup.limits routine)
        (enter_throws site.raises_dynamic (.dynamic rfl) hvoid site.setup.limits))
        (fun _ => Behaves.pure ?_) found hfound
      rintro machine ⟨⟨hdepth, operands, rfl, hopened⟩, -⟩
      simp only [List.length_cons, length_layerFrames] at hdepth hopened
      exact ⟨⟨routine, 0, []⟩ :: ⟨site.running, ip + 1, operands⟩ :: site.lower,
        .opens hcode hmember hreaches hdepth, hopened⟩
    | tail =>
      refine Behaves.bind (.of_yields (tailEnter_yields site.running routine (ip + 1))
        (tailEnter_throws site.raises_dynamic (.dynamic rfl) hvoid))
        (fun _ => Behaves.pure ?_) found hfound
      rintro machine ⟨⟨-, hopened⟩, -⟩
      rw [length_layerFrames] at hopened
      exact ⟨⟨routine, 0, []⟩ :: site.lower, .replaces hcode hmember hreaches, hopened⟩
  | external function =>
    have hstays := callExternal_stays hmode hmember hreaches
    have hholds : site.Holds found := ⟨ip + 1, rest, hfound⟩
    cases mode with
    | direct => exact hstays.concludes hpeak ip _ found hholds
    | tail =>
      refine Behaves.bind hstays ?_ found hholds
      rintro _ called ⟨⟨position, remaining, hcalled⟩, -⟩
      exact (leave_behaves _ _ position hpeak).weaken (fun _ h => .dynamic h.1) (fun _ h => h)
        (fun _ _ h => h) called hcalled

/-! ## Instructions -/

theorem simple_behaves {opcode : Opcode} (hsimple : site.instruction = .simple opcode)
    (hpeak : site.lower.length < site.peak) (ip : Nat) (operands : List DataType) :
    Behaves site.setup.limits.capacity (Raises site.setup site.running site.instruction)
      site.Holds (simple opcode)
      (Concludes site.setup (⟨site.running, ip, operands⟩ :: site.lower) site.peak) := by
  have hnothing : site.Stays (Pure.pure () : Exec Unit) fun _ => True := Stays.pure .intro
  have hformed : opcode.shape ≠ .simple → site.instruction.isWellFormed = false := by
    intro hshape
    rw [hsimple]
    simp [Instruction.isWellFormed, Instruction.opcode, Instruction.shape, hshape]
  unfold simple
  split
  · exact hnothing.concludes hpeak ip operands
  · rintro machine ⟨position, remaining, hlayered⟩
    exact (leave_behaves _ _ position hpeak).weaken (fun _ h => .dynamic h.1) (fun _ h => h)
      (fun _ _ h => h) machine hlayered
  · refine Behaves.bind (pop_stays .u8) fun value machine hpopped => ?_
    exact (print_stays _).concludes hpeak ip operands machine hpopped.1
  · refine Behaves.bind readChar_stays fun byte? machine hread => ?_
    cases byte? with
    | some byte =>
      have hpushed : site.Stays (push (.ofNat .i32 byte.toNat)) fun _ => True := push_stays (by rintro ⟨⟩)
      exact hpushed.concludes hpeak ip operands machine hread.1
    | none =>
      have hpushed : site.Stays (push (.ofInt .i32 (-1))) fun _ => True := push_stays (by rintro ⟨⟩)
      exact hpushed.concludes hpeak ip operands machine hread.1
  · refine Behaves.throw (.malformed (hformed ?_)) fun _ h => h.sound
    cases opcode <;> simp_all [Opcode.shape]

/-- A conversion pops a value of the source type and pushes one of the target type. -/
theorem convert_behaves {opcode : Opcode} {source target : DataType}
    (hconvert : site.instruction = .convert opcode source target)
    (hpeak : site.lower.length < site.peak) (ip : Nat) (operands : List DataType) :
    Behaves site.setup.limits.capacity (Raises site.setup site.running site.instruction)
      site.Holds (do
        let value ← pop source
        push (← lift (Numeric.cast value target))
        return Flow.proceed)
      (Concludes site.setup (⟨site.running, ip, operands⟩ :: site.lower) site.peak) := by
  refine Behaves.bind (pop_stays source) ?_
  rintro value popped ⟨hpopped, hvalue⟩
  refine Behaves.bind (lift_stays (cast_allows hconvert hvalue)) ?_ popped hpopped
  rintro result lifted ⟨hlifted, htype⟩
  have hpushed : site.Stays (push result) fun _ => True := by
    refine push_stays fun hvoid => .voidOperand ?_
    rw [hconvert]
    simp [Instruction.dataTypes, ← htype, hvoid]
  exact hpushed.concludes hpeak ip operands lifted hlifted

/-- Every instruction, well formed or not, of every routine. -/
theorem execute_behaves (site : Site) {ip : Nat} {instruction : Instruction}
    (hcode : site.running.code[ip]? = some instruction)
    (hinstruction : site.instruction = instruction) (hpeak : site.lower.length < site.peak)
    (operands : List DataType) :
    Behaves site.setup.limits.capacity (Raises site.setup site.running site.instruction)
      (Layered site.setup.limits (⟨site.running, ip + 1, operands⟩ :: site.lower) site.peak)
      (execute site.setup site.running instruction)
      (Concludes site.setup (⟨site.running, ip, operands⟩ :: site.lower) site.peak) := by
  intro machine hlayered
  have hholds : site.Holds machine := ⟨ip + 1, operands, hlayered⟩
  unfold execute
  cases hformed : instruction.isWellFormed with
  | false => exact ⟨hlayered.sound, .malformed (hinstruction ▸ hformed)⟩
  | true =>
    cases instruction with
    | simple opcode => exact simple_behaves hinstruction hpeak ip operands machine hholds
    | typed opcode type =>
      have hshape : opcode.shape = .typed := by
        simpa [Instruction.isWellFormed, Instruction.opcode, Instruction.shape] using hformed
      exact (typed_stays hinstruction hshape).concludes hpeak ip operands machine hholds
    | convert opcode source target =>
      exact convert_behaves hinstruction hpeak ip operands machine hholds
    | conditional opcode comparison type =>
      exact (conditional_stays hinstruction).concludes hpeak ip operands machine hholds
    | branch opcode label =>
      exact (jump_stays hinstruction).concludes hpeak ip operands machine hholds
    | stack opcode operand =>
      cases opcode with
      | push => exact (pushOperand_stays hinstruction).concludes hpeak ip operands machine hholds
      | pop => exact (popOperand_stays hinstruction).concludes hpeak ip operands machine hholds
      | _ => cases hformed
    | call opcode mode target =>
      exact call_behaves hcode hinstruction hpeak operands machine hlayered

end Site

/-! ## Steps -/

/-- The faults that a routine can raise at a position.  Past its end it returns, which never
lacks room. -/
def RaisesAt (setup : Setup) (routine : Routine) (ip : Nat) (fault : Fault) : Prop :=
  match routine.code[ip]? with
  | none => fault.isDynamic = true ∧ fault ≠ .stackOverflow
  | some instruction => Raises setup routine instruction fault

namespace Machine

/-- The machine is a pile of layers, of which there is one at least and no more than the
limits and the peak allow. -/
structure Piled (limits : Limits) (layers : List Layer) (peak : Nat) (machine : Machine) :
    Prop where
  layered : machine.Layered limits layers peak
  active : layers ≠ []
  depth_le : layers.length ≤ limits.maxCallDepth
  peak_le : layers.length ≤ peak

/-- The number of activations is that of the layers. -/
theorem Piled.depth_eq {limits : Limits} {layers : List Layer} {peak : Nat} {machine : Machine}
    (hpiled : machine.Piled limits layers peak) : machine.calls.depth = layers.length := by
  rw [machine.calls.depth_eq, hpiled.layered.frames_eq, length_layerFrames]

/-- The running activation is that of the topmost layer. -/
theorem Piled.top?_eq {limits : Limits} {layer : Layer} {lower : List Layer} {peak : Nat}
    {machine : Machine} (hpiled : machine.Piled limits (layer :: lower) peak) :
    machine.calls.top? =
      some (.placed layer.routine layer.ip (totalSize (layerTypes lower))) := by
  rw [CallStack.top?, hpiled.layered.frames_eq]
  rfl

/-- A step executes the instruction of the topmost layer, or returns from it. -/
theorem advance_behaves (setup : Setup) (frame : Frame) {lower : List Layer} {peak : Nat}
    (hpeak : lower.length < peak) (operands : List DataType) :
    Behaves setup.limits.capacity (RaisesAt setup frame.routine frame.ip)
      (Layered setup.limits (⟨frame.routine, frame.ip, operands⟩ :: lower) peak)
      (advance setup frame)
      (Concludes setup (⟨frame.routine, frame.ip, operands⟩ :: lower) peak) := by
  unfold advance RaisesAt
  cases hcode : frame.routine.code[frame.ip]? with
  | none => exact leave_behaves setup ⟨frame.routine, frame.ip, operands⟩ frame.ip hpeak
  | some instruction =>
    let site : Site := ⟨setup, frame.routine, instruction, lower, peak⟩
    refine Behaves.bind (.of_yields (jump_yields (frame.ip + 1)) (onCalls_throws _)) ?_
    rintro _ jumped ⟨hjumped, -⟩
    refine Behaves.bind (.of_yields (spend_yields setup.limits _ peak)
      (spend_throws site.raises_dynamic)) ?_ jumped hjumped
    rintro _ spent ⟨hspent, -⟩
    exact site.execute_behaves hcode rfl hpeak operands spent hspent

/-- What a step leads to from given layers. -/
def Ensues (setup : Setup) (layers : List Layer) (peak : Nat) : Outcome → Prop
  | .running next => ∃ after, Moves setup layers after ∧
      next.Piled setup.limits after (max peak after.length)
  | .returned result last => last.Sound setup.limits.capacity ∧ ∃ layer, layers = [layer] ∧
      result.toList.map Value.type = resultTypes layer.routine.returnType
  | .trapped trap last => last.Sound setup.limits.capacity ∧ ∃ layer lower,
      layers = layer :: lower ∧ trap.routine = layer.routine.name ∧
        trap.instruction = layer.ip ∧ RaisesAt setup layer.routine layer.ip trap.fault

/-- Every step of every machine. -/
theorem step_moves {setup : Setup} {layers : List Layer} {peak : Nat} {machine : Machine}
    (hpiled : machine.Piled setup.limits layers peak) :
    Ensues setup layers peak (step setup machine) := by
  obtain ⟨layer, lower, rfl⟩ := List.exists_cons_of_ne_nil hpiled.active
  have hanswers := advance_behaves setup
    (.placed layer.routine layer.ip (totalSize (layerTypes lower))) hpiled.peak_le
    layer.operands machine hpiled.layered
  unfold step
  rw [hpiled.top?_eq]
  simp only
  split
  · rename_i next hadvanced
    rw [hadvanced] at hanswers
    obtain ⟨after, hmoves, hnext⟩ := hanswers
    exact ⟨after, hmoves, hnext, hmoves.ne_nil, hmoves.length_le hpiled.depth_le,
      Nat.le_max_right _ _⟩
  · rename_i result last hadvanced
    rw [hadvanced] at hanswers
    exact hanswers
  · rename_i fault last hadvanced
    rw [hadvanced] at hanswers
    exact ⟨hanswers.1, layer, lower, rfl, rfl, rfl, hanswers.2⟩

/-! ## The start of a run -/

/-- What the start of a run leads to: a pile of one layer, or a trap because there is no
entry, because of a void slot or because of the limits. -/
def Starts (setup : Setup) : Outcome → Prop
  | .running first => ∃ main, setup.module.entry = .ok main ∧
      first.Piled setup.limits [⟨main, 0, []⟩] 1
  | .returned .. => False
  | .trapped trap last => last.Sound setup.limits.capacity ∧
      ∀ main, setup.module.entry = .ok main → trap.fault.isDynamic = true ∨
        (trap.fault = .unsupportedType .push .void ∧ .void ∈ main.frameTypes)

/-- A machine that is about to start a run has no values and no activations. -/
theorem reset_hasProfile {limits : Limits} {machine : Machine}
    (hsound : machine.Sound limits.capacity) :
    (machine.reset limits).HasProfile ⟨limits.capacity, [], [], 0⟩ := by
  obtain ⟨hcapacity, types, hpacked⟩ := hsound
  exact ⟨hcapacity, Arena.packed_clear hpacked.bytes_le, rfl, rfl⟩

/-- The first activation of a run starts at the bottom of the arena. -/
theorem enter_behaves (limits : Limits) (main : Routine) :
    Behaves limits.capacity (fun fault => fault.isDynamic = true ∨
        (fault = .unsupportedType .push .void ∧ .void ∈ main.frameTypes))
      (HasProfile ⟨limits.capacity, [], [], 0⟩) (enter limits main)
      (fun _ machine => machine.Piled limits [⟨main, 0, []⟩] 1) := by
  have hfloor : floorOf [] = totalSize [] := rfl
  refine (Behaves.of_yields (enter_yields [] hfloor limits main)
    (enter_throws (fun _ hdynamic _ => .inl hdynamic) (.inl rfl)
      (fun hvoid => .inr ⟨rfl, hvoid⟩) limits)).weaken (fun _ h => h) (fun _ h => h) ?_
  rintro _ machine ⟨⟨hroom, rest, hoperands, hopened⟩, -⟩
  have hnone : rest = [] := (List.append_eq_nil_iff.mp hoperands.symm).2
  subst hnone
  exact ⟨hopened, nofun, hroom, Nat.le_refl 1⟩

/-- The start of every run. -/
theorem start_layered {setup : Setup} {machine : Machine}
    (hsound : machine.Sound setup.limits.capacity) : Starts setup (start setup machine) := by
  have hreset := reset_hasProfile hsound
  unfold start
  cases hentry : setup.module.entry with
  | error cause => exact ⟨hreset.sound, fun main hmain => by simp [hentry] at hmain⟩
  | ok main =>
    have hanswers := enter_behaves setup.limits main (machine.reset setup.limits) hreset
    simp only
    split
    · rename_i result first hentered
      rw [hentered] at hanswers
      exact ⟨main, hentry, hanswers⟩
    · rename_i fault first hentered
      rw [hentered] at hanswers
      refine ⟨hanswers.1, fun other hother => ?_⟩
      rw [hentry] at hother
      cases hother
      exact hanswers.2

end Machine

end StackCode
