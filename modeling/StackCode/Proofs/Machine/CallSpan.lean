import StackCode.Proofs.Machine.FrameInvariant

/-!
# The span of a call

A direct call opens an activation on top of its arguments.  Until the machine is back in
the activation that made the call, everything happens on top of the values which that
activation kept: the called routine, what it calls, and what replaces it by tail calls.
When the machine comes back, these values are what they were, with the result of the
routine that returned on top.

Main definitions:

- `DirectCall`: a direct call of a run that opened an activation.
- `DirectCall.Keeps`, `DirectCall.Untouched`, `DirectCall.Restored`: the values of the
  caller when it calls, while the call lasts and when the machine comes back.
- `Machine.Returning`: a machine that is about to close an activation.

Main results:

- Theorem `Moves.split`: a step above some layers leaves these alone or returns to them.
- Theorem `Machine.piled_of_running`: invariants of layers over a run.
- Theorem `DirectCall.Opens.exists_inner`: layers above the caller while a call lasts.
- Theorem `Machine.calls_restore`: the discipline of calls and returns.
-/

namespace StackCode

/-! ## Steps above layers -/

/-- A step from layers on top of others moves these layers, or it closes the only one of
them and hands its result down. -/
theorem Moves.split {setup : Setup} {inner base after : List Layer}
    (hmoves : Moves setup (inner ++ base) after) (hinner : inner ≠ []) :
    (∃ next, Moves setup inner next ∧ after = next ++ base) ∨
      ∃ layer caller lower ip, inner = [layer] ∧ base = caller :: lower ∧
        after = ⟨caller.routine, ip,
          Machine.resultTypes layer.routine.returnType ++ caller.operands⟩ :: lower := by
  obtain ⟨layer, upper, rfl⟩ := List.exists_cons_of_ne_nil hinner
  generalize hlayers : layer :: upper ++ base = layers at hmoves
  cases hmoves with
  | stays =>
    cases hlayers
    exact .inl ⟨_, .stays, rfl⟩
  | opens hcode hmember hreaches hdepth =>
    cases hlayers
    have hroom : upper.length + 1 < setup.limits.maxCallDepth := by
      have hsum : (upper ++ base).length + 1 < setup.limits.maxCallDepth := hdepth
      rw [List.length_append] at hsum
      omega
    exact .inl ⟨_, .opens hcode hmember hreaches hroom, rfl⟩
  | replaces hcode hmember hreaches =>
    cases hlayers
    exact .inl ⟨_, .replaces hcode hmember hreaches, rfl⟩
  | @resumes routine caller ip callerIp nextIp operands callerOperands lower =>
    cases upper with
    | nil =>
      cases hlayers
      exact .inr ⟨_, ⟨caller, callerIp, callerOperands⟩, lower, nextIp, rfl, rfl, rfl⟩
    | cons second upper =>
      cases hlayers
      exact .inl ⟨_, .resumes, rfl⟩

namespace Machine

/-! ## Layers over a run -/

section Runs

variable {setup : Setup} {machine : Machine}

/-- One more step. -/
theorem runUpTo_succ_of_running {bound : Nat} {current : Machine}
    (hrunning : runUpTo setup bound machine = .running current) :
    runUpTo setup (bound + 1) machine = step setup current := by
  unfold runUpTo at hrunning ⊢
  cases hfirst : start setup machine with
  | returned result last => simp [hfirst] at hrunning
  | trapped trap last => simp [hfirst] at hrunning
  | running first =>
    simp only [hfirst] at hrunning ⊢
    rw [runFor_add_of_running hrunning 1]
    cases htaken : step setup current <;> simp [runFor, htaken]

/-- The last of several steps of a run is a step from where the others lead. -/
theorem exists_step_of_runUpTo_succ {bound : Nat} {current : Machine}
    (hrunning : runUpTo setup (bound + 1) machine = .running current) :
    ∃ before, runUpTo setup bound machine = .running before ∧
      step setup before = .running current := by
  unfold runUpTo at hrunning ⊢
  cases hfirst : start setup machine with
  | returned result last => simp [hfirst] at hrunning
  | trapped trap last => simp [hfirst] at hrunning
  | running first =>
    simp only [hfirst] at hrunning ⊢
    exact exists_step_of_runFor_succ hrunning

/-- Steps that have ended a run did so by the last of them. -/
theorem exists_last_step_of_runFor {bound : Nat} {outcome : Outcome}
    (hrun : runFor setup bound machine = outcome)
    (hended : ∀ current, outcome ≠ .running current) :
    ∃ steps current, runFor setup steps machine = .running current ∧
      step setup current = outcome := by
  induction bound generalizing machine with
  | zero => exact absurd hrun.symm (hended machine)
  | succ bound ih =>
    cases htaken : step setup machine with
    | running next =>
      rw [runFor_succ_of_running bound htaken] at hrun
      obtain ⟨steps, current, hcurrent, hlast⟩ := ih hrun
      refine ⟨steps + 1, current, ?_, hlast⟩
      rw [runFor_succ_of_running steps htaken, hcurrent]
    | returned result last =>
      simp only [runFor, htaken] at hrun
      exact ⟨0, machine, rfl, htaken.trans hrun⟩
    | trapped trap last =>
      simp only [runFor, htaken] at hrun
      exact ⟨0, machine, rfl, htaken.trans hrun⟩

/-- A run that has ended did so at its start or by a step. -/
theorem exists_last_step {bound : Nat} {outcome : Outcome}
    (hrun : runUpTo setup bound machine = outcome)
    (hended : ∀ current, outcome ≠ .running current) :
    start setup machine = outcome ∨ ∃ steps current,
      runUpTo setup steps machine = .running current ∧ step setup current = outcome := by
  unfold runUpTo at hrun ⊢
  cases hfirst : start setup machine with
  | running first =>
    simp only [hfirst] at hrun ⊢
    exact .inr (exists_last_step_of_runFor hrun hended)
  | returned result last => exact .inl (by simpa [hfirst] using hrun)
  | trapped trap last => exact .inl (by simpa [hfirst] using hrun)

/-- What holds of the first layer of a run and is kept by every move holds of the layers
before every step. -/
theorem piled_of_running (invariant : List Layer → Prop)
    (hfirst : ∀ main, setup.module.entry = .ok main → invariant [⟨main, 0, []⟩])
    (hmoves : ∀ layers after, invariant layers → Moves setup layers after → invariant after)
    (hsound : machine.Sound setup.limits.capacity) {bound : Nat} {current : Machine}
    (hrunning : runUpTo setup bound machine = .running current) :
    ∃ layers peak, invariant layers ∧ current.Piled setup.limits layers peak := by
  induction bound generalizing current with
  | zero =>
    have hstarts := start_layered hsound
    unfold runUpTo at hrunning
    cases hstart : start setup machine with
    | running first =>
      simp only [hstart, runFor_zero] at hrunning
      cases hrunning
      rw [hstart] at hstarts
      obtain ⟨main, hentry, hpiled⟩ := hstarts
      exact ⟨_, 1, hfirst main hentry, hpiled⟩
    | returned result last => simp [hstart] at hrunning
    | trapped trap last => simp [hstart] at hrunning
  | succ bound ih =>
    obtain ⟨before, hbefore, hstep⟩ := exists_step_of_runUpTo_succ hrunning
    obtain ⟨layers, peak, hinvariant, hpiled⟩ := ih hbefore
    have hensues := step_moves hpiled
    rw [hstep] at hensues
    obtain ⟨after, hmove, hnext⟩ := hensues
    exact ⟨after, _, hmoves layers after hinvariant hmove, hnext⟩

end Runs

end Machine

/-! ## Calls -/

/-- A direct call of a run that opened an activation: the machine before it and after it,
the activation that made the call and the one that it opened. -/
structure DirectCall (setup : Setup) (machine : Machine) where
  time : Nat
  before : Machine
  caller : Frame
  opcode : Opcode
  target : CallTarget
  opened : Machine
  entered : Frame
  running : Machine.runUpTo setup time machine = .running before
  caller_eq : before.calls.top? = some caller
  code_eq : caller.routine.code[caller.ip]? = some (.call opcode .direct target)
  called : Machine.step setup before = .running opened
  entered_eq : opened.calls.top? = some entered
  deeper : opened.calls.depth = before.calls.depth + 1

namespace DirectCall

variable {setup : Setup} {machine : Machine}

/-- The call lasts: up to a time, the machine has not come back to the caller.  It is there
when it is as deep as it was, since activations lie one above the other. -/
def Lasts (call : DirectCall setup machine) (later : Nat) : Prop :=
  ∀ middle current, call.time < middle → middle ≤ later →
    Machine.runUpTo setup middle machine = .running current →
      current.calls.depth ≠ call.before.calls.depth

/-- The values that the caller keeps when it calls: all but the function value of an
indirect call and the arguments, which lie from the base of the opened activation on. -/
structure Keeps (call : DirectCall setup machine) (kept : List (Nat × DataType)) : Prop where
  tags_eq : ∃ taken, call.before.memory.arena.tags = taken ++ kept ∧
    taken.map Prod.snd = call.target.operandTypes ++ call.entered.routine.parameters.reverse
  sp_eq : call.before.memory.arena.sp = call.entered.base +
    (totalSize call.target.operandTypes + totalSize call.entered.routine.parameters)

/-- The values and the activation of the caller, and all that lies below, are where they
were. -/
structure Untouched (call : DirectCall setup machine) (kept : List (Nat × DataType))
    (current : Machine) : Prop where
  tags_suffix : kept <:+ current.memory.arena.tags
  frames_suffix : { call.caller with ip := call.caller.ip + 1 } :: call.before.calls.frames.tail <:+
    current.calls.frames

/-- The machine is back in the activation of the caller.  Its values are those that were
kept, with a value of the given type on top unless it is void. -/
structure Restored (call : DirectCall setup machine) (kept : List (Nat × DataType))
    (type : DataType) (current : Machine) : Prop where
  tags_eq : current.memory.arena.tags =
    (Machine.resultTypes type).map (fun type => (call.entered.base, type)) ++ kept
  sp_eq : current.memory.arena.sp = call.entered.base + type.size
  frames_eq : ∃ ip, current.calls.frames =
    { call.caller with ip } :: call.before.calls.frames.tail

/-- The machine comes back to the caller for the first time. -/
structure ComesBack (call : DirectCall setup machine) (later : Nat) (current : Machine) :
    Prop where
  after_call : call.time < later
  running : Machine.runUpTo setup later machine = .running current
  back : current.calls.depth = call.before.calls.depth
  first : ∀ middle earlier, call.time < middle → middle < later →
    Machine.runUpTo setup middle machine = .running earlier →
      earlier.calls.depth ≠ call.before.calls.depth

/-! ### Layers of a call -/

/-- The layers after a call: an activation of the called routine on top of the caller's
layer, from which the arguments were taken. -/
structure Opens (call : DirectCall setup machine) (layers : List Layer) (callee : Routine)
    (caller : Layer) (lower : List Layer) : Prop where
  layers_eq : layers = ⟨caller.routine, call.caller.ip,
    call.target.operandTypes ++ (callee.parameters.reverse ++ caller.operands)⟩ :: lower
  ip_eq : caller.ip = call.caller.ip + 1
  caller_eq : call.caller = .placed caller.routine call.caller.ip (totalSize (layerTypes lower))
  entered_eq : call.entered = .placed callee 0 (totalSize (layerTypes (caller :: lower)))
  member : .routine callee ∈ setup.module.definitions
  reaches : call.target.Reaches setup.module (.routine callee)
  piled : ∃ peak, call.opened.Piled setup.limits (⟨callee, 0, []⟩ :: caller :: lower) peak

/-- Of the four moves, a direct call that opened an activation is the one that opens. -/
theorem exists_opens (call : DirectCall setup machine) {layers : List Layer} {peak : Nat}
    (hpiled : call.before.Piled setup.limits layers peak) :
    ∃ callee caller lower, call.Opens layers callee caller lower := by
  have hensues := Machine.step_moves hpiled
  rw [call.called] at hensues
  obtain ⟨after, hmoves, hopened⟩ := hensues
  have hdepth := call.deeper
  rw [hopened.depth_eq, hpiled.depth_eq] at hdepth
  cases hmoves with
  | stays => simp at hdepth
  | replaces => simp at hdepth
  | resumes =>
    simp only [List.length_cons] at hdepth
    omega
  | @opens routine callee ip opcode target operands lower hcode hmember hreaches hroom =>
    have hcaller := call.caller_eq
    rw [hpiled.top?_eq, Option.some.injEq] at hcaller
    have hentered := call.entered_eq
    rw [hopened.top?_eq, Option.some.injEq] at hentered
    have hip : call.caller.ip = ip := by rw [← hcaller]; rfl
    have htarget : call.target = target := by
      have hsame := call.code_eq
      rw [← hcaller] at hsame
      change routine.code[ip]? = _ at hsame
      rw [hcode, Option.some.injEq, Instruction.call.injEq] at hsame
      exact hsame.2.2.symm
    refine ⟨callee, ⟨routine, ip + 1, operands⟩, lower, ?_, ?_, ?_, hentered.symm, hmember, ?_,
      _, hopened⟩
    · rw [hip, htarget]
    · rw [hip]
    · rw [hip]
      exact hcaller.symm
    · rwa [htarget]

section Opens

variable {call : DirectCall setup machine} {layers lower : List Layer} {callee : Routine}
  {caller : Layer}

/-- The caller lies right above what was below it. -/
theorem Opens.depth_eq (hopens : call.Opens layers callee caller lower) :
    call.before.calls.depth = lower.length + 1 := by
  obtain ⟨peak, hpiled⟩ := hopens.piled
  have hdepth := call.deeper
  rw [hpiled.depth_eq] at hdepth
  simp only [List.length_cons] at hdepth
  omega

/-- While a call lasts there are layers on top of the caller's, and they keep what every
move keeps. -/
theorem Opens.exists_inner (hopens : call.Opens layers callee caller lower)
    (invariant : List Layer → Prop)
    (hfirst : invariant [⟨callee, 0, []⟩])
    (hmoves : ∀ inner next, invariant inner → Moves setup inner next → invariant next)
    {later : Nat} {current : Machine} (hafter : call.time < later) (hlasts : call.Lasts later)
    (hrunning : Machine.runUpTo setup later machine = .running current) :
    ∃ inner peak, invariant inner ∧ inner ≠ [] ∧
      current.Piled setup.limits (inner ++ caller :: lower) peak := by
  induction later, hafter using Nat.le_induction generalizing current with
  | base =>
    rw [Machine.runUpTo_succ_of_running call.running, call.called] at hrunning
    cases hrunning
    obtain ⟨peak, hpiled⟩ := hopens.piled
    exact ⟨[⟨callee, 0, []⟩], peak, hfirst, by simp, hpiled⟩
  | succ later hafter ih =>
    obtain ⟨before, hbefore, hstep⟩ := Machine.exists_step_of_runUpTo_succ hrunning
    have hearlier : call.Lasts later := fun middle state hlow hhigh =>
      hlasts middle state hlow (by omega)
    obtain ⟨inner, peak, hinvariant, hinner, hpiled⟩ := ih hearlier hbefore
    have hensues := Machine.step_moves hpiled
    rw [hstep] at hensues
    obtain ⟨after, hmove, hnext⟩ := hensues
    rcases hmove.split hinner with
      ⟨next, hinside, rfl⟩ | ⟨layer, below, rest, ip, -, hbase, rfl⟩
    · exact ⟨next, _, hmoves inner next hinvariant hinside, hinside.ne_nil, hnext⟩
    · -- The machine would be back at the depth of the caller.
      cases hbase
      have hdepth : current.calls.depth = call.before.calls.depth := by
        rw [hnext.depth_eq, hopens.depth_eq, List.length_cons]
      exact absurd hdepth (hlasts (later + 1) current (by omega) (Nat.le_refl _) hrunning)

/-- When the machine comes back, a single layer was left above the caller's, and its result
lies on top of what the caller had kept. -/
theorem Opens.exists_returning (hopens : call.Opens layers callee caller lower)
    (invariant : List Layer → Prop)
    (hfirst : invariant [⟨callee, 0, []⟩])
    (hmoves : ∀ inner next, invariant inner → Moves setup inner next → invariant next)
    {later : Nat} {current : Machine} (hback : call.ComesBack later current) :
    ∃ layer last peak ip above, invariant [layer] ∧
      Machine.runUpTo setup (later - 1) machine = .running last ∧
      last.Piled setup.limits (layer :: caller :: lower) peak ∧
      current.Piled setup.limits (⟨caller.routine, ip,
        Machine.resultTypes layer.routine.returnType ++ caller.operands⟩ :: lower) above := by
  obtain ⟨hafter, hrunning, hdepth, hearlier⟩ := hback
  obtain ⟨before, rfl⟩ : ∃ before, later = before + 1 := ⟨later - 1, by omega⟩
  obtain ⟨last, hlast, hstep⟩ := Machine.exists_step_of_runUpTo_succ hrunning
  -- The call itself leads to a greater depth, so the machine comes back later.
  have hlater : call.time < before := by
    rcases Nat.lt_or_ge call.time before with hlater | hsame
    · exact hlater
    · obtain rfl : before = call.time := by omega
      rw [call.running] at hlast
      cases hlast
      rw [call.called] at hstep
      cases hstep
      have hdeeper := call.deeper
      omega
  have hlasts : call.Lasts before := fun middle state hlow hhigh =>
    hearlier middle state hlow (by omega)
  obtain ⟨inner, peak, hinvariant, hinner, hpiled⟩ :=
    hopens.exists_inner invariant hfirst hmoves hlater hlasts hlast
  have hensues := Machine.step_moves hpiled
  rw [hstep] at hensues
  obtain ⟨after, hmove, hnext⟩ := hensues
  rcases hmove.split hinner with
    ⟨next, hinside, rfl⟩ | ⟨layer, below, rest, ip, rfl, hbase, rfl⟩
  · -- The machine would still be above the depth of the caller.
    have hpos := List.length_pos_iff.mpr hinside.ne_nil
    rw [hnext.depth_eq, hopens.depth_eq] at hdepth
    simp only [List.length_append, List.length_cons] at hdepth
    omega
  · cases hbase
    exact ⟨layer, last, peak, ip, _, hinvariant, hlast, hpiled, hnext⟩

/-! ### Values of the caller -/

/-- The offset at which the arguments of a call start. -/
theorem Opens.base_eq (hopens : call.Opens layers callee caller lower) :
    call.entered.base = totalSize (layerTypes (caller :: lower)) := by
  rw [hopens.entered_eq]
  rfl

/-- The activation of the caller after the call. -/
theorem Opens.frames_eq (hopens : call.Opens layers callee caller lower) {peak : Nat}
    (hpiled : call.before.Piled setup.limits layers peak) (ip : Nat) :
    { call.caller with ip } :: call.before.calls.frames.tail =
      layerFrames (⟨caller.routine, ip, caller.operands⟩ :: lower) := by
  rw [hpiled.layered.frames_eq, hopens.layers_eq, hopens.caller_eq]
  rfl

/-- A call takes the function value and the arguments off the values of the caller. -/
theorem Opens.keeps (hopens : call.Opens layers callee caller lower) {peak : Nat}
    (hpiled : call.before.Piled setup.limits layers peak) :
    call.Keeps (Arena.packedTags (layerTypes (caller :: lower))) := by
  have hroutine : call.entered.routine = callee := by
    rw [hopens.entered_eq]
    rfl
  have htypes : layerTypes layers =
      (call.target.operandTypes ++ callee.parameters.reverse) ++ layerTypes (caller :: lower) := by
    rw [hopens.layers_eq]
    simp [layerTypes]
  constructor
  · have htags := hpiled.layered.packed.tags_eq
    rw [htypes, Arena.packedTags_append] at htags
    refine ⟨_, htags, ?_⟩
    rw [hroutine, List.map_map]
    exact Arena.map_snd_packedTags _
  · rw [hpiled.layered.packed.sp_eq, htypes, hopens.base_eq, hroutine, totalSize_append,
      totalSize_append, totalSize_reverse, Nat.add_comm]

/-- Layers on top of the caller's leave its values and its activation where they are. -/
theorem Opens.untouched (hopens : call.Opens layers callee caller lower) {peak nextPeak : Nat}
    (hpiled : call.before.Piled setup.limits layers peak) {inner : List Layer} {current : Machine}
    (hcurrent : current.Piled setup.limits (inner ++ caller :: lower) nextPeak) :
    call.Untouched (Arena.packedTags (layerTypes (caller :: lower))) current := by
  obtain ⟨types, htypes⟩ := exists_layerTypes_append inner (caller :: lower)
  obtain ⟨frames, hframes⟩ := exists_layerFrames_append inner (caller :: lower)
  constructor
  · rw [hcurrent.layered.packed.tags_eq, htypes, Arena.packedTags_append]
    exact List.suffix_append _ _
  · rw [hcurrent.layered.frames_eq, hframes, hopens.frames_eq hpiled, ← hopens.ip_eq]
    exact List.suffix_append _ _

/-- The types of a result take as many bytes as its type. -/
theorem totalSize_resultTypes (type : DataType) :
    totalSize (Machine.resultTypes type) = type.size := by
  unfold Machine.resultTypes
  split
  · rename_i hvoid
    rw [hvoid]
    rfl
  · simp

/-- The result lies where the arguments started. -/
theorem packedTags_resultTypes (type : DataType) (below : List DataType) :
    Arena.packedTags (Machine.resultTypes type ++ below) =
      (Machine.resultTypes type).map (fun type => (totalSize below, type)) ++
        Arena.packedTags below := by
  unfold Machine.resultTypes
  split <;> rfl

/-- A result on top of the caller's layer. -/
theorem Opens.restored (hopens : call.Opens layers callee caller lower) {peak nextPeak : Nat}
    (hpiled : call.before.Piled setup.limits layers peak) {type : DataType} {ip : Nat}
    {current : Machine}
    (hcurrent : current.Piled setup.limits
      (⟨caller.routine, ip, Machine.resultTypes type ++ caller.operands⟩ :: lower) nextPeak) :
    call.Restored (Arena.packedTags (layerTypes (caller :: lower))) type current := by
  have htypes : layerTypes (⟨caller.routine, ip, Machine.resultTypes type ++ caller.operands⟩ ::
      lower) = Machine.resultTypes type ++ layerTypes (caller :: lower) := by
    simp [layerTypes]
  refine ⟨?_, ?_, ip, ?_⟩
  · rw [hcurrent.layered.packed.tags_eq, htypes, packedTags_resultTypes, hopens.base_eq]
  · rw [hcurrent.layered.packed.sp_eq, htypes, totalSize_append, totalSize_resultTypes,
      hopens.base_eq, Nat.add_comm]
  · rw [hcurrent.layered.frames_eq, hopens.frames_eq hpiled]
    rfl

end Opens

end DirectCall

namespace Machine

/-! ## Returns -/

/-- A machine that is about to close its running activation: past the end of its routine,
at a return, or after a tail call of a host function.  The second machine is the one that
closes it. -/
inductive Returning (setup : Setup) (current : Machine) : Machine → Prop
  | pastEnd {frame : Frame} (htop : current.calls.top? = some frame)
      (hcode : frame.routine.code[frame.ip]? = none) : Returning setup current current
  | ret {frame : Frame} {jumped closing : Machine} (htop : current.calls.top? = some frame)
      (hcode : frame.routine.code[frame.ip]? = some (.simple .ret))
      (hjump : onCalls (CallStack.jump (frame.ip + 1)) current = .ok () jumped)
      (hspend : spend jumped = .ok () closing) : Returning setup current closing
  | tailCall {frame : Frame} {target : CallTarget} {function : External}
      {jumped spent found closing : Machine} (htop : current.calls.top? = some frame)
      (hcode : frame.routine.code[frame.ip]? = some (.call .call .tail target))
      (hjump : onCalls (CallStack.jump (frame.ip + 1)) current = .ok () jumped)
      (hspend : spend jumped = .ok () spent)
      (hcallee : callee setup.module target spent = .ok (.external function) found)
      (hcall : callExternal setup.host function found = .ok () closing) :
      Returning setup current closing

/-- What follows on a computation that gave a result. -/
theorem bind_eq_of_ok {α β : Type} {computation : Exec α} {next : α → Exec β}
    {machine middle : Machine} {result : α} (hresult : computation machine = .ok result middle) :
    (computation >>= next) machine = next result middle := by
  change EStateM.bind computation next machine = _
  unfold EStateM.bind
  rw [hresult]

/-- A machine that is about to close an activation does so next. -/
theorem Returning.advance_eq {setup : Setup} {current closing : Machine}
    (hreturning : Returning setup current closing) :
    ∃ frame, current.calls.top? = some frame ∧ advance setup frame current = leave closing := by
  cases hreturning with
  | @pastEnd frame htop hcode =>
    refine ⟨frame, htop, ?_⟩
    unfold advance
    rw [hcode]
  | @ret frame jumped closing htop hcode hjump hspend =>
    refine ⟨frame, htop, ?_⟩
    unfold advance
    rw [hcode]
    simp only
    rw [bind_eq_of_ok hjump, bind_eq_of_ok hspend]
    rfl
  | @tailCall frame target function jumped spent found closing htop hcode hjump hspend hcallee hcall =>
    refine ⟨frame, htop, ?_⟩
    unfold advance
    rw [hcode]
    simp only
    rw [bind_eq_of_ok hjump, bind_eq_of_ok hspend]
    change call setup .tail target spent = _
    unfold call
    rw [bind_eq_of_ok hcallee]
    simp only
    rw [bind_eq_of_ok hcall]

/-- What a computation that gave a result has done. -/
theorem Yields.of_ok {α : Type} {capacity : Nat} {before : Machine → Prop}
    {computation : Exec α} {after : α → Machine → Prop}
    (hyields : Yields capacity before computation after) {machine next : Machine} {result : α}
    (hbefore : before machine) (hok : computation machine = .ok result next) :
    after result next := by
  have hended := hyields machine hbefore
  rwa [hok] at hended

/-- The machine that closes an activation consists of the layers that it was reached with,
but for the position and the operands of the topmost. -/
theorem Returning.layered {setup : Setup} {layers : List Layer} {peak : Nat}
    {current closing : Machine} (hpiled : current.Piled setup.limits layers peak)
    (hreturning : Returning setup current closing) :
    ∃ layer lower, lower.length < peak ∧
      closing.Layered setup.limits (layer :: lower) peak := by
  obtain ⟨layer, lower, rfl⟩ := List.exists_cons_of_ne_nil hpiled.active
  have hpeak : lower.length < peak := hpiled.peak_le
  cases hreturning with
  | pastEnd htop hcode => exact ⟨layer, lower, hpeak, hpiled.layered⟩
  | ret htop hcode hjump hspend =>
    have hjumped := (jump_yields _).of_ok hpiled.layered hjump
    exact ⟨_, lower, hpeak, (spend_yields setup.limits _ peak).of_ok hjumped hspend⟩
  | @tailCall frame target function jumped spent found closing htop hcode hjump hspend hcallee
      hcall =>
    let site : Site := ⟨setup, layer.routine, .call .call .tail target, lower, peak⟩
    have hjumped := (jump_yields _).of_ok hpiled.layered hjump
    have hspent := (spend_yields setup.limits _ peak).of_ok hjumped hspend
    obtain ⟨⟨hmember, hreaches⟩, rest, -, hfound⟩ :=
      (site.callee_behaves rfl _ _).yields.of_ok hspent hcallee
    obtain ⟨⟨position, operands, hclosing⟩, -⟩ :=
      (site.callExternal_stays rfl hmember hreaches).yields.of_ok ⟨_, rest, hfound⟩ hcall
    exact ⟨_, lower, hpeak, hclosing⟩

/-- A return that traps does so for another reason than a lack of room. -/
theorem Returning.fault_ne {setup : Setup} {layers : List Layer} {peak : Nat}
    {current closing last : Machine} {trap : Trap}
    (hpiled : current.Piled setup.limits layers peak)
    (hreturning : Returning setup current closing)
    (htrapped : step setup current = .trapped trap last) : trap.fault ≠ .stackOverflow := by
  obtain ⟨layer, lower, hpeak, hlayered⟩ := hreturning.layered hpiled
  obtain ⟨frame, htop, hadvance⟩ := hreturning.advance_eq
  have hanswers := leave_behaves setup layer layer.ip hpeak closing hlayered
  unfold step at htrapped
  simp only [htop, hadvance] at htrapped
  cases hleave : leave closing with
  | ok flow next => cases flow <;> simp [hleave] at htrapped
  | error fault next =>
    rw [hleave] at hanswers
    simp only [hleave] at htrapped
    cases htrapped
    exact hanswers.2.2

/-! ## The discipline of calls and returns -/

/-- In every run of every module, with any limits and any host: a direct call takes its
arguments off the values of the caller; while the call lasts, the values that are left, the
activation of the caller and all below stay where they are; when the machine comes back to
the caller for the first time, its values are those that were left, with the result of the
routine that returned on top, and its activation differs in nothing but the position.  And
no return lacks room for its result. -/
theorem calls_restore {setup : Setup} {machine : Machine} (hreachable : Reachable setup machine) :
    (∀ call : DirectCall setup machine, ∃ kept, call.Keeps kept ∧
      (∀ later current, call.time < later → call.Lasts later →
        runUpTo setup later machine = .running current → call.Untouched kept current) ∧
      ∀ later current, call.ComesBack later current → ∃ last returning,
        runUpTo setup (later - 1) machine = .running last ∧
          last.calls.top? = some returning ∧
            call.Restored kept returning.routine.returnType current) ∧
    ∀ time current closing trap last, runUpTo setup time machine = .running current →
      Returning setup current closing → step setup current = .trapped trap last →
        trap.fault ≠ .stackOverflow := by
  have hpile : ∀ {time : Nat} {current : Machine},
      runUpTo setup time machine = .running current →
        ∃ layers peak, current.Piled setup.limits layers peak := by
    intro time current hrunning
    obtain ⟨layers, peak, -, hpiled⟩ := piled_of_running (fun _ => True)
      (fun _ _ => .intro) (fun _ _ _ _ => .intro) hreachable.sound hrunning
    exact ⟨layers, peak, hpiled⟩
  constructor
  · intro call
    obtain ⟨layers, peak, hpiled⟩ := hpile call.running
    obtain ⟨callee, caller, lower, hopens⟩ := call.exists_opens hpiled
    refine ⟨_, hopens.keeps hpiled, ?_, ?_⟩
    · intro later current hafter hlasts hrunning
      obtain ⟨inner, nextPeak, -, -, hcurrent⟩ := hopens.exists_inner (fun _ => True)
        .intro (fun _ _ _ _ => .intro) hafter hlasts hrunning
      exact hopens.untouched hpiled hcurrent
    · intro later current hback
      obtain ⟨layer, last, lastPeak, ip, nextPeak, -, hlast, hlastPiled, hcurrent⟩ :=
        hopens.exists_returning (fun _ => True) .intro (fun _ _ _ _ => .intro) hback
      exact ⟨last, _, hlast, hlastPiled.top?_eq, hopens.restored hpiled hcurrent⟩
  · intro time current closing trap last hrunning hreturning htrapped
    obtain ⟨layers, peak, hpiled⟩ := hpile hrunning
    exact hreturning.fault_ne hpiled htrapped

/-- A machine for a routine that hands its argument on to another by a tail call. -/
def relaying : Setup :=
  let main : Routine :=
    { Routine.empty 0 entryName with
      code := #[Samples.pushInt 7, Samples.pushInt 5, .callDefinition 1, Samples.ret] }
  let relay : Routine :=
    { Routine.empty 1 "relay" with
      returnType := .i32
      parameters := [.i32]
      code := #[.pushArgument 0, .tailCall 2] }
  let echo : Routine :=
    { Routine.empty 2 "echo" with
      returnType := .i32
      parameters := [.i32]
      code := #[.pushArgument 0] }
  ⟨⟨"relay", [.routine main, .routine relay, .routine echo], .empty⟩, .default, .empty⟩

/-- The call of the routine by the entry. -/
def relayedCall : DirectCall relaying (.new relaying.limits (.new [])) :=
  ⟨2, _, _, _, _, _, _, rfl, rfl, rfl, rfl, rfl, rfl⟩

/-- The machine of a run that goes on. -/
def paused? : Outcome → Option Machine
  | .running machine => some machine
  | _ => none

/-- The machine comes back when the other routine is past its end. -/
theorem exists_comesBack_relayedCall : ∃ current, relayedCall.ComesBack 7 current := by
  have hdeep : ∀ middle < 7, 2 < middle →
      (runUpTo relaying middle (.new relaying.limits (.new []))).machine.calls.depth ≠ 1 := by
    decide +kernel
  have hends : (paused? (runUpTo relaying 7 (.new relaying.limits (.new [])))).map
      (fun current => current.calls.depth) = some 1 := by
    decide +kernel
  cases hrunning : runUpTo relaying 7 (.new relaying.limits (.new [])) with
  | returned result last => simp [hrunning, paused?] at hends
  | trapped trap last => simp [hrunning, paused?] at hends
  | running current =>
    simp only [hrunning, paused?, Option.map_some, Option.some.injEq] at hends
    refine ⟨current, by decide, hrunning, hends, ?_⟩
    intro middle earlier hlow hhigh hmiddle
    have hdepth := hdeep middle hhigh hlow
    rwa [hmiddle] at hdepth

/-- The call is ended by the other routine, whose result lies on top of what was kept. -/
theorem calls_restore_relaying :
    ∃ kept current, relayedCall.Keeps kept ∧ relayedCall.ComesBack 7 current ∧
      relayedCall.Restored kept .i32 current := by
  have hreturns : (runUpTo relaying 6 (.new relaying.limits (.new []))).machine.calls.top?.map
      (fun frame => frame.routine.returnType) = some .i32 := by
    decide +kernel
  obtain ⟨current, hback⟩ := exists_comesBack_relayedCall
  obtain ⟨kept, hkeeps, -, hrestores⟩ := (calls_restore (.new (.new []))).1 relayedCall
  obtain ⟨last, returning, hlast, hreturning, hrestored⟩ := hrestores 7 current hback
  rw [hlast] at hreturns
  simp only [Outcome.machine, hreturning, Option.map_some, Option.some.injEq] at hreturns
  rw [hreturns] at hrestored
  exact ⟨kept, current, hkeeps, hback, hrestored⟩

end Machine

end StackCode
