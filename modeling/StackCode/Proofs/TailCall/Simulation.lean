import StackCode.Proofs.TailCall.Instructions

/-!
# A tail call is a call followed by a return

A run of a module with tail calls is followed beside a run of the module that spells them
out.  The longer run keeps activations that only wait to hand a result on.  When a result
comes, they return one after the other while the shorter run waits, and then both runs
hand the result to the same caller.

Main definitions:

- `Structured.Collapses`: activations that become others when those that wait are gone.
- `Structured.Shortens`: a state of a run beside one of the longer run.

Main results:

- Theorem `Structured.advance_beside`: one step of the longer run.
- Theorem `Structured.runFor_shortens`: every run.
- Theorem `runUpTo_spelledOut`: a module with tail calls returns what the module that
  spells them out returns, prints the same and nests no deeper.
-/

namespace StackCode

namespace Structured

/-! ## Activations that wait -/

/-- A result of a type that is handed to the longer list at its position comes to the
shorter list at its own.  Activations of the longer list either belong to one of the
shorter list, or stand at a return and hand the result on. -/
inductive Collapses (chosen : Selection) (module : Module) :
    DataType → Nat → List Activation → Nat → List Activation → Prop
  | bottom {type : DataType} {resume position : Nat} :
      Collapses chosen module type resume [] position []
  | caller {type : DataType} {resume position : Nat} {caller : Activation}
      {callers longer : List Activation}
      (hmember : .routine caller.routine ∈ module.definitions)
      (hbelow : Collapses chosen module caller.routine.returnType caller.resume callers
        position longer) :
      Collapses chosen module type resume (caller :: callers) resume
        (caller.spelledOut chosen position :: longer)
  | pending {type : DataType} {resume position : Nat} {pending : Activation}
      {callers longer : List Activation}
      (hcode : pending.routine.code[position]? = some (.simple .ret))
      (htype : pending.routine.returnType = type)
      (hbelow : Collapses chosen module type resume callers pending.resume longer) :
      Collapses chosen module type resume callers position (pending :: longer)

section Collapses

variable {chosen : Selection} {module : Module} {type : DataType} {resume position : Nat}
  {callers longer : List Activation}

theorem Collapses.length_le
    (hcollapses : Collapses chosen module type resume callers position longer) :
    callers.length ≤ longer.length := by
  induction hcollapses with
  | bottom => exact Nat.le_refl _
  | caller _ _ ih =>
    simp only [List.length_cons]
    omega
  | pending _ _ _ ih =>
    simp only [List.length_cons]
    omega

theorem Collapses.usedBytes_le
    (hcollapses : Collapses chosen module type resume callers position longer) :
    usedBytes callers ≤ usedBytes longer := by
  induction hcollapses with
  | bottom => exact Nat.le_refl _
  | caller _ _ ih =>
    rw [usedBytes_cons, usedBytes_cons, Activation.size_spelledOut]
    omega
  | pending _ _ _ ih =>
    rw [usedBytes_cons]
    omega

end Collapses

/-! ## States beside each other -/

/-- Two runs without a limit of instructions show the same, and the first one does not
nest deeper. -/
structure Surface.Beside (surface longer : Surface) : Prop where
  console_eq : surface.console = longer.console
  placement_eq : surface.placement = longer.placement
  unlimited : surface.fuel = none
  unlimited_longer : longer.fuel = none
  peak_le : surface.peak ≤ longer.peak

/-- The runs may have executed any numbers of instructions. -/
theorem Surface.Beside.counted {surface longer : Surface} (hbeside : surface.Beside longer)
    (executed executedLonger : Nat) :
    Surface.Beside { surface with executed } { longer with executed := executedLonger } :=
  ⟨hbeside.console_eq, hbeside.placement_eq, hbeside.unlimited, hbeside.unlimited_longer,
    hbeside.peak_le⟩

/-- The next thing that an activation does is to return. -/
def Activation.Leaving (activation : Activation) : Prop :=
  activation.routine.code[activation.ip]? = none ∨
    activation.routine.code[activation.ip]? = some (.simple .ret)

/-- A state of a run beside one of the longer run.  Either both execute the same routine,
or both are about to return the same result. -/
inductive Shortens (chosen : Selection) (module : Module) : State → State → Prop
  | abreast {current : Activation} {callers longer : List Activation} {position : Nat}
      {surface surfaceLonger : Surface} (hmember : .routine current.routine ∈ module.definitions)
      (hcollapses : Collapses chosen module current.routine.returnType current.resume callers
        position longer)
      (hsurface : surface.Beside surfaceLonger) :
      Shortens chosen module ⟨current, callers, surface⟩
        ⟨current.spelledOut chosen position, longer, surfaceLonger⟩
  | returning {state longer : State} {result : Option Value}
      (hleaving : state.current.Leaving) (hleavingLonger : longer.current.Leaving)
      (hresult : state.current.result = .ok result)
      (hresultLonger : longer.current.result = .ok result)
      (hcollapses : Collapses chosen module longer.current.routine.returnType
        state.current.resume state.callers longer.current.resume longer.callers)
      (hsurface : state.surface.Beside longer.surface) :
      Shortens chosen module state longer

/-- What a step of the longer run leads to: to a step of the shorter run, to a state beside
the one before that step, or to a fault. -/
inductive StepsBeside (chosen : Selection) (module : Module) (state : State) :
    Progress → Progress → Prop
  | together {next longer : State} (hshortens : Shortens chosen module next longer) :
      StepsBeside chosen module state (.continued next) (.continued longer)
  | alone {progress : Progress} {longer : State}
      (hshortens : Shortens chosen module state longer) :
      StepsBeside chosen module state progress (.continued longer)
  | finished {result : Option Value} {surface surfaceLonger : Surface}
      (hsurface : surface.Beside surfaceLonger) :
      StepsBeside chosen module state (.finished result surface)
        (.finished result surfaceLonger)
  | faulted {progress : Progress} {fault : Fault} {surface : Surface} :
      StepsBeside chosen module state progress (.faulted fault surface)

/-! ## Returns -/

section Returns

variable {chosen : Selection} {module spelled : Module} {limits : Limits}

/-- Hands a result to the topmost of the callers. -/
def handOver (result : Option Value) (resume : Nat) (surface : Surface) :
    List Activation → Progress
  | [] => .finished result surface
  | caller :: callers =>
    .continued
      ⟨{ caller with ip := resume, operands := result.toList ++ caller.operands }, callers,
        surface⟩

/-- A leaving activation returns in its next step. -/
theorem advance_of_leaving (module : Module) (limits : Limits) (state : State)
    (hleaving : state.current.Leaving) (hfuel : state.surface.fuel = none) :
    ∃ executed, advance module limits state =
      match state.current.result with
      | .error fault => .faulted fault { state.surface with executed }
      | .ok result => handOver result state.current.resume { state.surface with executed }
          state.callers := by
  have hleave : ∀ {ip executed : Nat}, leave ⟨{ state.current with ip }, state.callers,
      { state.surface with executed }⟩ =
        match state.current.result with
        | .error fault => .faulted fault { state.surface with executed }
        | .ok result => handOver result state.current.resume { state.surface with executed }
            state.callers := by
    intro ip executed
    have hsame : ({ state.current with ip } : Activation).result = state.current.result := rfl
    unfold leave
    rw [hsame]
    cases state.current.result with
    | error fault => rfl
    | ok result =>
      cases state.callers with
      | nil => rfl
      | cons caller callers => rfl
  unfold advance
  rcases hleaving with hend | hret
  · rw [hend]
    exact ⟨state.surface.executed, hleave⟩
  · rw [hret]
    simp only [Surface.spend, hfuel]
    have hsurface : state.surface = { state.surface with fuel := none } := by rw [← hfuel]
    rw [hsurface] at hleave
    exact ⟨state.surface.executed + 1, hleave⟩

/-- A result of the same type as its own is handed on by an activation that waits. -/
theorem result_handed {activation pending : Activation} {result : Option Value}
    (hresult : activation.result = .ok result)
    (htype : pending.routine.returnType = activation.routine.returnType) (position : Nat) :
    Activation.result
      { pending with ip := position, operands := result.toList ++ pending.operands } =
        .ok result := by
  unfold Activation.result at hresult ⊢
  simp only [htype]
  by_cases hvoid : activation.routine.returnType = .void
  · rw [if_pos hvoid] at hresult ⊢
    exact hresult
  · rw [if_neg hvoid] at hresult ⊢
    cases hoperands : activation.operands with
    | nil => simp [hoperands] at hresult
    | cons value rest =>
      simp only [hoperands] at hresult
      by_cases hvalue : value.type = activation.routine.returnType
      · rw [if_neg (not_not_intro hvalue)] at hresult
        cases hresult
        exact if_neg (not_not_intro hvalue)
      · rw [if_pos hvalue] at hresult
        cases hresult

/-- Both runs return the same result.  Its way through the activations that wait is taken
by the longer run alone. -/
theorem returning_beside {state longer : State} {result : Option Value}
    (hleaving : state.current.Leaving) (hleavingLonger : longer.current.Leaving)
    (hresult : state.current.result = .ok result)
    (hresultLonger : longer.current.result = .ok result)
    (hcollapses : Collapses chosen module longer.current.routine.returnType
      state.current.resume state.callers longer.current.resume longer.callers)
    (hsurface : state.surface.Beside longer.surface) :
    StepsBeside chosen module state (advance module limits state)
      (advance spelled limits longer) := by
  obtain ⟨executed, hadvance⟩ := advance_of_leaving module limits state hleaving
    hsurface.unlimited
  obtain ⟨executedLonger, hadvanceLonger⟩ := advance_of_leaving spelled limits longer
    hleavingLonger hsurface.unlimited_longer
  rw [hadvance, hadvanceLonger, hresult, hresultLonger]
  simp only
  have hbeside := hsurface.counted executed executedLonger
  generalize hcallers : state.callers = callers, hresume : state.current.resume = resume,
    hposition : longer.current.resume = position, longer.callers = callersLonger at hcollapses
  cases hcollapses with
  | bottom => exact .finished hbeside
  | caller hmember hbelow => exact .together (.abreast hmember hbelow hbeside)
  | pending hcode htype hbelow =>
    refine .alone (.returning hleaving (.inr hcode) hresult
      (result_handed hresultLonger htype _) ?_ ?_)
    · rw [hcallers, hresume]
      exact htype ▸ hbelow
    · exact hsurface.counted state.surface.executed executedLonger

end Returns

/-! ## Calls -/

section Calls

variable {chosen : Selection} {module : Module} {limits : Limits} {state : State}
  {current : Activation} {callers longer : List Activation} {position : Nat}
  {surface surfaceLonger : Surface} {routine : Routine}

/-- A spelled out routine takes the same arguments. -/
theorem takeArguments_spelledOut (chosen : Selection) (position : Nat) (current : Activation)
    (routine : Routine) :
    (current.spelledOut chosen position).takeArguments (routine.spelledOut chosen).parameters =
      current.takeArguments routine.parameters := rfl

/-- What the longer run has room for, the shorter one has. -/
theorem install_beside (current : Activation)
    (hmember : .routine current.routine ∈ module.definitions)
    (hcollapses : Collapses chosen module current.routine.returnType current.resume callers
      position longer)
    (hsurface : surface.Beside surfaceLonger) :
    StepsBeside chosen module state (install limits current callers surface)
      (install limits (current.spelledOut chosen position) longer surfaceLonger) := by
  have hlength := hcollapses.length_le
  have hused : usedBytes (current :: callers) ≤
      usedBytes (current.spelledOut chosen position :: longer) :=
    Nat.add_le_add_left hcollapses.usedBytes_le current.size
  unfold install
  by_cases hfull : limits.capacity < usedBytes (current.spelledOut chosen position :: longer)
  · rw [if_pos hfull]
    exact .faulted
  · rw [if_neg hfull, if_neg (by omega)]
    refine .together (.abreast hmember hcollapses ⟨hsurface.console_eq, hsurface.placement_eq,
      hsurface.unlimited, hsurface.unlimited_longer, ?_⟩)
    have hpeak := hsurface.peak_le
    simp only
    omega

/-- A call in both runs. -/
theorem enter_beside (hmember : .routine current.routine ∈ module.definitions)
    (hcollapses : Collapses chosen module current.routine.returnType current.resume callers
      position longer)
    (hsurface : surface.Beside surfaceLonger) (hroutine : .routine routine ∈ module.definitions) :
    StepsBeside chosen module state (enter limits routine ⟨current, callers, surface⟩)
      (enter limits (routine.spelledOut chosen)
        ⟨current.spelledOut chosen position, longer, surfaceLonger⟩) := by
  have hlength := hcollapses.length_le
  unfold enter
  simp only [takeArguments_spelledOut]
  by_cases hdeep : limits.maxCallDepth ≤ longer.length + 1
  · rw [if_pos hdeep]
    exact .faulted
  · rw [if_neg hdeep, if_neg (by omega)]
    cases current.takeArguments routine.parameters with
    | error fault => exact .faulted
    | ok taken =>
      have hcaller : Collapses chosen module routine.returnType current.ip
          ({ current with operands := taken.2 } :: callers) current.ip
          (Activation.spelledOut chosen position { current with operands := taken.2 } :: longer) :=
        .caller hmember hcollapses
      exact install_beside (.opened routine taken.1 current.ip) hroutine hcaller hsurface

/-- A tail call in both runs. -/
theorem tailEnter_beside
    (hcollapses : Collapses chosen module current.routine.returnType current.resume callers
      position longer)
    (hsurface : surface.Beside surfaceLonger) (hroutine : .routine routine ∈ module.definitions)
    (htype : routine.returnType = current.routine.returnType) :
    StepsBeside chosen module state (tailEnter limits routine ⟨current, callers, surface⟩)
      (tailEnter limits (routine.spelledOut chosen)
        ⟨current.spelledOut chosen position, longer, surfaceLonger⟩) := by
  unfold tailEnter
  simp only [takeArguments_spelledOut]
  rw [← htype] at hcollapses
  cases current.takeArguments routine.parameters with
  | error fault => exact .faulted
  | ok taken =>
    exact install_beside (.opened routine taken.1 current.resume) hroutine hcollapses hsurface

/-- A tail call beside the call that spells it out: the calling activation, which is gone in
the shorter run, waits at the return after the call. -/
theorem tailEnter_beside_enter
    (hcollapses : Collapses chosen module current.routine.returnType current.resume callers
      position longer)
    (hsurface : surface.Beside surfaceLonger) (hroutine : .routine routine ∈ module.definitions)
    (htype : routine.returnType = current.routine.returnType)
    (hret : current.routine.code[current.ip]? = some (.simple .ret)) :
    StepsBeside chosen module state (tailEnter limits routine ⟨current, callers, surface⟩)
      (enter limits (routine.spelledOut chosen)
        ⟨current.spelledOut chosen position, longer, surfaceLonger⟩) := by
  unfold enter tailEnter
  simp only [takeArguments_spelledOut]
  by_cases hdeep : limits.maxCallDepth ≤ longer.length + 1
  · rw [if_pos hdeep]
    exact .faulted
  · rw [if_neg hdeep]
    rw [← htype] at hcollapses
    cases current.takeArguments routine.parameters with
    | error fault => exact .faulted
    | ok taken =>
      have hpending : Collapses chosen module routine.returnType current.resume callers current.ip
          (Activation.spelledOut chosen position { current with operands := taken.2 } :: longer) :=
        .pending (Routine.ret_spelledOut hret) htype.symm hcollapses
      exact install_beside (.opened routine taken.1 current.resume) hroutine hpending hsurface

end Calls

/-! ## Steps -/

section Steps

variable {chosen : Selection} {module : Module} {limits : Limits}

/-- In an accepted module, what a tail call reaches returns what the calling routine
returns. -/
theorem tailCallee_returnType (haccepted : (Verify.verify module).isValid = true)
    {routine callee : Routine} (hmember : .routine routine ∈ module.definitions) {index : Nat}
    {opcode : Opcode} {target : CallTarget}
    (hcode : routine.code[index]? = some (.call opcode .tail target)) {scene last : Scene}
    (hcallee : Structured.callee module target scene = .ok (.routine callee) last) :
    callee.returnType = routine.returnType := by
  obtain ⟨-, hreaches, -⟩ := callee_eq_ok hcallee
  exact Verify.returnType_of_tailCall haccepted hmember hcode hreaches

/-- Without a limit, the next instruction is executed. -/
theorem advance_of_code (state : State) {instruction : Instruction}
    (hcode : state.current.routine.code[state.current.ip]? = some instruction)
    (hfuel : state.surface.fuel = none) :
    advance module limits state =
      carryOut limits state.callers
        { state.surface with executed := state.surface.executed + 1 }
        (execute module (limits.capacity - usedBytes state.callers) instruction
          ⟨{ state.current with ip := state.current.ip + 1 }, state.surface.console,
            state.surface.placement⟩) := by
  have hspend : state.surface.spend =
      .ok { state.surface with executed := state.surface.executed + 1 } := by
    simp only [Surface.spend, hfuel]
  unfold advance
  rw [hcode]
  simp only [hspend]

/-- What an instruction asks for in both runs. -/
theorem perform_beside {current : Activation} {callers longer : List Activation}
    {position : Nat} {surface surfaceLonger : Surface}
    (hmember : .routine current.routine ∈ module.definitions)
    (hcollapses : Collapses chosen module current.routine.returnType current.resume callers
      position longer)
    (hsurface : surface.Beside surfaceLonger) {effect : Effect}
    (hasks : effect = .next ∨ ∃ mode routine, effect = .call mode routine ∧
      .routine routine ∈ module.definitions ∧
      (mode = .tail → routine.returnType = current.routine.returnType)) {state : State} :
    StepsBeside chosen module state (perform limits ⟨current, callers, surface⟩ effect)
      (perform limits ⟨current.spelledOut chosen position, longer, surfaceLonger⟩
        (effect.spelledOut chosen)) := by
  rcases hasks with rfl | ⟨mode, routine, rfl, hroutine, htail⟩
  · exact .together (.abreast hmember hcollapses hsurface)
  · cases mode with
    | direct => exact enter_beside hmember hcollapses hsurface hroutine
    | tail => exact tailEnter_beside hcollapses hsurface hroutine (htail rfl)

/-- What both runs show after an instruction. -/
theorem Surface.Beside.withScene {surface surfaceLonger : Surface}
    (hsurface : surface.Beside surfaceLonger) (position : Nat) (scene : Scene) :
    (surface.withScene scene).Beside
      (surfaceLonger.withScene (scene.spelledOut chosen position)) :=
  ⟨rfl, rfl, hsurface.unlimited, hsurface.unlimited_longer, hsurface.peak_le⟩

section Executing

variable {callers longer : List Activation} {position : Nat} {surface surfaceLonger : Surface}
  {state : State}

/-- An instruction other than a return, executed in both runs. -/
theorem execute_beside (scene : Scene)
    (haccepted : (Verify.verify module).isValid = true)
    (hmember : .routine scene.current.routine ∈ module.definitions)
    (hcollapses : Collapses chosen module scene.current.routine.returnType scene.current.resume
      callers position longer)
    (hsurface : surface.Beside surfaceLonger) {index : Nat} {instruction : Instruction}
    (hcode : scene.current.routine.code[index]? = some instruction)
    (hstays : instruction ≠ .simple .ret) :
    StepsBeside chosen module state
      (carryOut limits callers surface
        (execute module (limits.capacity - usedBytes callers) instruction scene))
      (carryOut limits longer surfaceLonger
        (execute (module.spelledOut chosen) (limits.capacity - usedBytes longer) instruction
          (scene.spelledOut chosen position))) := by
  have hcopied := execute_copies chosen position module
    (Nat.sub_le_sub_left hcollapses.usedBytes_le limits.capacity) instruction scene
  generalize hexecute : execute module (limits.capacity - usedBytes callers) instruction scene =
    found, execute (module.spelledOut chosen) (limits.capacity - usedBytes longer) instruction
      (scene.spelledOut chosen position) = expected at hcopied
  cases hcopied with
  | error => exact .faulted
  | @ok effect last hroutine hresume =>
    rw [← hroutine] at hmember
    rw [← hroutine, ← hresume] at hcollapses
    refine perform_beside hmember hcollapses (hsurface.withScene position last) ?_
    rcases execute_asks hexecute with hnext | ⟨-, hret⟩ |
      ⟨opcode, mode, target, routine, rfl, hcall, hcallee⟩
    · exact .inl hnext
    · exact absurd hret hstays
    · refine .inr ⟨mode, routine, hcall, (callee_eq_ok hcallee).1, ?_⟩
      rintro rfl
      rw [← hroutine] at hcode
      exact tailCallee_returnType haccepted hmember hcode hcallee

/-- A tail call executed beside the call that spells it out. -/
theorem tailCall_beside_call (scene : Scene)
    (haccepted : (Verify.verify module).isValid = true)
    (hmember : .routine scene.current.routine ∈ module.definitions)
    (hcollapses : Collapses chosen module scene.current.routine.returnType scene.current.resume
      callers position longer)
    (hsurface : surface.Beside surfaceLonger) {index : Nat} {opcode : Opcode}
    {target : CallTarget}
    (hcode : scene.current.routine.code[index]? = some (.call opcode .tail target))
    (hret : scene.current.routine.code[scene.current.ip]? = some (.simple .ret)) :
    StepsBeside chosen module state
      (carryOut limits callers surface
        (execute module (limits.capacity - usedBytes callers) (.call opcode .tail target) scene))
      (carryOut limits longer surfaceLonger
        (execute (module.spelledOut chosen) (limits.capacity - usedBytes longer)
          (.call opcode .direct target) (scene.spelledOut chosen position))) := by
  have hcopied := execute_copies chosen position module
    (Nat.sub_le_sub_left hcollapses.usedBytes_le limits.capacity)
    (.call opcode .direct target) scene
  generalize hexecute : execute module (limits.capacity - usedBytes callers)
    (.call opcode .direct target) scene = found,
    execute (module.spelledOut chosen) (limits.capacity - usedBytes longer)
      (.call opcode .direct target) (scene.spelledOut chosen position) = expected at hcopied
  cases hcopied with
  | error => exact .faulted
  | @ok effect last hroutine hresume =>
    obtain ⟨hformed, routine, rfl, hcallee⟩ := execute_call_eq_ok.mp hexecute
    have htail : execute module (limits.capacity - usedBytes callers)
        (.call opcode .tail target) scene = .ok (.call .tail routine) last :=
      execute_call_eq_ok.mpr ⟨hformed, routine, rfl, hcallee⟩
    rw [htail]
    obtain ⟨hreached, -, hip⟩ := callee_eq_ok hcallee
    rw [← hroutine] at hmember hcode
    rw [← hroutine, ← hip] at hret
    rw [← hroutine, ← hresume] at hcollapses
    exact tailEnter_beside_enter hcollapses (hsurface.withScene position last) hreached
      (tailCallee_returnType haccepted hmember hcode hcallee) hret

end Executing

section Abreast

variable {current : Activation} {callers longer : List Activation} {position : Nat}
  {surface surfaceLonger : Surface}

/-- Both runs are about to return from the same routine. -/
theorem leaving_beside
    (hcollapses : Collapses chosen module current.routine.returnType current.resume callers
      position longer)
    (hsurface : surface.Beside surfaceLonger) (hleaving : current.Leaving) :
    StepsBeside chosen module ⟨current, callers, surface⟩
      (advance module limits ⟨current, callers, surface⟩)
      (advance (module.spelledOut chosen) limits
        ⟨current.spelledOut chosen position, longer, surfaceLonger⟩) := by
  have hsame : (current.spelledOut chosen position).result = current.result := rfl
  have hleavingLonger : (current.spelledOut chosen position).Leaving := by
    rcases hleaving with hend | hret
    · left
      simp only [Activation.spelledOut, Routine.getElem?_spelledOut, hend, Option.map_none]
    · exact .inr (Routine.ret_spelledOut hret)
  cases hresult : current.result with
  | ok result =>
    exact returning_beside hleaving hleavingLonger hresult hresult hcollapses hsurface
  | error fault =>
    obtain ⟨executed, hadvance⟩ := advance_of_leaving (module.spelledOut chosen) limits
      ⟨current.spelledOut chosen position, longer, surfaceLonger⟩ hleavingLonger
      hsurface.unlimited_longer
    simp only [hsame, hresult] at hadvance
    rw [hadvance]
    exact .faulted

/-- Both runs are about to execute an instruction of the same routine. -/
theorem executing_beside (haccepted : (Verify.verify module).isValid = true)
    (hmember : .routine current.routine ∈ module.definitions)
    (hcollapses : Collapses chosen module current.routine.returnType current.resume callers
      position longer)
    (hsurface : surface.Beside surfaceLonger) {instruction : Instruction}
    (hcode : current.routine.code[current.ip]? = some instruction)
    (hstays : instruction ≠ .simple .ret) :
    StepsBeside chosen module ⟨current, callers, surface⟩
      (advance module limits ⟨current, callers, surface⟩)
      (advance (module.spelledOut chosen) limits
        ⟨current.spelledOut chosen position, longer, surfaceLonger⟩) := by
  have hcounted := hsurface.counted (surface.executed + 1) (surfaceLonger.executed + 1)
  let scene : Scene :=
    ⟨{ current with ip := current.ip + 1 }, surface.console, surface.placement⟩
  have hadvance : ∀ other, (current.spelledOut chosen position).routine.code[current.ip]? =
      some other →
      advance (module.spelledOut chosen) limits
        ⟨current.spelledOut chosen position, longer, surfaceLonger⟩ =
      carryOut limits longer { surfaceLonger with executed := surfaceLonger.executed + 1 }
        (execute (module.spelledOut chosen) (limits.capacity - usedBytes longer) other
          (scene.spelledOut chosen position)) := by
    intro other hother
    have hscene : scene.spelledOut chosen position =
        ⟨{ current.spelledOut chosen position with ip := current.ip + 1 },
          surfaceLonger.console, surfaceLonger.placement⟩ := by
      rw [← hsurface.console_eq, ← hsurface.placement_eq]
      rfl
    rw [hscene]
    exact advance_of_code ⟨current.spelledOut chosen position, longer, surfaceLonger⟩ hother
      hsurface.unlimited_longer
  rw [advance_of_code _ hcode hsurface.unlimited]
  rcases Routine.spelledOut_cases chosen hcode with
    hsame | ⟨opcode, target, rfl, hret, hdirect⟩
  · rw [hadvance instruction hsame]
    exact execute_beside scene haccepted hmember hcollapses hcounted hcode hstays
  · rw [hadvance (.call opcode .direct target) hdirect]
    exact tailCall_beside_call scene haccepted hmember hcollapses hcounted hcode hret

end Abreast

/-- One step of the longer run, beside a state of the shorter one. -/
theorem advance_beside (limits : Limits) (haccepted : (Verify.verify module).isValid = true)
    {state longer : State} (hshortens : Shortens chosen module state longer) :
    StepsBeside chosen module state (advance module limits state)
      (advance (module.spelledOut chosen) limits longer) := by
  cases hshortens with
  | returning hleaving hleavingLonger hresult hresultLonger hcollapses hsurface =>
    exact returning_beside hleaving hleavingLonger hresult hresultLonger hcollapses hsurface
  | @abreast current callers longer position surface surfaceLonger hmember hcollapses hsurface =>
    by_cases hleaving : current.Leaving
    · exact leaving_beside hcollapses hsurface hleaving
    · cases hcode : current.routine.code[current.ip]? with
      | none => exact absurd (.inl hcode) hleaving
      | some instruction =>
        refine executing_beside haccepted hmember hcollapses hsurface hcode ?_
        rintro rfl
        exact hleaving (.inr hcode)

end Steps

/-! ## Runs -/

section Runs

variable {chosen : Selection} {module : Module} {limits : Limits}

/-- A run that has returned stays so. -/
theorem runFor_succ_of_returned {bound : Nat} {state : State} {result : Option Value}
    {surface : Surface} (hreturned : runFor module limits bound state = .returned result surface) :
    runFor module limits (bound + 1) state = .returned result surface := by
  induction bound generalizing state with
  | zero => cases hreturned
  | succ bound ih =>
    rw [runFor] at hreturned ⊢
    cases hstep : step module limits state with
    | running next =>
      simp only [hstep] at hreturned ⊢
      exact ih hreturned
    | returned found last =>
      simp only [hstep] at hreturned ⊢
      exact hreturned
    | trapped trap last =>
      simp only [hstep] at hreturned
      cases hreturned

/-- When the longer run returns, so has the shorter one, with the same result. -/
theorem runFor_shortens (haccepted : (Verify.verify module).isValid = true) {bound : Nat}
    {state longer : State} (hshortens : Shortens chosen module state longer)
    {result : Option Value} {surfaceLonger : Surface}
    (hreturned : runFor (module.spelledOut chosen) limits bound longer =
      .returned result surfaceLonger) :
    ∃ surface, runFor module limits bound state = .returned result surface ∧
      surface.Beside surfaceLonger := by
  induction bound generalizing state longer with
  | zero => cases hreturned
  | succ bound ih =>
    have hbeside := advance_beside limits haccepted hshortens
    rw [runFor, step] at hreturned
    generalize hadvance : advance module limits state = progress,
      advance (module.spelledOut chosen) limits longer = progressLonger at hbeside hreturned
    cases hbeside with
    | together hnext =>
      obtain ⟨surface, hrun, hsurface⟩ := ih hnext hreturned
      refine ⟨surface, ?_, hsurface⟩
      rw [runFor, step, hadvance]
      exact hrun
    | alone hnext =>
      obtain ⟨surface, hrun, hsurface⟩ := ih hnext hreturned
      exact ⟨surface, runFor_succ_of_returned hrun, hsurface⟩
    | finished hsurface =>
      cases hreturned
      refine ⟨_, ?_, hsurface⟩
      rw [runFor, step, hadvance]
    | faulted => cases hreturned

/-- A run of a module beside one of the module that spells its tail calls out, from the
entry. -/
theorem runUpTo_shortens (haccepted : (Verify.verify module).isValid = true)
    (hfuel : limits.fuel = none) {bound : Nat} {console : Console} {result : Option Value}
    {surfaceLonger : Surface}
    (hreturned : runUpTo (module.spelledOut chosen) limits bound console =
      .returned result surfaceLonger) :
    ∃ surface, runUpTo module limits bound console = .returned result surface ∧
      surface.Beside surfaceLonger := by
  unfold runUpTo start at hreturned ⊢
  rw [Module.entry_spelledOut] at hreturned
  cases hentry : module.entry with
  | error cause =>
    rw [hentry] at hreturned
    cases hreturned
  | ok main =>
    rw [hentry] at hreturned
    simp only [Except.map] at hreturned ⊢
    have hused : usedBytes [.opened (main.spelledOut chosen) [] 0] =
        usedBytes [.opened main [] 0] := rfl
    unfold enterFirst install at hreturned ⊢
    rw [hused] at hreturned
    by_cases hnone : limits.maxCallDepth = 0
    · rw [if_pos hnone] at hreturned
      cases hreturned
    · rw [if_neg hnone] at hreturned ⊢
      by_cases hfull : limits.capacity < usedBytes [.opened main [] 0]
      · rw [if_pos hfull] at hreturned
        cases hreturned
      · rw [if_neg hfull] at hreturned ⊢
        refine runFor_shortens haccepted (.abreast (entry_eq_ok hentry).1 .bottom ?_) hreturned
        exact ⟨rfl, rfl, hfuel, hfuel, Nat.le_refl _⟩

end Runs

end Structured

/-! ## The machine with a packed arena -/

/-- A tail call means the same as a call followed by a return.  When chosen tail calls of a
confined module, each with a return right after it, are made direct and the run of that
module returns, then the module itself returns the same result after at most as many steps,
has used the console in the same way and has not nested deeper. -/
theorem runUpTo_spelledOut {setup : Setup} (hconfined : setup.module.Confined)
    (hfuel : setup.limits.fuel = none) (chosen : Selection) (bound : Nat) (console : Console)
    {result : Option Value} {longer : Machine}
    (hreturned : Machine.runUpTo { setup with module := setup.module.spelledOut chosen } bound
      (.new setup.limits console) = .returned result longer) :
    ∃ machine, Machine.runUpTo setup bound (.new setup.limits console) =
        .returned result machine ∧
      machine.console = longer.console ∧ machine.peak ≤ longer.peak := by
  have hplain : ({ setup with module := setup.module.spelledOut chosen } : Setup).module.Plain :=
    hconfined.plain.spelledOut chosen
  have htracksLonger := runUpTo_tracks hplain bound console
  have htracks := runUpTo_tracks hconfined.plain bound console
  simp only [hreturned] at htracksLonger
  generalize hrun : Structured.runUpTo (setup.module.spelledOut chosen) setup.limits bound
    console = expected at htracksLonger
  cases htracksLonger with
  | @returned _ _ surfaceLonger hsurfaceLonger =>
    obtain ⟨surface, hshort, hbeside⟩ := Structured.runUpTo_shortens hconfined.accepted hfuel hrun
    rw [hshort] at htracks
    generalize Machine.runUpTo setup bound (.new setup.limits console) = outcome at htracks
    cases htracks with
    | @returned _ machine _ hsurface =>
      refine ⟨machine, rfl, ?_, ?_⟩
      · have hconsole := hbeside.console_eq
        rw [← hsurface, ← hsurfaceLonger] at hconsole
        exact hconsole
      · have hpeak := hbeside.peak_le
        rw [← hsurface, ← hsurfaceLonger] at hpeak
        exact hpeak

/-- A machine for a routine that counts down by a tail call and prints each number. -/
def countingDown : Setup :=
  let main : Routine :=
    { Routine.empty 0 entryName with
      returnType := .i32
      code := #[Samples.pushInt 3, .callDefinition 1, Samples.ret] }
  let countdown : Routine :=
    { Routine.empty 1 "countdown" with
      returnType := .i32
      parameters := [.i32]
      labels := #[5]
      code := #[
        .pushArgument 0,
        .guard .notZero .i32,
        .jump 0,
        .pushArgument 0,
        Samples.ret,
        .pushArgument 0,
        Samples.onInt .print,
        .pushArgument 0,
        Samples.onInt .decrement,
        .tailCall 1,
        Samples.ret] }
  ⟨⟨"countdown", [.routine main, .routine countdown], .empty⟩, .default, .empty⟩

/-- Both runs count down.  The one without tail calls keeps an activation for each
number. -/
theorem runUpTo_spelledOut_countingDown :
    countingDown.module.Confined ∧
      ∃ longer machine,
        Machine.runUpTo
            { countingDown with module := countingDown.module.spelledOut fun _ _ => true } 60
            (.new countingDown.limits (.new [])) = .returned (some (.ofInt .i32 0)) longer ∧
          Machine.runUpTo countingDown 60 (.new countingDown.limits (.new [])) =
            .returned (some (.ofInt .i32 0)) machine ∧
          machine.console = longer.console ∧ machine.peak ≤ longer.peak ∧ longer.peak = 5 := by
  have hconfined : countingDown.module.Confined :=
    ⟨by decide +kernel, by decide +kernel, by decide +kernel, by decide +kernel⟩
  generalize hrun : Machine.runUpTo
    { countingDown with module := countingDown.module.spelledOut fun _ _ => true } 60
    (.new countingDown.limits (.new [])) = outcome
  have hverdict : outcome.observed.verdict = .returned (some (.ofInt .i32 0)) := by
    rw [← hrun]
    decide +kernel
  have hpeak : outcome.observed.surface.peak = 5 := by
    rw [← hrun]
    decide +kernel
  cases outcome with
  | running machine => cases hverdict
  | trapped trap machine => cases hverdict
  | returned result longer =>
    cases hverdict
    obtain ⟨machine, hshorter, hconsole, hle⟩ :=
      runUpTo_spelledOut hconfined rfl (fun _ _ => true) 60 (.new []) hrun
    exact ⟨hconfined, longer, machine, rfl, hshorter, hconsole, hle, hpeak⟩

end StackCode
