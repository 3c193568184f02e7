import StackCode.Proofs.Structured.Scene

/-!
# Calls and returns of structured activations

A machine stands for a structured state when its frames and values are those of the
activation records.  Opening, replacing and closing an activation lead from such a machine
to one that stands for the next structured state, or to the same fault.

Main definitions:

- `Packs`: activation records and the frames and values that stand for them.
- `Represents`: a machine that stands for a structured state.
- `Machine.Leads`: what a computation on machines with a portrait leads to.

Main results:

- Theorems `Machine.enter_leads`, `Machine.tailEnter_leads`, `Machine.leave_leads`: calls and
  returns.
-/

namespace StackCode

open Structured (Activation Surface State Progress packedSize usedBytes)

/-! ## States -/

/-- Activation records, the running one first, with the frames and values that stand for
them. -/
inductive Packs : List Frame → List Activation → List Value → Prop
  | nil : Packs [] [] []
  | cons {frames : List Frame} {activations : List Activation} {below : List Value}
      (activation : Activation) (savedFp : UInt64) (hfits : activation.Fits)
      (hbelow : Packs frames activations below) :
      Packs (.placed activation.routine activation.ip (packedSize below) :: frames)
        (activation :: activations) (activation.values savedFp ++ below)

section Packs

variable {frames : List Frame} {activations : List Activation} {values : List Value}

/-- The values take as many bytes as the records say. -/
theorem Packs.packedSize_eq (hpacks : Packs frames activations values) :
    packedSize values = usedBytes activations := by
  induction hpacks with
  | nil => rfl
  | cons activation savedFp hfits hbelow ih =>
    rw [packedSize_append, packedSize_values, ih, Structured.usedBytes_cons]

theorem Packs.length_eq (hpacks : Packs frames activations values) :
    frames.length = activations.length := by
  induction hpacks with
  | nil => rfl
  | cons activation savedFp hfits hbelow ih => simp [ih]

end Packs

/-- The machine stands for a structured state. -/
def Represents (capacity : Nat) (machine : Machine) (state : State) : Prop :=
  ∃ frames values, Packs frames (state.current :: state.callers) values ∧
    machine.Depicts capacity ⟨values, frames, state.surface⟩

/-- The result of a computation on machines is what a structured step leads to; `flow`
says how the machine goes on. -/
inductive Follows {α : Type} (capacity : Nat) (flow : α → Flow) :
    EStateM.Result Fault Machine α → Progress → Prop
  | continued {result : α} {machine : Machine} {state : State} (hflow : flow result = .proceed)
      (hrepresents : Represents capacity machine state) :
      Follows capacity flow (.ok result machine) (.continued state)
  | finished {result : α} {machine : Machine} {expected : Option Value} {surface : Surface}
      (hflow : flow result = .finished expected) (hsurface : machine.surface = surface) :
      Follows capacity flow (.ok result machine) (.finished expected surface)
  | faulted {fault : Fault} {machine : Machine} {surface : Surface}
      (hsurface : machine.surface = surface) :
      Follows capacity flow (.error fault machine) (.faulted fault surface)

/-- A computation without a result, after which the machine goes on. -/
theorem Follows.then_proceed {capacity : Nat} {computation : Exec Unit} {machine : Machine}
    {progress : Progress}
    (hfollows : Follows capacity (fun _ => .proceed) (computation machine) progress) :
    Follows capacity id ((do computation; return .proceed : Exec Flow) machine) progress := by
  change Follows capacity id (EStateM.bind computation (fun _ => pure .proceed) machine) progress
  unfold EStateM.bind
  generalize computation machine = found at hfollows
  cases hfollows with
  | continued _ hrepresents => exact .continued rfl hrepresents
  | finished hflow _ => cases hflow
  | faulted hsurface => exact .faulted hsurface

namespace Machine

/-- On machines with a portrait, a computation leads to what a structured step leads
to. -/
def Leads {α : Type} (capacity : Nat) (flow : α → Flow) (portrait : Portrait)
    (computation : Exec α) (progress : Progress) : Prop :=
  ∀ machine : Machine, machine.Depicts capacity portrait →
    Follows capacity flow (computation machine) progress

section Leads

variable {α β : Type} {capacity : Nat} {flow : β → Flow} {portrait middle : Portrait}
  {computation : Exec α} {next : α → Exec β}

theorem Leads.bind {result : α} {progress : Progress}
    (hfirst : Gives capacity portrait computation (.ok result middle))
    (hnext : Leads capacity flow middle (next result) progress) :
    Leads capacity flow portrait (computation >>= next) progress := by
  intro machine hdepicts
  have hmatches := hfirst machine hdepicts
  change Follows capacity flow (EStateM.bind computation next machine) progress
  unfold EStateM.bind
  generalize computation machine = found at hmatches
  cases hmatches with
  | ok hafter => exact hnext _ hafter

theorem Leads.of_error {fault : Fault} {computation : Exec β}
    (hfirst : Gives capacity portrait computation (.error fault middle)) :
    Leads capacity flow portrait computation (.faulted fault middle.surface) := by
  intro machine hdepicts
  have hmatches := hfirst machine hdepicts
  generalize computation machine = found at hmatches
  cases hmatches with
  | error hsurface => exact .faulted hsurface

theorem Leads.of_ok {result : β} {state : State} {frames : List Frame} {values : List Value}
    {computation : Exec β} (hflow : flow result = .proceed)
    (hpacks : Packs frames (state.current :: state.callers) values)
    (hgives : Gives capacity portrait computation
      (.ok result ⟨values, frames, state.surface⟩)) :
    Leads capacity flow portrait computation (.continued state) := by
  intro machine hdepicts
  have hmatches := hgives machine hdepicts
  generalize computation machine = found at hmatches
  cases hmatches with
  | ok hafter => exact .continued hflow ⟨frames, values, hpacks, hafter⟩

end Leads

/-! ## Opening and replacing activations -/

section Calls

variable {limits : Limits} {frames : List Frame} {callers : List Activation}
  {below : List Value} {surface : Surface}

theorem totalSize_frameTypes_eq {routine : Routine} {arguments : List Value}
    (htypes : arguments.map Value.type = routine.parameters) (resume : Nat) :
    (Activation.opened routine arguments resume).size = totalSize routine.frameTypes := by
  have harguments := packedSize_eq_totalSize htypes
  have hlocals := packedSize_map_zero routine.locals.toList
  rw [Routine.totalSize_frameTypes]
  simp only [Activation.size, Activation.opened, harguments, hlocals, packedSize_nil]
  omega

/-- Laying out an activation is installing its record. -/
theorem layOut_leads (limits : Limits) (surface : Surface) {routine : Routine}
    {arguments : List Value} {resume : Nat} (hplain : routine.Plain)
    (htypes : arguments.map Value.type = routine.parameters) (hresume : resume < 2 ^ 32)
    (hpacks : Packs frames callers below) (savedFp : UInt64) :
    Leads limits.capacity (fun _ => .proceed) ⟨arguments.reverse ++ below, frames, surface⟩
      (layOut routine savedFp resume.toUInt32)
      (Structured.install limits (.opened routine arguments resume) callers surface) := by
  have hsize := totalSize_frameTypes_eq htypes resume
  have hbelow := hpacks.packedSize_eq
  have hused : usedBytes (.opened routine arguments resume :: callers) =
      packedSize below + totalSize routine.frameTypes := by
    rw [← hsize, hbelow, Nat.add_comm, Structured.usedBytes_cons]
  unfold Structured.install
  rw [hused]
  by_cases hfull : limits.capacity < packedSize below + totalSize routine.frameTypes
  · rw [if_pos hfull]
    obtain ⟨last, hgives⟩ := layOut_gives_overflow frames surface savedFp resume.toUInt32 htypes
      hplain.storable hfull
    exact Leads.of_error hgives
  · rw [if_neg hfull]
    have hgives := layOut_gives frames surface savedFp resume.toUInt32 htypes hplain.storable
      (Nat.not_lt.mp hfull)
    rw [hpacks.length_eq] at hgives
    have hfits : (Activation.opened routine arguments resume).Fits := by
      refine ⟨hplain, htypes, ?_, hresume⟩
      simp [Activation.opened, Value.zero, Function.comp_def]
    exact Leads.of_ok rfl (.cons (.opened routine arguments resume) savedFp hfits hpacks) hgives

/-- Arguments that were taken lay on top of the remaining operands and have the types of
the parameters. -/
theorem takeArguments_eq_ok {activation : Activation} {parameters : List DataType}
    {arguments operands : List Value}
    (htaken : activation.takeArguments parameters = .ok (arguments, operands)) :
    activation.operands = arguments.reverse ++ operands ∧
      arguments.map Value.type = parameters := by
  unfold Activation.takeArguments at htaken
  cases hmatched : Arena.matchTop (activation.operands.map Value.type) parameters with
  | error fault =>
    rw [hmatched] at htaken
    simp at htaken
  | ok result =>
    rw [hmatched] at htaken
    simp only [Except.ok.injEq, Prod.mk.injEq] at htaken
    obtain ⟨rfl, rfl⟩ := htaken
    obtain ⟨lower, hlower⟩ := (Arena.matchTop_eq_ok_iff _ _).mp hmatched
    refine ⟨by simp, ?_⟩
    have hlength : parameters.length = parameters.reverse.length := List.length_reverse.symm
    rw [List.map_reverse, List.map_take, hlower, hlength, List.take_left, List.reverse_reverse]

variable {current : Activation}

/-- The operands of an activation on others start where its locals end. -/
theorem floorOf_values (hfits : current.Fits) (savedFp : UInt64) (below : List Value)
    (frames : List Frame) :
    floorOf (.placed current.routine current.ip (packedSize below) :: frames) =
      packedSize (frameValues current.arguments current.locals savedFp
        current.resume.toUInt32 ++ below) := by
  have hscene : (⟨current, .new [], ⟨0, []⟩⟩ : Structured.Scene).current.Fits := hfits
  exact Stage.floorOf_portrait ⟨frames, below, savedFp, ⟨.new [], ⟨0, []⟩, none, 0, 0⟩⟩ hscene

/-- The check of topmost operands succeeds when arguments can be taken. -/
theorem checkTop_gives_taken (capacity : Nat) (below : List Value) (frames : List Frame)
    (surface : Surface) (hfits : current.Fits) (parameters : List DataType) (savedFp : UInt64) :
    Gives capacity
      ⟨current.values savedFp ++ below,
        .placed current.routine current.ip (packedSize below) :: frames, surface⟩
      (checkTop parameters)
      (Portrait.tells ⟨current.values savedFp ++ below,
        .placed current.routine current.ip (packedSize below) :: frames, surface⟩
        ((current.takeArguments parameters).map fun _ => ())) := by
  have hcheck := checkTop_gives capacity current.operands surface
    (floorOf_values hfits savedFp below frames) parameters
  rw [← List.append_assoc] at hcheck
  have htaken : (current.takeArguments parameters).map (fun _ => ()) =
      Arena.matchTop (current.operands.map Value.type) parameters := by
    unfold Activation.takeArguments
    cases Arena.matchTop (current.operands.map Value.type) parameters <;> rfl
  rw [htaken]
  exact hcheck

/-- The frame and the position that a call saves. -/
def registers (calls : CallStack) : UInt64 × UInt32 :=
  match calls.top? with
  | some frame => (frame.fp.toUInt64, frame.ip.toUInt32)
  | none => (0, 0)

/-- Opening an activation. -/
theorem enter_leads {routine : Routine} (hplain : routine.Plain) (hfits : current.Fits)
    (hposition : current.ip < 2 ^ 32) (hpacks : Packs frames callers below) (savedFp : UInt64) :
    Leads limits.capacity (fun _ => .proceed)
      ⟨current.values savedFp ++ below,
        .placed current.routine current.ip (packedSize below) :: frames, surface⟩
      (enter limits routine) (Structured.enter limits routine ⟨current, callers, surface⟩) := by
  have hview : ∀ machine : Machine, machine.Depicts limits.capacity
      ⟨current.values savedFp ++ below,
        .placed current.routine current.ip (packedSize below) :: frames, surface⟩ →
      (Except.ok (machine.calls.depth, registers machine.calls) : Except Fault _) =
        .ok (callers.length + 1, (Frame.placed current.routine current.ip
          (packedSize below)).fp.toUInt64, current.ip.toUInt32) := by
    intro machine hdepicts
    have hframes : machine.calls.frames =
        .placed current.routine current.ip (packedSize below) :: frames := hdepicts.frames_eq
    rw [machine.calls.depth_eq, registers, CallStack.top?, hframes, List.length_cons,
      hpacks.length_eq]
    rfl
  refine Leads.bind (Gives.inspect _ hview) ?_
  unfold Structured.enter
  by_cases hdeep : limits.maxCallDepth ≤ callers.length + 1
  · simp only [if_pos hdeep]
    exact Leads.of_error (Gives.throw _)
  · simp only [if_neg hdeep]
    have hcheck := checkTop_gives_taken limits.capacity below frames surface hfits
      routine.parameters savedFp
    cases htaken : current.takeArguments routine.parameters with
    | error fault =>
      rw [htaken] at hcheck
      exact Leads.of_error (Gives.bind_error hcheck)
    | ok taken =>
      obtain ⟨arguments, operands⟩ := taken
      obtain ⟨hoperands, htypes⟩ := takeArguments_eq_ok htaken
      rw [htaken] at hcheck
      refine Leads.bind hcheck ?_
      -- What remains of the operands stays with the caller.
      have hcaller : Packs (.placed current.routine current.ip (packedSize below) :: frames)
          ({ current with operands } :: callers)
          (Activation.values { current with operands } savedFp ++ below) :=
        .cons { current with operands } savedFp (hfits.moved _ _) hpacks
      have hleads := layOut_leads limits surface hplain htypes hposition
        hcaller (Frame.placed current.routine current.ip (packedSize below)).fp.toUInt64
      simpa [Activation.values, hoperands] using hleads

/-- Opening the first activation of a run. -/
theorem enter_leads_first {main : Routine} (hplain : main.Plain) (hentry : main.parameters = []) :
    Leads limits.capacity (fun _ => .proceed) ⟨[], [], surface⟩ (enter limits main)
      (Structured.enterFirst limits main surface) := by
  have hview : ∀ machine : Machine, machine.Depicts limits.capacity ⟨[], [], surface⟩ →
      (Except.ok (machine.calls.depth, registers machine.calls) : Except Fault _) =
        .ok (0, 0, 0) := by
    intro machine hdepicts
    have hframes : machine.calls.frames = [] := hdepicts.frames_eq
    rw [machine.calls.depth_eq, registers, CallStack.top?, hframes]
    rfl
  refine Leads.bind (Gives.inspect _ hview) ?_
  unfold Structured.enterFirst
  by_cases hdeep : limits.maxCallDepth = 0
  · simp only [Nat.le_zero_eq, if_pos hdeep]
    exact Leads.of_error (Gives.throw _)
  · simp only [Nat.le_zero_eq, if_neg hdeep]
    have hfloor : floorOf [] = packedSize [] := rfl
    have hcheck := checkTop_gives limits.capacity [] surface hfloor main.parameters
    rw [hentry] at hcheck
    have hnone : ([] : List Value).map Value.type = main.parameters := hentry.symm
    have hstart : 0 < 2 ^ 32 := by decide
    have hleads := layOut_leads limits surface hplain hnone hstart .nil 0
    rw [hentry]
    exact Leads.bind hcheck hleads

/-- Replacing the running activation. -/
theorem tailEnter_leads {routine : Routine} (hplain : routine.Plain) (hfits : current.Fits)
    (hpacks : Packs frames callers below) (savedFp : UInt64) :
    Leads limits.capacity (fun _ => .proceed)
      ⟨current.values savedFp ++ below,
        .placed current.routine current.ip (packedSize below) :: frames, surface⟩
      (tailEnter routine)
      (Structured.tailEnter limits routine ⟨current, callers, surface⟩) := by
  have hfloor := floorOf_values hfits savedFp below frames
  have hcheck := checkTop_gives_taken limits.capacity below frames surface hfits
    routine.parameters savedFp
  intro machine hdepicts
  unfold Structured.tailEnter
  cases htaken : current.takeArguments routine.parameters with
  | error fault =>
    rw [htaken] at hcheck
    exact Leads.of_error (Gives.bind_error hcheck) machine hdepicts
  | ok taken =>
    obtain ⟨arguments, operands⟩ := taken
    obtain ⟨hoperands, htypes⟩ := takeArguments_eq_ok htaken
    rw [htaken] at hcheck
    -- The arguments are taken off, all else of the activation is dropped, and they are
    -- pushed again where it started; they fit there, since they fitted above.
    have hvalues : current.values savedFp ++ below = arguments.reverse ++ (operands ++
        (frameValues current.arguments current.locals savedFp current.resume.toUInt32 ++
          below)) := by
      simp [Activation.values, hoperands]
    have hfitted := hdepicts.packedSize_le
    simp only [hvalues, packedSize_append, packedSize_reverse] at hfitted
    have hpushed : ∀ value ∈ arguments, value.type ≠ .void ∧ value.stored = value := by
      intro value hvalue
      have hmember : value ∈ current.values savedFp ++ below := by
        rw [hvalues]
        simp [hvalue]
      exact ⟨hdepicts.holds.type_ne_void hmember, hdepicts.holds.stored_eq hmember⟩
    have hpop := popMany_gives limits.capacity operands surface hfloor htypes
    rw [← hvalues] at hpop
    have hsaved := savedRegisters_gives limits.capacity operands current.locals below frames
      surface savedFp current.resume.toUInt32 hfits.arguments_eq current.ip
    have htruncate := truncate_gives limits.capacity
      (operands ++ frameValues current.arguments current.locals savedFp current.resume.toUInt32)
      below frames surface
    rw [List.append_assoc] at htruncate
    have hpush := pushMany_gives limits.capacity below frames surface arguments hpushed (by omega)
    have hleads := layOut_leads limits surface hplain htypes hfits.resume_lt hpacks savedFp
    exact Leads.bind hcheck (Leads.bind hpop (Leads.bind frame_gives (Leads.bind
      onCalls_pop_gives (Leads.bind hsaved (Leads.bind htruncate (Leads.bind hpush hleads))))))
      machine hdepicts

/-! ## Closing activations -/

/-- A fault of the returned value. -/
theorem popResult_gives_error (capacity : Nat) (below : List Value) (frames : List Frame)
    (surface : Surface) {fault : Fault} (hfits : current.Fits)
    (hresult : current.result = .error fault) (savedFp : UInt64) :
    ∃ last, Gives capacity
      ⟨current.values savedFp ++ below,
        .placed current.routine current.ip (packedSize below) :: frames, surface⟩
      (popResult current.routine.returnType)
      (.error fault ⟨last, .placed current.routine current.ip (packedSize below) :: frames,
        surface⟩) := by
  have hpop := pop_gives capacity current.operands surface
    (floorOf_values hfits savedFp below frames) current.routine.returnType
  rw [← List.append_assoc] at hpop
  unfold Activation.result at hresult
  unfold popResult
  by_cases hvoid : current.routine.returnType = .void
  · simp [hvoid] at hresult
  · rw [if_neg hvoid] at hresult ⊢
    cases hoperands : current.operands with
    | nil =>
      rw [hoperands] at hresult hpop
      cases hresult
      exact ⟨_, Gives.bind_error (by simpa [Activation.values, hoperands] using hpop)⟩
    | cons value rest =>
      rw [hoperands] at hresult hpop
      by_cases htype : value.type ≠ current.routine.returnType
      · simp only [if_pos htype] at hresult hpop
        cases hresult
        exact ⟨_, Gives.bind_error (by simpa [Activation.values, hoperands] using hpop)⟩
      · simp [htype] at hresult

/-- The returned value is the topmost operand, if there is one. -/
theorem popResult_gives (capacity : Nat) (below : List Value) (frames : List Frame)
    (surface : Surface) {result : Option Value} (hfits : current.Fits)
    (hresult : current.result = .ok result) (savedFp : UInt64) :
    ∃ operands, current.operands = result.toList ++ operands ∧ Gives capacity
      ⟨current.values savedFp ++ below,
        .placed current.routine current.ip (packedSize below) :: frames, surface⟩
      (popResult current.routine.returnType)
      (.ok result ⟨operands ++ (frameValues current.arguments current.locals savedFp
        current.resume.toUInt32 ++ below),
        .placed current.routine current.ip (packedSize below) :: frames, surface⟩) := by
  have hpop := pop_gives capacity current.operands surface
    (floorOf_values hfits savedFp below frames) current.routine.returnType
  have hvalues : current.operands ++ (frameValues current.arguments current.locals savedFp
      current.resume.toUInt32 ++ below) = current.values savedFp ++ below := by
    simp [Activation.values]
  rw [hvalues] at hpop
  unfold Activation.result at hresult
  unfold popResult
  by_cases hvoid : current.routine.returnType = .void
  · rw [if_pos hvoid] at hresult ⊢
    cases hresult
    refine ⟨current.operands, rfl, ?_⟩
    rw [hvalues]
    exact Gives.pure none
  · rw [if_neg hvoid] at hresult ⊢
    cases hoperands : current.operands with
    | nil =>
      rw [hoperands] at hresult
      simp at hresult
    | cons value rest =>
      rw [hoperands] at hresult hpop
      by_cases htype : value.type ≠ current.routine.returnType
      · simp [htype] at hresult
      · simp only [if_neg htype] at hresult hpop
        cases hresult
        exact ⟨rest, rfl, Gives.bind hpop (Gives.pure _)⟩

/-- A caller goes on with a result for which there is room. -/
theorem resume_leads {caller : Activation} (hcaller : caller.Fits)
    (hpacks : Packs frames callers below) (callerFp : UInt64) (resume : Nat)
    {result : Option Value}
    (hpushed : ∀ value ∈ result, value.type ≠ .void ∧ value.stored = value)
    (hroom : packedSize result.toList + packedSize (caller.values callerFp ++ below) ≤
      limits.capacity) :
    Leads limits.capacity id
      ⟨caller.values callerFp ++ below,
        .placed caller.routine caller.ip (packedSize below) :: frames, surface⟩
      (do
        onCalls (CallStack.jump resume)
        match result with
        | some value => push value
        | none => pure ()
        return .proceed)
      (.continued
        ⟨{ caller with ip := resume, operands := result.toList ++ caller.operands }, callers,
          surface⟩) := by
  have hresumed := Packs.cons _ callerFp
    (hcaller.moved resume (result.toList ++ caller.operands)) hpacks
  refine Leads.bind (onCalls_jump_gives _ _ _ _) ?_
  cases result with
  | none => exact Leads.of_ok rfl hresumed (Gives.pure _)
  | some value =>
    obtain ⟨hstorable, hstored⟩ := hpushed value rfl
    have hpush := push_gives limits.capacity (caller.values callerFp ++ below)
      (.placed caller.routine resume (packedSize below) :: frames) surface value
    rw [Option.toList_some, packedSize_cons, packedSize_nil] at hroom
    rw [if_neg hstorable, if_neg (by omega), hstored] at hpush
    exact Leads.bind hpush (Leads.of_ok rfl hresumed (Gives.pure _))

/-- Closing the running activation. -/
theorem leave_leads (hfits : current.Fits) (hpacks : Packs frames callers below)
    (savedFp : UInt64) :
    Leads limits.capacity id
      ⟨current.values savedFp ++ below,
        .placed current.routine current.ip (packedSize below) :: frames, surface⟩
      leave (Structured.leave ⟨current, callers, surface⟩) := by
  intro machine hdepicts
  unfold Structured.leave
  cases hresult : current.result with
  | error fault =>
    obtain ⟨last, hpop⟩ := popResult_gives_error limits.capacity below frames surface hfits
      hresult savedFp
    refine Leads.bind frame_gives ?_ machine hdepicts
    exact Leads.of_error (Gives.bind_error hpop)
  | ok result =>
    obtain ⟨operands, hoperands, hpop⟩ := popResult_gives limits.capacity below frames surface
      hfits hresult savedFp
    have hsaved := savedRegisters_gives limits.capacity operands current.locals below
      (.placed current.routine current.ip (packedSize below) :: frames) surface savedFp
      current.resume.toUInt32 hfits.arguments_eq current.ip
    have htruncate := truncate_gives limits.capacity
      (operands ++ frameValues current.arguments current.locals savedFp current.resume.toUInt32)
      below (.placed current.routine current.ip (packedSize below) :: frames) surface
    rw [List.append_assoc] at htruncate
    have hlast : ∀ machine : Machine, machine.Depicts limits.capacity ⟨below, frames, surface⟩ →
        (Except.ok machine.calls.frames.isEmpty : Except Fault Bool) = .ok frames.isEmpty := by
      intro machine hdepicts
      rw [hdepicts.frames_eq]
    refine Leads.bind frame_gives (Leads.bind hpop (Leads.bind hsaved (Leads.bind htruncate
      (Leads.bind onCalls_pop_gives (Leads.bind (Gives.inspect _ hlast) ?_))))) machine hdepicts
    cases hpacks with
    | nil => exact fun closed hclosed => .finished rfl hclosed.surface_eq
    | @cons others otherCallers lower caller callerFp hcaller hlower =>
      have hresume : current.resume.toUInt32.toNat = current.resume := by
        have hlt := hfits.resume_lt
        simp only [Nat.toUInt32, UInt32.toNat_ofNat']
        omega
      -- The result was an operand, so it can be stored and fits where the activation was.
      have hpushed : ∀ value ∈ result, value.type ≠ .void ∧ value.stored = value := by
        intro value hvalue
        have hmember : value ∈ current.values savedFp ++ (caller.values callerFp ++ lower) := by
          simp [Activation.values, hoperands, Option.mem_toList.mpr hvalue]
        exact ⟨hdepicts.holds.type_ne_void hmember, hdepicts.holds.stored_eq hmember⟩
      have hroom : packedSize result.toList + packedSize (caller.values callerFp ++ lower) ≤
          limits.capacity := by
        have hfitted := hdepicts.packedSize_le
        have hvalues : packedSize result.toList ≤ packedSize (current.values savedFp) := by
          simp only [Activation.values, hoperands, packedSize_append]
          omega
        rw [packedSize_append] at hfitted
        omega
      simp only [List.isEmpty_cons, Bool.false_eq_true, if_false, hresume]
      exact resume_leads hcaller hlower callerFp current.resume hpushed hroom

end Calls

end Machine

end StackCode
