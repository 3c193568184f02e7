import StackCode.Proofs.Machine.FrameLayout
import StackCode.Proofs.Memory.Regions

/-!
# The layout of calls and returns

Opening an activation takes its arguments from the operands of the caller; replacing
one keeps the offset at which it starts; closing one takes the returned value from the top.
This file proves these effects on the profile of a machine.

Main results:

- Theorem `Machine.enter_yields`: opening an activation.
- Theorem `Machine.tailEnter_yields`: replacing the running activation.
- Theorem `Machine.popResult_yields`: the returned value of an activation that is closed.
- Theorem `Machine.runHost_yields`: a host function leaves types and activations alone.
-/

namespace StackCode

namespace Machine

section Calls

variable {capacity peak : Nat} {operands below : List DataType} {frames : List Frame}

/-- The running activation is the first one. -/
theorem frame_yields {types : List DataType} {top : Frame} :
    Yields capacity (HasProfile ⟨capacity, types, top :: frames, peak⟩) frame
      (fun found machine => found = top ∧
        machine.HasProfile ⟨capacity, types, top :: frames, peak⟩) := by
  refine (Yields.inspect fun _ h => h.sound).weaken (fun _ h => h) ?_
  rintro found machine ⟨hprofile, hview⟩
  have htop : machine.calls.top? = some top := by
    rw [CallStack.top?, hprofile.frames_eq]
    rfl
  rw [htop] at hview
  exact ⟨(Except.ok.inj hview).symm, hprofile⟩

/-- Reading the saved registers changes nothing. -/
theorem savedRegisters_yields {types : List DataType} (fp : Nat) :
    Yields capacity (HasProfile ⟨capacity, types, frames, peak⟩) (savedRegisters fp)
      (fun _ => HasProfile ⟨capacity, types, frames, peak⟩) := by
  unfold savedRegisters
  split
  · exact Yields.throw fun _ h => h.sound
  · refine Yields.bind (Yields.inspect fun _ h => h.sound) fun savedFp => ?_
    refine Yields.bind (Yields.inspect fun _ h => h.1.sound) fun savedIp => ?_
    exact Yields.pure fun _ h => h.1.1

/-! ## Opening and replacing -/

/-- An activation is opened on top of the arguments, which belong to it from then on. -/
theorem enter_yields (operands : List DataType) (hfloor : floorOf frames = totalSize below)
    (limits : Limits) (routine : Routine) :
    Yields capacity (HasProfile ⟨capacity, operands ++ below, frames, peak⟩)
      (enter limits routine)
      (fun _ machine => frames.length < limits.maxCallDepth ∧
        ∃ rest, operands = routine.parameters.reverse ++ rest ∧
          machine.HasProfile ⟨capacity, routine.frameTypes.reverse ++ (rest ++ below),
            .placed routine 0 (totalSize (rest ++ below)) :: frames,
            max peak (frames.length + 1)⟩) := by
  refine Yields.bind (Yields.inspect fun _ h => h.sound) ?_
  rintro ⟨depth, savedFp, savedIp⟩ machine ⟨hprofile, hview⟩
  have hdepth : depth = frames.length := by
    have hfirst : machine.calls.depth = depth := congrArg Prod.fst (Except.ok.inj hview)
    rw [← hfirst, machine.calls.depth_eq, hprofile.frames_eq]
  by_cases hdeep : limits.maxCallDepth ≤ depth
  · simp only [if_pos hdeep]
    exact hprofile.sound
  · simp only [if_neg hdeep]
    refine Yields.bind (checkTop_yields hfloor _) ?_ machine hprofile
    rintro ⟨⟩ machine ⟨hprofile, rest, rfl⟩
    rw [List.append_assoc] at hprofile
    refine (layOut_yields routine savedFp savedIp).weaken (fun _ h => h) ?_ machine hprofile
    intro _ opened hopened
    exact ⟨by omega, rest, rfl, hopened⟩

/-- A tail call puts an activation in the place of the running one, whatever the
number and the types of its arguments. -/
theorem tailEnter_yields (running routine : Routine) (ip : Nat) :
    Yields capacity
      (HasProfile ⟨capacity, operands ++ (running.frameTypes.reverse ++ below),
        .placed running ip (totalSize below) :: frames, peak⟩)
      (tailEnter routine)
      (fun _ machine => (∃ rest, operands = routine.parameters.reverse ++ rest) ∧
        machine.HasProfile ⟨capacity, routine.frameTypes.reverse ++ below,
          .placed routine 0 (totalSize below) :: frames, max peak (frames.length + 1)⟩) := by
  have hfloor := floorOf_placed running ip below frames
  refine Yields.bind (checkTop_yields hfloor _) ?_
  rintro ⟨⟩ checked ⟨hchecked, -⟩
  refine Yields.bind (popMany_yields hfloor _) ?_ checked hchecked
  rintro arguments popped ⟨harguments, rest, hoperands, hpopped⟩
  refine Yields.bind frame_yields ?_ popped hpopped
  rintro old found ⟨rfl, hfound⟩
  refine Yields.bind (onCalls_yields frames ?_) (fun _ => ?_) found hfound
  · intro calls hcalls
    change calls.frames.tail = frames
    rw [hcalls]
    rfl
  refine Yields.bind (savedRegisters_yields _) ?_
  rintro ⟨savedFp, savedIp⟩ unwound hunwound
  rw [← List.append_assoc] at hunwound
  refine Yields.bind truncate_yields (fun _ => Yields.bind (pushMany_yields arguments) fun _ => ?_)
    unwound hunwound
  rw [harguments]
  refine (layOut_yields routine savedFp savedIp).weaken (fun _ h => h) ?_
  intro _ opened hopened
  exact ⟨⟨rest, hoperands⟩, hopened⟩

/-! ## Closing -/

/-- The types that a routine with a return type leaves on the stack of its caller. -/
def resultTypes (type : DataType) : List DataType := if type = .void then [] else [type]

/-- The returned value is the topmost operand, unless there is none. -/
theorem popResult_yields (hfloor : floorOf frames = totalSize below) (type : DataType) :
    Yields capacity (HasProfile ⟨capacity, operands ++ below, frames, peak⟩) (popResult type)
      (fun result machine => result.toList.map Value.type = resultTypes type ∧
        ∃ rest, operands = resultTypes type ++ rest ∧
          machine.HasProfile ⟨capacity, rest ++ below, frames, peak⟩) := by
  unfold popResult resultTypes
  by_cases hvoid : type = .void
  · simp only [if_pos hvoid]
    exact Yields.pure fun machine h => ⟨rfl, operands, rfl, h⟩
  · simp only [if_neg hvoid]
    refine Yields.bind (pop_yields hfloor type) fun value => Yields.pure ?_
    rintro machine ⟨htype, rest, hoperands, hprofile⟩
    exact ⟨by simp [htype], rest, hoperands, hprofile⟩

end Calls

/-! ## Memory and host functions -/

/-- Overwriting memory by address leaves the types in the arena as they are. -/
theorem writeBytes_packed {memory : Memory} {types : List DataType} (address : UInt64)
    (bytes : List UInt8) (hpacked : memory.arena.Packed types) :
    match Memory.writeBytes address bytes memory with
    | .ok _ next => next.arena.Packed types ∧ next.arena.capacity = memory.arena.capacity
    | .error _ next => next.arena.Packed types ∧
        next.arena.capacity = memory.arena.capacity := by
  unfold Memory.writeBytes
  cases hregion : memory.resolve address bytes.length with
  | error fault => exact ⟨hpacked, rfl⟩
  | ok region =>
    cases region with
    | resource offset => exact ⟨hpacked, rfl⟩
    | arena offset => exact ⟨hpacked.overwritten (Memory.live_of_resolve hregion), rfl⟩

/-- The surroundings of a host function have an arena with the given types. -/
def Surrounds (capacity : Nat) (types : List DataType) (surroundings : Surroundings) : Prop :=
  surroundings.memory.arena.capacity = capacity ∧ surroundings.memory.arena.Packed types

/-- A change of memory by a host function leaves the types in the arena as they are. -/
theorem change_surrounds {capacity : Nat} {types : List DataType} {surroundings : Surroundings}
    (hsurrounds : Surrounds capacity types surroundings) (address : UInt64)
    (bytes : List UInt8) :
    Surrounds capacity types
      (HostProgram.change (Memory.writeBytes address bytes) surroundings).2 := by
  obtain ⟨memory, console, notes⟩ := surroundings
  obtain ⟨hcapacity, hpacked⟩ := hsurrounds
  have hwritten := writeBytes_packed address bytes hpacked
  cases hresult : Memory.writeBytes address bytes memory with
  | ok result next =>
    rw [hresult] at hwritten
    simp only [HostProgram.change, hresult]
    exact ⟨hwritten.2.trans hcapacity, hwritten.1⟩
  | error fault next =>
    rw [hresult] at hwritten
    simp only [HostProgram.change, hresult]
    exact ⟨hwritten.2.trans hcapacity, hwritten.1⟩

/-- A host function leaves the types in the arena as they are, however it ends. -/
theorem run_surrounds (program : HostProgram) {capacity : Nat} {types : List DataType}
    {surroundings : Surroundings} (hsurrounds : Surrounds capacity types surroundings) :
    match program.run surroundings with
    | .ok _ next => Surrounds capacity types next
    | .error _ next => Surrounds capacity types next := by
  induction program generalizing surroundings with
  | done result => exact hsurrounds
  | fail message => exact hsurrounds
  | read address type next ih => exact ih _ hsurrounds
  | write address value next ih => exact ih _ (change_surrounds hsurrounds address value.bytes)
  | readBytes address length next ih => exact ih _ hsurrounds
  | writeBytes address bytes next ih => exact ih _ (change_surrounds hsurrounds address bytes)
  | readCString address next ih => exact ih _ hsurrounds
  | print bytes next ih => exact ih hsurrounds
  | readChar next ih => exact ih _ hsurrounds
  | readNotes next ih => exact ih _ hsurrounds
  | writeNotes bytes next ih => exact ih hsurrounds

/-- A host call changes neither types nor activations. -/
theorem runHost_yields {capacity peak : Nat} {types : List DataType} {frames : List Frame}
    (program : HostProgram) :
    Yields capacity (HasProfile ⟨capacity, types, frames, peak⟩) (runHost program)
      (fun _ => HasProfile ⟨capacity, types, frames, peak⟩) := by
  intro machine hprofile
  obtain ⟨hcapacity, hpacked, hframes, hpeak⟩ := hprofile
  have hsurrounds : Surrounds capacity types ⟨machine.memory, machine.console, machine.notes⟩ :=
    ⟨hcapacity, hpacked⟩
  have hended := run_surrounds program hsurrounds
  cases hresult : program.run ⟨machine.memory, machine.console, machine.notes⟩ with
  | ok result next =>
    rw [hresult] at hended
    simp only [runHost, hresult]
    exact ⟨hended.1, hended.2, hframes, hpeak⟩
  | error message next =>
    rw [hresult] at hended
    simp only [runHost, hresult]
    exact ⟨hended.1, types, hended.2⟩

/-- An operation on memory that keeps the types in the arena changes nothing else. -/
theorem store_yields {capacity peak : Nat} {types : List DataType} {frames : List Frame}
    (address : UInt64) (value : Value) :
    Yields capacity (HasProfile ⟨capacity, types, frames, peak⟩)
      (onMemory (Memory.write address value))
      (fun _ => HasProfile ⟨capacity, types, frames, peak⟩) := by
  intro machine hprofile
  obtain ⟨hcapacity, hpacked, hframes, hpeak⟩ := hprofile
  have hwritten := writeBytes_packed address value.bytes hpacked
  cases hresult : Memory.writeBytes address value.bytes machine.memory with
  | ok result next =>
    rw [hresult] at hwritten
    simp only [onMemory, Memory.write, hresult]
    exact ⟨hwritten.2.trans hcapacity, hwritten.1, hframes, hpeak⟩
  | error fault next =>
    rw [hresult] at hwritten
    simp only [onMemory, Memory.write, hresult]
    exact ⟨hwritten.2.trans hcapacity, types, hwritten.1⟩

/-- Overwriting a live slot changes no type. -/
theorem writeSlot_yields {capacity peak : Nat} {types : List DataType} {frames : List Frame}
    (offset : Nat) (value : Value) :
    Yields capacity (HasProfile ⟨capacity, types, frames, peak⟩) (writeSlot offset value)
      (fun _ => HasProfile ⟨capacity, types, frames, peak⟩) := by
  intro machine hprofile
  obtain ⟨hcapacity, hpacked, hframes, hpeak⟩ := hprofile
  rw [writeSlot, onArena_eq]
  unfold Arena.write
  by_cases hlive : offset + value.size ≤ machine.memory.arena.sp
  · simp only [if_pos hlive]
    rw [← Value.length_bytes] at hlive
    exact ⟨hcapacity, hpacked.overwritten hlive, hframes, hpeak⟩
  · simp only [if_neg hlive]
    exact ⟨hcapacity, types, hpacked⟩

end Machine

end StackCode
