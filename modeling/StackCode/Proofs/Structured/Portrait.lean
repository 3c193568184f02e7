import StackCode.Proofs.Machine.CallLayout
import StackCode.Proofs.Structured.Machine

/-!
# Machines as lists of values

A machine whose arena is packed is described by the values in it, its activations and its
surface.  This file says exactly what the operations of the machine do to that
description, faults included.

Main definitions:

- `Machine.surface`: what a machine shows besides its activations.
- `Portrait`, `Machine.Depicts`: the values, activations and surface of a machine.
- `Machine.Gives`: the exact result of a computation on machines with a given portrait.

Main results:

- Theorems `Machine.push_gives`, `Machine.pop_gives`: operands.
- Theorems `Machine.layOut_gives`, `Machine.layOut_gives_overflow`: new activations.
-/

namespace StackCode

open Structured (Surface packedSize)

/-- The values in the arena of a machine, the topmost first, its activations and its
surface. -/
structure Portrait where
  values : List Value
  frames : List Frame
  surface : Surface

/-- A result or fault that leaves the portrait as it is. -/
def Portrait.tells {α : Type} (portrait : Portrait) :
    Except Fault α → EStateM.Result Fault Portrait α
  | .ok result => .ok result portrait
  | .error fault => .error fault portrait

@[simp]
theorem packedSize_nil : packedSize [] = 0 :=
  rfl

@[simp]
theorem packedSize_cons (value : Value) (values : List Value) :
    packedSize (value :: values) = value.size + packedSize values := by
  simp [packedSize, Value.size]

@[simp]
theorem packedSize_append (values others : List Value) :
    packedSize (values ++ others) = packedSize values + packedSize others := by
  simp [packedSize]

@[simp]
theorem packedSize_reverse (values : List Value) :
    packedSize values.reverse = packedSize values := by
  simp [packedSize, List.map_reverse]

/-- Values take the bytes of their types. -/
theorem packedSize_eq_totalSize {values : List Value} {types : List DataType}
    (htypes : values.map Value.type = types) : packedSize values = totalSize types := by
  rw [packedSize, htypes]

/-- Values that were stored are read back as they are. -/
theorem Arena.Holds.stored_eq {arena : Arena} {values : List Value} (hholds : arena.Holds values)
    {value : Value} (hvalue : value ∈ values) : value.stored = value := by
  obtain ⟨above, below, rfl⟩ := List.append_of_mem hvalue
  rw [← hholds.valueAt_eq]
  exact Value.stored_ofBytes _ _

/-- Every value in an arena can be stored. -/
theorem Arena.Holds.type_ne_void {arena : Arena} {values : List Value}
    (hholds : arena.Holds values) {value : Value} (hvalue : value ∈ values) :
    value.type ≠ .void := by
  intro hvoid
  apply hholds.packed.storable
  rw [← hvoid]
  exact List.mem_map_of_mem hvalue

namespace Machine

/-- What a machine shows besides its activations. -/
def surface (machine : Machine) : Surface :=
  ⟨machine.console, ⟨machine.memory.resources.size, machine.memory.placed⟩, machine.fuel,
    machine.executed, machine.peak⟩

/-- The machine has the values, activations and surface of a portrait. -/
structure Depicts (capacity : Nat) (portrait : Portrait) (machine : Machine) : Prop where
  capacity_eq : machine.memory.arena.capacity = capacity
  holds : machine.memory.arena.Holds portrait.values
  frames_eq : machine.calls.frames = portrait.frames
  surface_eq : machine.surface = portrait.surface

/-- The result of a computation on machines is the given one on portraits; of a fault only
the surface counts. -/
inductive Matches {α : Type} (capacity : Nat) :
    EStateM.Result Fault Machine α → EStateM.Result Fault Portrait α → Prop
  | ok {result : α} {machine : Machine} {portrait : Portrait}
      (hdepicts : machine.Depicts capacity portrait) :
      Matches capacity (.ok result machine) (.ok result portrait)
  | error {fault : Fault} {machine : Machine} {portrait : Portrait}
      (hsurface : machine.surface = portrait.surface) :
      Matches capacity (.error fault machine) (.error fault portrait)

/-- On machines with a portrait a computation has exactly the given result. -/
def Gives {α : Type} (capacity : Nat) (portrait : Portrait) (computation : Exec α)
    (result : EStateM.Result Fault Portrait α) : Prop :=
  ∀ machine : Machine, machine.Depicts capacity portrait →
    Matches capacity (computation machine) result

section Gives

variable {α β : Type} {capacity : Nat} {portrait middle : Portrait} {computation : Exec α}

theorem Gives.pure (result : α) :
    Gives capacity portrait (pure result : Exec α) (.ok result portrait) :=
  fun _ hdepicts => .ok hdepicts

theorem Gives.throw (fault : Fault) :
    Gives capacity portrait (throw fault : Exec α) (.error fault portrait) :=
  fun _ hdepicts => .error hdepicts.surface_eq

/-- One computation after another that had a result. -/
theorem Gives.bind {next : α → Exec β} {result : α}
    {final : EStateM.Result Fault Portrait β}
    (hfirst : Gives capacity portrait computation (.ok result middle))
    (hnext : Gives capacity middle (next result) final) :
    Gives capacity portrait (computation >>= next) final := by
  intro machine hdepicts
  have hmatches := hfirst machine hdepicts
  change Matches capacity (EStateM.bind computation next machine) final
  unfold EStateM.bind
  generalize computation machine = found at hmatches
  cases hmatches with
  | ok hafter => exact hnext _ hafter

/-- A fault ends a computation. -/
theorem Gives.bind_error {next : α → Exec β} {fault : Fault}
    (hfirst : Gives capacity portrait computation (.error fault middle)) :
    Gives capacity portrait (computation >>= next) (.error fault middle) := by
  intro machine hdepicts
  have hmatches := hfirst machine hdepicts
  change Matches capacity (EStateM.bind computation next machine) _
  unfold EStateM.bind
  generalize computation machine = found at hmatches
  cases hmatches with
  | error hsurface => exact .error hsurface

/-- A view of the machine that its portrait determines. -/
theorem Gives.inspect {view : Machine → Except Fault α} (result : Except Fault α)
    (hview : ∀ machine : Machine, machine.Depicts capacity portrait → view machine = result) :
    Gives capacity portrait (inspect view) (portrait.tells result) := by
  intro machine hdepicts
  unfold Machine.inspect
  rw [hview machine hdepicts]
  cases result with
  | ok result => exact .ok hdepicts
  | error fault => exact .error hdepicts.surface_eq

end Gives

/-! ## Operands -/

section Operands

variable {capacity : Nat} {values above operands below : List Value} {frames : List Frame}
  {surface : Surface}

theorem Depicts.sp_eq {portrait : Portrait} {machine : Machine}
    (hdepicts : machine.Depicts capacity portrait) :
    machine.memory.arena.sp = packedSize portrait.values :=
  hdepicts.holds.packed.sp_eq

theorem Depicts.packedSize_le {portrait : Portrait} {machine : Machine}
    (hdepicts : machine.Depicts capacity portrait) : packedSize portrait.values ≤ capacity := by
  have hfits := hdepicts.holds.packed.sp_le
  rw [hdepicts.sp_eq, hdepicts.capacity_eq] at hfits
  exact hfits

/-- Pushing a value for which there is room. -/
theorem onArena_push_gives (frames : List Frame) (surface : Surface) {value : Value}
    (hstorable : value.type ≠ .void) (hroom : packedSize values + value.size ≤ capacity) :
    Gives capacity ⟨values, frames, surface⟩ (onArena (Arena.push value))
      (.ok (packedSize values) ⟨value.stored :: values, frames, surface⟩) := by
  intro machine hdepicts
  obtain ⟨hcapacity, hholds, hframes, hsurface⟩ := hdepicts
  have hsp : machine.memory.arena.sp = packedSize values := hholds.packed.sp_eq
  have hfits : machine.memory.arena.sp + value.size ≤ machine.memory.arena.capacity := by
    rw [hsp, hcapacity]
    exact hroom
  rw [onArena_eq, Arena.push_eq, if_neg hstorable, if_neg (Nat.not_lt.mpr hfits)]
  rw [← hsp]
  exact .ok ⟨hcapacity, hholds.pushed hstorable hfits, hframes, hsurface⟩

/-- Pushing a value for which there is no room. -/
theorem onArena_push_gives_overflow {value : Value} (hstorable : value.type ≠ .void)
    (hfull : capacity < packedSize values + value.size) :
    Gives capacity ⟨values, frames, surface⟩ (onArena (Arena.push value))
      (.error .stackOverflow ⟨values, frames, surface⟩) := by
  intro machine hdepicts
  obtain ⟨hcapacity, hholds, hframes, hsurface⟩ := hdepicts
  have hsp : machine.memory.arena.sp = packedSize values := hholds.packed.sp_eq
  have hover : machine.memory.arena.capacity < machine.memory.arena.sp + value.size := by
    rw [hsp, hcapacity]
    exact hfull
  rw [onArena_eq, Arena.push_eq, if_neg hstorable, if_pos hover]
  exact .error hsurface

/-- The three outcomes of pushing an operand. -/
theorem push_gives (capacity : Nat) (values : List Value) (frames : List Frame)
    (surface : Surface) (value : Value) :
    Gives capacity ⟨values, frames, surface⟩ (push value)
      (if value.type = .void then
        .error (.unsupportedType .push .void) ⟨values, frames, surface⟩
      else if capacity < packedSize values + value.size then
        .error .stackOverflow ⟨values, frames, surface⟩
      else .ok () ⟨value.stored :: values, frames, surface⟩) := by
  by_cases hvoid : value.type = .void
  · rw [if_pos hvoid]
    refine Gives.bind_error fun machine hdepicts => ?_
    rw [onArena_eq, Arena.push_eq, if_pos hvoid]
    exact .error hdepicts.surface_eq
  · rw [if_neg hvoid]
    by_cases hfull : capacity < packedSize values + value.size
    · rw [if_pos hfull]
      exact Gives.bind_error (onArena_push_gives_overflow hvoid hfull)
    · rw [if_neg hfull]
      exact Gives.bind (onArena_push_gives _ _ hvoid (Nat.not_lt.mp hfull)) (Gives.pure ())

/-- Popping takes the topmost operand when it has the type that is asked for. -/
theorem pop_gives (capacity : Nat) (operands : List Value) (surface : Surface)
    (hfloor : floorOf frames = packedSize below) (type : DataType) :
    Gives capacity ⟨operands ++ below, frames, surface⟩ (pop type)
      (match operands with
        | [] => .error .stackUnderflow ⟨below, frames, surface⟩
        | value :: rest =>
          if value.type ≠ type then
            .error (.typeMismatch type value.type) ⟨value :: (rest ++ below), frames, surface⟩
          else .ok value ⟨rest ++ below, frames, surface⟩) := by
  intro machine hdepicts
  obtain ⟨hcapacity, hholds, hframes, hsurface⟩ := hdepicts
  have hpop : pop type machine = onArena (Arena.pop type (packedSize below)) machine := by
    change onArena (Arena.pop type machine.calls.floor) machine = _
    rw [floor_eq_floorOf, hframes, hfloor]
  have hpacked := hholds.packed
  rw [hpop, onArena_eq]
  cases operands with
  | nil =>
    cases below with
    | nil =>
      rw [Arena.Packed.pop_nil hpacked]
      exact .error hsurface
    | cons lower below =>
      rw [List.nil_append, List.map_cons] at hpacked
      -- The topmost value lies below the floor.
      have hdeep : totalSize (below.map Value.type) < packedSize (lower :: below) := by
        have hpos : 0 < lower.type.size := DataType.size_pos fun hvoid =>
          hpacked.storable (by simp [hvoid])
        rw [packedSize_cons]
        simp only [Value.size, packedSize]
        omega
      rw [hpacked.pop_cons, if_pos hdeep]
      exact .error hsurface
  | cons value rest =>
    rw [List.cons_append, List.map_cons] at hpacked
    have hhigh : ¬ totalSize ((rest ++ below).map Value.type) < packedSize below := by
      simp only [packedSize, List.map_append, totalSize_append]
      omega
    rw [hpacked.pop_cons, if_neg hhigh]
    by_cases htype : value.type ≠ type
    · simp only [if_pos htype]
      exact .error hsurface
    · simp only [if_neg htype]
      have hvalue : machine.memory.arena.valueAt value.type
          (totalSize ((rest ++ below).map Value.type)) = value :=
        hholds.valueAt_eq []
      rw [hvalue]
      refine .ok ⟨hcapacity, ?_, hframes, hsurface⟩
      exact hholds.restrict [value]

/-- Popping operands that have the types that are asked for, in front of others. -/
theorem popInto_gives (capacity : Nat) (operands : List Value) (surface : Surface)
    (hfloor : floorOf frames = packedSize below) (popped found : List Value) :
    Gives capacity ⟨popped ++ (operands ++ below), frames, surface⟩
      (popInto found (popped.map Value.type))
      (.ok (popped.reverse ++ found) ⟨operands ++ below, frames, surface⟩) := by
  induction popped generalizing found with
  | nil => exact Gives.pure found
  | cons value popped ih =>
    have hpop := pop_gives capacity (value :: (popped ++ operands)) surface hfloor value.type
    simp only [ne_eq, not_true_eq_false, if_false, List.append_assoc, List.cons_append] at hpop
    refine Gives.bind hpop ?_
    simpa using ih (value :: found)

/-- Popping operands of the types of the topmost ones takes these. -/
theorem popMany_gives (capacity : Nat) (operands : List Value) (surface : Surface)
    (hfloor : floorOf frames = packedSize below) {types : List DataType} {popped : List Value}
    (htypes : popped.map Value.type = types) :
    Gives capacity ⟨popped.reverse ++ (operands ++ below), frames, surface⟩ (popMany types)
      (.ok popped ⟨operands ++ below, frames, surface⟩) := by
  have hpop := popInto_gives capacity operands surface hfloor popped.reverse []
  rw [List.map_reverse, htypes, List.reverse_reverse, List.append_nil] at hpop
  exact hpop

/-- The check of topmost operands compares their types. -/
theorem checkTop_gives (capacity : Nat) (operands : List Value) (surface : Surface)
    (hfloor : floorOf frames = packedSize below) (types : List DataType) :
    Gives capacity ⟨operands ++ below, frames, surface⟩ (checkTop types)
      (Portrait.tells ⟨operands ++ below, frames, surface⟩
        (Arena.matchTop (operands.map Value.type) types)) := by
  refine Gives.inspect _ fun machine hdepicts => ?_
  have hpacked := hdepicts.holds.packed
  rw [List.map_append] at hpacked
  rw [floor_eq_floorOf, hdepicts.frames_eq, hfloor]
  exact hpacked.checkTop_eq types

/-- Reading at the offset of a value gives it. -/
theorem readSlot_gives {portrait : Portrait} {value : Value} {type : DataType}
    (hvalues : portrait.values = above ++ value :: below) (htype : value.type = type) :
    Gives capacity portrait (readSlot (packedSize below) type) (.ok value portrait) := by
  subst htype
  refine Gives.inspect (.ok value) fun machine hdepicts => ?_
  have hholds := hdepicts.holds
  rw [hvalues] at hholds
  exact hholds.read_eq

/-- Overwriting at the offset of a value replaces it. -/
theorem writeSlot_gives {value fresh : Value} (htype : fresh.type = value.type)
    (hstored : fresh.stored = fresh) :
    Gives capacity ⟨above ++ value :: below, frames, surface⟩
      (writeSlot (packedSize below) fresh)
      (.ok () ⟨above ++ fresh :: below, frames, surface⟩) := by
  intro machine hdepicts
  obtain ⟨hcapacity, hholds, hframes, hsurface⟩ := hdepicts
  have hlive : packedSize below + fresh.size ≤ machine.memory.arena.sp := by
    rw [hholds.packed.sp_eq, Value.size, htype]
    simp only [packedSize, List.map_append, List.map_cons, totalSize_append, totalSize_cons]
    omega
  have hwritten := hholds.overwritten htype
  rw [hstored] at hwritten
  rw [writeSlot, onArena_eq]
  unfold Arena.write
  simp only [if_pos hlive]
  exact .ok ⟨hcapacity, hwritten, hframes, hsurface⟩

/-- The next free byte is where the values end. -/
theorem sp_gives :
    Gives capacity ⟨values, frames, surface⟩ sp
      (.ok (packedSize values) ⟨values, frames, surface⟩) :=
  Gives.inspect (.ok _) fun machine hdepicts => by rw [hdepicts.sp_eq]

/-- Truncation at the end of the lowest values leaves these. -/
theorem truncate_gives (capacity : Nat) (above below : List Value) (frames : List Frame)
    (surface : Surface) :
    Gives capacity ⟨above ++ below, frames, surface⟩ (truncate (packedSize below))
      (.ok () ⟨below, frames, surface⟩) := by
  intro machine hdepicts
  obtain ⟨hcapacity, hholds, hframes, hsurface⟩ := hdepicts
  have hpacked := hholds.packed
  rw [List.map_append] at hpacked
  have htruncate : truncate (packedSize below) machine =
      .ok () (machine.withArena (machine.memory.arena.truncate (packedSize below))) := rfl
  rw [htruncate, packedSize, hpacked.truncate_eq]
  exact .ok ⟨hcapacity, hholds.restrict, hframes, hsurface⟩

/-- The running activation is the first one. -/
theorem frame_gives {top : Frame} :
    Gives capacity ⟨values, top :: frames, surface⟩ frame
      (.ok top ⟨values, top :: frames, surface⟩) := by
  refine Gives.inspect (.ok top) fun machine hdepicts => ?_
  rw [CallStack.top?, hdepicts.frames_eq]
  rfl

/-- Changing the activations changes nothing else. -/
theorem onCalls_gives {change : CallStack → CallStack} {changed : List Frame}
    (hchange : ∀ calls : CallStack, calls.frames = frames → (change calls).frames = changed) :
    Gives capacity ⟨values, frames, surface⟩ (onCalls change)
      (.ok () ⟨values, changed, surface⟩) := by
  intro machine hdepicts
  obtain ⟨hcapacity, hholds, hframes, hsurface⟩ := hdepicts
  exact .ok ⟨hcapacity, hholds, hchange machine.calls hframes, hsurface⟩

/-- Going on elsewhere in the running routine. -/
theorem onCalls_jump_gives (routine : Routine) (ip base position : Nat) :
    Gives capacity ⟨values, .placed routine ip base :: frames, surface⟩
      (onCalls (CallStack.jump position))
      (.ok () ⟨values, .placed routine position base :: frames, surface⟩) := by
  apply onCalls_gives
  rintro ⟨callers, depth, hdepth⟩ hcalls
  cases hcalls
  rfl

/-- Removing the running activation. -/
theorem onCalls_pop_gives {top : Frame} :
    Gives capacity ⟨values, top :: frames, surface⟩ (onCalls CallStack.pop)
      (.ok () ⟨values, frames, surface⟩) := by
  apply onCalls_gives
  intro calls hcalls
  change calls.frames.tail = frames
  rw [hcalls]
  rfl

/-- Pushing operands that were popped before, the last on top. -/
theorem pushMany_gives (capacity : Nat) (values : List Value) (frames : List Frame)
    (surface : Surface) (pushed : List Value)
    (hpushed : ∀ value ∈ pushed, value.type ≠ .void ∧ value.stored = value)
    (hroom : packedSize values + packedSize pushed ≤ capacity) :
    Gives capacity ⟨values, frames, surface⟩ (pushMany pushed)
      (.ok () ⟨pushed.reverse ++ values, frames, surface⟩) := by
  induction pushed generalizing values with
  | nil => exact Gives.pure ()
  | cons value pushed ih =>
    obtain ⟨hvoid, hstored⟩ := hpushed value List.mem_cons_self
    rw [packedSize_cons] at hroom
    have hpush := push_gives capacity values frames surface value
    rw [if_neg hvoid, if_neg (by omega), hstored] at hpush
    have hrest := ih (value :: values)
      (fun other hother => hpushed other (List.mem_cons_of_mem _ hother))
      (by rw [packedSize_cons]; omega)
    refine Gives.bind hpush ?_
    simpa using hrest

/-! ## Console, resources and fuel -/

/-- Changing the surface of a machine leaves its values and activations alone. -/
theorem Depicts.surface_changed {machine other : Machine} {changed : Surface}
    (hdepicts : machine.Depicts capacity ⟨values, frames, surface⟩)
    (harena : other.memory.arena = machine.memory.arena)
    (hcalls : other.calls = machine.calls) (hsurface : other.surface = changed) :
    other.Depicts capacity ⟨values, frames, changed⟩ := by
  refine ⟨?_, ?_, ?_, hsurface⟩
  · rw [harena]
    exact hdepicts.capacity_eq
  · rw [harena]
    exact hdepicts.holds
  · rw [hcalls]
    exact hdepicts.frames_eq

/-- Printing adds to the output. -/
theorem print_gives (bytes : List UInt8) :
    Gives capacity ⟨values, frames, surface⟩ (print bytes)
      (.ok () ⟨values, frames, { surface with console := surface.console.write bytes }⟩) := by
  intro machine hdepicts
  have hsurface : machine.surface = surface := hdepicts.surface_eq
  subst hsurface
  refine .ok (hdepicts.surface_changed ?_ ?_ ?_) <;> rfl

/-- Reading takes a byte of the input. -/
theorem readChar_gives :
    Gives capacity ⟨values, frames, surface⟩ readChar
      (.ok surface.console.readByte.1
        ⟨values, frames, { surface with console := surface.console.readByte.2 }⟩) := by
  intro machine hdepicts
  have hsurface : machine.surface = surface := hdepicts.surface_eq
  subst hsurface
  refine .ok (hdepicts.surface_changed ?_ ?_ ?_) <;> rfl

/-- Placing a resource gives the address that the placement says. -/
theorem placeResource_gives (index : ResourceIndex) (resource : Resource) :
    Gives capacity ⟨values, frames, surface⟩ (placeResource index resource)
      (.ok (surface.placement.place index resource).1
        ⟨values, frames,
          { surface with placement := (surface.placement.place index resource).2 }⟩) := by
  rintro ⟨⟨arena, resources, placed⟩, console, notes, calls, fuel, executed, peak⟩ hdepicts
  have hsurface : surface = ⟨console, ⟨resources.size, placed⟩, fuel, executed, peak⟩ :=
    hdepicts.surface_eq.symm
  subst hsurface
  simp only [placeResource, Memory.placeResource, Structured.Placement.place]
  cases placed.lookup index with
  | some offset => exact .ok hdepicts
  | none =>
    refine .ok (hdepicts.surface_changed rfl rfl ?_)
    simp [Machine.surface]

/-- An instruction is counted, and takes fuel if that is limited. -/
theorem spend_gives (capacity : Nat) (values : List Value) (frames : List Frame)
    (surface : Surface) :
    Gives capacity ⟨values, frames, surface⟩ spend
      (match surface.spend with
        | .ok spent => .ok () ⟨values, frames, spent⟩
        | .error spent => .error .outOfFuel ⟨values, frames, spent⟩) := by
  rintro ⟨memory, console, notes, calls, fuel, executed, peak⟩ hdepicts
  have hsurface : surface =
      ⟨console, ⟨memory.resources.size, memory.placed⟩, fuel, executed, peak⟩ :=
    hdepicts.surface_eq.symm
  subst hsurface
  match fuel with
  | none => refine .ok (hdepicts.surface_changed ?_ ?_ ?_) <;> rfl
  | some 0 => exact .error rfl
  | some (left + 1) => refine .ok (hdepicts.surface_changed ?_ ?_ ?_) <;> rfl

end Operands

/-! ## Activations -/

section Activations

variable {capacity : Nat} {values below : List Value} {frames : List Frame} {surface : Surface}

/-- Locals for which there is room lie above what was there. -/
theorem pushLocals_gives (capacity : Nat) (values : List Value) (frames : List Frame)
    (surface : Surface) (reversed : List Nat) (locals : List DataType)
    (hstorable : .void ∉ locals) (hroom : packedSize values + totalSize locals ≤ capacity) :
    Gives capacity ⟨values, frames, surface⟩ (pushLocals reversed locals)
      (.ok (reversed.reverse ++ offsetsFrom (packedSize values) locals)
        ⟨(locals.map Value.zero).reverse ++ values, frames, surface⟩) := by
  induction locals generalizing reversed values with
  | nil =>
    rw [offsetsFrom, List.append_nil]
    exact Gives.pure _
  | cons type locals ih =>
    rw [List.mem_cons, not_or] at hstorable
    rw [totalSize_cons] at hroom
    have hsize : (Value.zero type).size = type.size := rfl
    have hvoid : (Value.zero type).type ≠ .void := fun hvoid => hstorable.1 hvoid.symm
    have hfits : packedSize values + (Value.zero type).size ≤ capacity := by
      rw [hsize]
      omega
    have hpush := onArena_push_gives frames surface hvoid hfits
    rw [Value.stored_zero] at hpush
    have hrest := ih (.zero type :: values) (packedSize values :: reversed) hstorable.2
      (by rw [packedSize_cons, hsize]; omega)
    rw [packedSize_cons, hsize, Nat.add_comm type.size] at hrest
    refine Gives.bind hpush ?_
    simpa [offsetsFrom] using hrest

/-- Locals for which there is no room. -/
theorem pushLocals_gives_overflow (capacity : Nat) (values : List Value)
    (frames : List Frame) (surface : Surface) (reversed : List Nat) (locals : List DataType)
    (hstorable : .void ∉ locals) (hfits : packedSize values ≤ capacity)
    (hfull : capacity < packedSize values + totalSize locals) :
    ∃ last, Gives capacity ⟨values, frames, surface⟩ (pushLocals reversed locals)
      (.error .stackOverflow ⟨last, frames, surface⟩) := by
  induction locals generalizing reversed values with
  | nil =>
    rw [totalSize_nil] at hfull
    omega
  | cons type locals ih =>
    rw [List.mem_cons, not_or] at hstorable
    rw [totalSize_cons] at hfull
    have hsize : (Value.zero type).size = type.size := rfl
    have hvoid : (Value.zero type).type ≠ .void := fun hvoid => hstorable.1 hvoid.symm
    by_cases hover : capacity < packedSize values + (Value.zero type).size
    · exact ⟨values, Gives.bind_error (onArena_push_gives_overflow hvoid hover)⟩
    · have hpush := onArena_push_gives frames surface hvoid (Nat.not_lt.mp hover)
      rw [Value.stored_zero] at hpush
      obtain ⟨last, hrest⟩ := ih (.zero type :: values) (packedSize values :: reversed)
        hstorable.2 (by rw [packedSize_cons]; omega) (by rw [packedSize_cons, hsize]; omega)
      exact ⟨last, Gives.bind hpush hrest⟩

/-- Adding an activation raises the peak to the new depth. -/
theorem pushFrame_gives (capacity : Nat) (values : List Value) (frames : List Frame)
    (surface : Surface) (frame : Frame) :
    Gives capacity ⟨values, frames, surface⟩ (pushFrame frame)
      (.ok () ⟨values, frame :: frames,
        { surface with peak := max surface.peak (frames.length + 1) }⟩) := by
  intro machine hdepicts
  obtain ⟨hcapacity, hholds, hframes, hsurface⟩ := hdepicts
  simp only at hframes hsurface
  subst hframes
  subst hsurface
  have hpeak : (if machine.peak < machine.calls.depth + 1 then machine.calls.depth + 1
      else machine.peak) = max machine.peak (machine.calls.frames.length + 1) := by
    rw [machine.calls.depth_eq, Nat.max_def]
    split <;> split <;> omega
  refine .ok ⟨hcapacity, hholds, rfl, ?_⟩
  change Surface.mk _ _ _ _ (if machine.peak < machine.calls.depth + 1 then
    machine.calls.depth + 1 else machine.peak) = _
  rw [hpeak]
  rfl

/-- The walk down from the top finds the arguments. -/
theorem offsetsBelow_packedSize {types : List DataType} {arguments : List Value}
    (htypes : arguments.map Value.type = types) (below : List Value) :
    offsetsBelow (packedSize (arguments.reverse ++ below)) [] types.reverse =
      some (offsetsFrom (packedSize below) types, packedSize below) := by
  have hsize : packedSize (arguments.reverse ++ below) =
      packedSize below + totalSize types.reverse := by
    rw [packedSize_append, packedSize_reverse, totalSize_reverse, ← htypes, Nat.add_comm]
    rfl
  rw [hsize, offsetsBelow_eq, List.reverse_reverse, List.append_nil]

/-- The values of an activation without operands, the topmost first. -/
def frameValues (arguments locals : List Value) (savedFp : UInt64) (savedIp : UInt32) :
    List Value :=
  locals.reverse ++ ⟨.u32, savedIp.toUInt64⟩ :: .pointer savedFp :: arguments.reverse

/-- Number of bytes of an activation without operands. -/
theorem packedSize_frameValues (arguments locals : List Value) (savedFp : UInt64)
    (savedIp : UInt32) :
    packedSize (frameValues arguments locals savedFp savedIp) =
      packedSize arguments + headerSize + packedSize locals := by
  simp only [frameValues, packedSize_append, packedSize_reverse, packedSize_cons,
    Value.size_pointer, Value.size_word, headerSize]
  omega

/-- The types of an activation without operands are those of its routine. -/
theorem map_type_frameValues {routine : Routine} {arguments locals : List Value}
    (harguments : arguments.map Value.type = routine.parameters)
    (hlocals : locals.map Value.type = routine.locals.toList) (savedFp : UInt64)
    (savedIp : UInt32) :
    (frameValues arguments locals savedFp savedIp).map Value.type =
      routine.frameTypes.reverse := by
  simp [frameValues, Routine.frameTypes, harguments, hlocals, List.map_reverse, Value.pointer]

theorem packedSize_map_zero (types : List DataType) :
    packedSize (types.map Value.zero) = totalSize types := by
  apply packedSize_eq_totalSize
  simp [Function.comp_def, Value.zero]

/-- The offsets that are found while an activation is laid out on values are those of the
activation placed on what lies below its arguments. -/
theorem laidOut_eq_placed_values {routine : Routine} {arguments : List Value}
    (htypes : arguments.map Value.type = routine.parameters) (savedFp : UInt64)
    (savedIp : UInt32) (below : List Value) :
    (⟨routine, 0,
      packedSize (⟨.u32, savedIp.toUInt64⟩ :: .pointer savedFp :: (arguments.reverse ++ below)),
      packedSize ((routine.locals.toList.map Value.zero).reverse ++
        ⟨.u32, savedIp.toUInt64⟩ :: .pointer savedFp :: (arguments.reverse ++ below)),
      packedSize below, offsetsFrom (packedSize below) routine.parameters,
      offsetsFrom (packedSize
        (⟨.u32, savedIp.toUInt64⟩ :: .pointer savedFp :: (arguments.reverse ++ below)))
          routine.locals.toList⟩ : Frame) = .placed routine 0 (packedSize below) := by
  have hlaidOut := Frame.laidOut_eq_placed routine (below.map Value.type)
  rw [Routine.reverse_frameTypes_append] at hlaidOut
  simpa [packedSize, htypes, List.map_reverse, Value.pointer, Value.zero, Function.comp_def]
    using hlaidOut

/-- An activation for which there is room is laid out around its arguments. -/
theorem layOut_gives (frames : List Frame) (surface : Surface) {routine : Routine}
    {arguments : List Value} (savedFp : UInt64) (savedIp : UInt32)
    (htypes : arguments.map Value.type = routine.parameters)
    (hstorable : .void ∉ routine.locals.toList)
    (hroom : packedSize below + totalSize routine.frameTypes ≤ capacity) :
    Gives capacity ⟨arguments.reverse ++ below, frames, surface⟩
      (layOut routine savedFp savedIp)
      (.ok () ⟨frameValues arguments (routine.locals.toList.map Value.zero) savedFp savedIp ++
          below, .placed routine 0 (packedSize below) :: frames,
        { surface with peak := max surface.peak (frames.length + 1) }⟩) := by
  have harguments := packedSize_eq_totalSize htypes
  rw [Routine.totalSize_frameTypes, headerSize] at hroom
  have hsavedFp := push_gives capacity (arguments.reverse ++ below) frames surface
    (.pointer savedFp)
  rw [if_neg (by simp [Value.pointer]), if_neg (by simp [harguments]; omega),
    Value.stored_pointer] at hsavedFp
  have hsavedIp := push_gives capacity (.pointer savedFp :: (arguments.reverse ++ below)) frames
    surface ⟨.u32, savedIp.toUInt64⟩
  rw [if_neg (by simp), if_neg (by simp [harguments]; omega),
    Value.stored_word] at hsavedIp
  have hlocals := pushLocals_gives capacity
    (⟨.u32, savedIp.toUInt64⟩ :: .pointer savedFp :: (arguments.reverse ++ below)) frames surface
    [] routine.locals.toList hstorable
    (by simp [harguments]; omega)
  refine Gives.bind sp_gives ?_
  rw [offsetsBelow_packedSize htypes below]
  refine Gives.bind hsavedFp (Gives.bind hsavedIp (Gives.bind sp_gives (Gives.bind hlocals
    (Gives.bind sp_gives ?_))))
  rw [List.reverse_nil, List.nil_append, laidOut_eq_placed_values htypes]
  have hpushed := pushFrame_gives capacity ((routine.locals.toList.map Value.zero).reverse ++
    ⟨.u32, savedIp.toUInt64⟩ :: .pointer savedFp :: (arguments.reverse ++ below)) frames surface
    (.placed routine 0 (packedSize below))
  simpa [frameValues] using hpushed

/-- An activation for which there is no room. -/
theorem layOut_gives_overflow (frames : List Frame) (surface : Surface) {routine : Routine}
    {arguments : List Value} (savedFp : UInt64) (savedIp : UInt32)
    (htypes : arguments.map Value.type = routine.parameters)
    (hstorable : .void ∉ routine.locals.toList)
    (hfull : capacity < packedSize below + totalSize routine.frameTypes) :
    ∃ last, Gives capacity ⟨arguments.reverse ++ below, frames, surface⟩
      (layOut routine savedFp savedIp) (.error .stackOverflow ⟨last, frames, surface⟩) := by
  have harguments := packedSize_eq_totalSize htypes
  rw [Routine.totalSize_frameTypes, headerSize] at hfull
  have hsavedFp := push_gives capacity (arguments.reverse ++ below) frames surface
    (.pointer savedFp)
  rw [if_neg (by simp [Value.pointer]), Value.stored_pointer] at hsavedFp
  have hsavedIp := push_gives capacity (.pointer savedFp :: (arguments.reverse ++ below)) frames
    surface ⟨.u32, savedIp.toUInt64⟩
  rw [if_neg (by simp), Value.stored_word] at hsavedIp
  have hwalk := offsetsBelow_packedSize htypes below
  -- The two saved registers are pushed one by one, then the locals: one of these fails.
  by_cases hfirst : capacity < packedSize (arguments.reverse ++ below) +
      (Value.pointer savedFp).size
  · rw [if_pos hfirst] at hsavedFp
    refine ⟨arguments.reverse ++ below, Gives.bind sp_gives ?_⟩
    rw [hwalk]
    exact Gives.bind_error hsavedFp
  · rw [if_neg hfirst] at hsavedFp
    by_cases hsecond : capacity < packedSize (.pointer savedFp :: (arguments.reverse ++ below)) +
        (⟨.u32, savedIp.toUInt64⟩ : Value).size
    · rw [if_pos hsecond] at hsavedIp
      refine ⟨.pointer savedFp :: (arguments.reverse ++ below), Gives.bind sp_gives ?_⟩
      rw [hwalk]
      exact Gives.bind hsavedFp (Gives.bind_error hsavedIp)
    · rw [if_neg hsecond] at hsavedIp
      obtain ⟨last, hlocals⟩ := pushLocals_gives_overflow capacity
        (⟨.u32, savedIp.toUInt64⟩ :: .pointer savedFp :: (arguments.reverse ++ below)) frames
        surface [] routine.locals.toList hstorable
        (by simp only [packedSize_cons] at hsecond ⊢; omega)
        (by simp [harguments]; omega)
      refine ⟨last, Gives.bind sp_gives ?_⟩
      rw [hwalk]
      exact Gives.bind hsavedFp (Gives.bind hsavedIp (Gives.bind sp_gives
        (Gives.bind_error hlocals)))

/-- The saved registers of an activation are those that were laid out. -/
theorem savedRegisters_gives (capacity : Nat) (operands locals below : List Value)
    (frames : List Frame) (surface : Surface) (savedFp : UInt64) (savedIp : UInt32)
    {routine : Routine} {arguments : List Value}
    (htypes : arguments.map Value.type = routine.parameters) (ip : Nat) :
    Gives capacity
      ⟨operands ++ (frameValues arguments locals savedFp savedIp ++ below), frames, surface⟩
      (savedRegisters (Frame.placed routine ip (packedSize below)).fp)
      (.ok (savedFp, savedIp)
        ⟨operands ++ (frameValues arguments locals savedFp savedIp ++ below), frames,
          surface⟩) := by
  have hfp : (Frame.placed routine ip (packedSize below)).fp =
      packedSize (arguments.reverse ++ below) + headerSize := by
    rw [packedSize_append, packedSize_reverse, Nat.add_comm (packedSize arguments)]
    simp only [Frame.placed, packedSize, htypes]
  have hdeep : ¬ packedSize (arguments.reverse ++ below) + headerSize < headerSize := by omega
  have hoffset : packedSize (arguments.reverse ++ below) + headerSize - headerSize =
      packedSize (arguments.reverse ++ below) := by omega
  have hnext : packedSize (arguments.reverse ++ below) + 8 =
      packedSize (.pointer savedFp :: (arguments.reverse ++ below)) := by
    rw [packedSize_cons, Nat.add_comm]
    rfl
  have hsavedFp : operands ++ (frameValues arguments locals savedFp savedIp ++ below) =
      (operands ++ (locals.reverse ++ [⟨.u32, savedIp.toUInt64⟩])) ++
        .pointer savedFp :: (arguments.reverse ++ below) := by
    simp [frameValues]
  have hsavedIp : operands ++ (frameValues arguments locals savedFp savedIp ++ below) =
      (operands ++ locals.reverse) ++
        ⟨.u32, savedIp.toUInt64⟩ :: .pointer savedFp :: (arguments.reverse ++ below) := by
    simp [frameValues]
  rw [hfp]
  unfold savedRegisters
  rw [if_neg hdeep, hoffset, hnext]
  refine Gives.bind (readSlot_gives hsavedFp rfl) (Gives.bind (readSlot_gives hsavedIp rfl) ?_)
  have hword : savedIp.toUInt64.toUInt32 = savedIp := by simp
  simp only [Value.pointer, hword]
  exact Gives.pure (savedFp, savedIp)

end Activations

end Machine

end StackCode
