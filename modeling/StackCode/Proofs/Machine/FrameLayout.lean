import StackCode.Machine.Run
import StackCode.Proofs.Memory.PackedArena

/-!
# The layout of activations

An activation is determined by its routine, its position and the offset at which its
first argument lies.  This file describes a machine by the types of the values in its
arena and the activations that lie on them, and says what the operations on operands
and activations do to that description.

Main definitions:

- `Frame.placed`: the activation of a routine whose arguments start at an offset.
- `Stacked`: activations that lie one above the other on values of given types.
- `Profile`, `Machine.HasProfile`: the types and the activations of a machine.
- `Machine.Yields`: what a computation does when it gives a result; a fault leaves the
  arena packed.

Main results:

- Theorems `Machine.push_yields`, `Machine.pop_yields`, `Machine.popMany_yields`,
  `Machine.layOut_yields`: the operations on operands and activations.
-/

namespace StackCode

/-- Number of bytes of an arena with the given limits, which never reaches the
addresses of resources. -/
def Limits.capacity (limits : Limits) : Nat := min limits.stackSize maxArenaSize

/-- The arena of a machine that has not run has the capacity of its limits. -/
theorem Machine.capacity_new (limits : Limits) (console : Console) :
    (Machine.new limits console).memory.arena.capacity = limits.capacity := by
  change (if limits.stackSize ≤ maxArenaSize then limits.stackSize else maxArenaSize) = _
  rw [Limits.capacity, Nat.min_def]

/-! ## One activation -/

/-- The offsets of values of the given types, the first at `base`. -/
def offsetsFrom (base : Nat) : List DataType → List Nat
  | [] => []
  | type :: rest => base :: offsetsFrom (base + type.size) rest

/-- Offsets of two lists of values that lie one after the other. -/
theorem offsetsFrom_append (base : Nat) (types others : List DataType) :
    offsetsFrom base (types ++ others) =
      offsetsFrom base types ++ offsetsFrom (base + totalSize types) others := by
  induction types generalizing base with
  | nil => simp [offsetsFrom]
  | cons type types ih => simp [offsetsFrom, ih, Nat.add_assoc]

@[simp]
theorem length_offsetsFrom (base : Nat) (types : List DataType) :
    (offsetsFrom base types).length = types.length := by
  induction types generalizing base with
  | nil => rfl
  | cons type types ih => simp [offsetsFrom, ih]

/-- The types of the values that an activation consists of, the lowest first:
arguments, saved frame, saved position and locals. -/
def Routine.frameTypes (routine : Routine) : List DataType :=
  routine.parameters ++ [.pointer, .u32] ++ routine.locals.toList

/-- Number of bytes of an activation without operands. -/
theorem Routine.totalSize_frameTypes (routine : Routine) :
    totalSize routine.frameTypes =
      totalSize routine.parameters + headerSize + totalSize routine.locals.toList := by
  simp only [frameTypes, totalSize_append, totalSize_cons, totalSize_nil, headerSize]
  rfl

/-- The activation of a routine at a position, whose first argument lies at `base`. -/
def Frame.placed (routine : Routine) (ip base : Nat) : Frame where
  routine := routine
  ip := ip
  fp := base + totalSize routine.parameters + headerSize
  floor := base + totalSize routine.parameters + headerSize + totalSize routine.locals.toList
  base := base
  arguments := offsetsFrom base routine.parameters
  locals := offsetsFrom (base + totalSize routine.parameters + headerSize) routine.locals.toList

/-- The operands of an activation start where its locals end. -/
theorem Frame.floor_placed (routine : Routine) (ip : Nat) (below : List DataType) :
    (Frame.placed routine ip (totalSize below)).floor =
      totalSize (routine.frameTypes.reverse ++ below) := by
  simp only [placed, totalSize_append, totalSize_reverse, Routine.totalSize_frameTypes]
  omega

/-- The types of an activation, topmost first, on top of those below it. -/
theorem Routine.reverse_frameTypes_append (routine : Routine) (below : List DataType) :
    routine.frameTypes.reverse ++ below =
      routine.locals.toList.reverse ++
        .u32 :: .pointer :: (routine.parameters.reverse ++ below) := by
  simp [frameTypes]

/-- The offsets that are found while an activation is laid out are those of the
activation placed on what lies below its arguments. -/
theorem Frame.laidOut_eq_placed (routine : Routine) (below : List DataType) :
    (⟨routine, 0, totalSize (.u32 :: .pointer :: (routine.parameters.reverse ++ below)),
      totalSize (routine.frameTypes.reverse ++ below), totalSize below,
      offsetsFrom (totalSize below) routine.parameters,
      offsetsFrom (totalSize (.u32 :: .pointer :: (routine.parameters.reverse ++ below)))
        routine.locals.toList⟩ : Frame) = .placed routine 0 (totalSize below) := by
  have hfp : totalSize (.u32 :: .pointer :: (routine.parameters.reverse ++ below)) =
      totalSize below + totalSize routine.parameters + headerSize := by
    simp only [totalSize_cons, totalSize_append, totalSize_reverse, DataType.size, headerSize]
    omega
  rw [hfp, ← Frame.floor_placed routine 0]
  rfl

/-- Walking down from the end of values finds their offsets. -/
theorem offsetsBelow_eq (types : List DataType) (bottom : Nat) (offsets : List Nat) :
    Machine.offsetsBelow (bottom + totalSize types) offsets types =
      some (offsetsFrom bottom types.reverse ++ offsets, bottom) := by
  induction types generalizing offsets with
  | nil => simp [Machine.offsetsBelow, offsetsFrom]
  | cons type types ih =>
    have hroom : ¬ bottom + totalSize (type :: types) < type.size := by
      simp only [totalSize_cons]
      omega
    have htop : bottom + totalSize (type :: types) - type.size = bottom + totalSize types := by
      simp only [totalSize_cons]
      omega
    rw [Machine.offsetsBelow, if_neg hroom, htop, ih]
    simp [offsetsFrom_append, offsetsFrom]

/-! ## Activations on top of each other -/

/-- Activations, the running one first, that lie one above the other on values of the
given types, the topmost first, each with its operands on top. -/
inductive Stacked : List Frame → List DataType → Prop
  | nil : Stacked [] []
  | cons {frames : List Frame} {below : List DataType} (routine : Routine) (ip : Nat)
      (operands : List DataType) (hbelow : Stacked frames below) :
      Stacked (.placed routine ip (totalSize below) :: frames)
        (operands ++ (routine.frameTypes.reverse ++ below))

/-! ## Profiles of machines -/

/-- The types in the arena, the topmost first, and the activations of a machine. -/
structure Profile where
  capacity : Nat
  types : List DataType
  frames : List Frame
  peak : Nat

namespace Machine

/-- The machine has the types and activations of a profile. -/
structure HasProfile (profile : Profile) (machine : Machine) : Prop where
  capacity_eq : machine.memory.arena.capacity = profile.capacity
  packed : machine.memory.arena.Packed profile.types
  frames_eq : machine.calls.frames = profile.frames
  peak_eq : machine.peak = profile.peak

/-- The arena of the machine is packed and has the given capacity. -/
def Sound (capacity : Nat) (machine : Machine) : Prop :=
  machine.memory.arena.capacity = capacity ∧ ∃ types, machine.memory.arena.Packed types

theorem HasProfile.sound {profile : Profile} {machine : Machine}
    (hprofile : machine.HasProfile profile) : machine.Sound profile.capacity :=
  ⟨hprofile.capacity_eq, profile.types, hprofile.packed⟩

/-- A computation ended with a result and a machine as `after` says, or in a fault with
a sound machine. -/
def Ended {α : Type} (capacity : Nat) (after : α → Machine → Prop) :
    EStateM.Result Fault Machine α → Prop
  | .ok result machine => after result machine
  | .error _ machine => machine.Sound capacity

/-- From machines as `before` says, a computation ends as `after` says. -/
def Yields {α : Type} (capacity : Nat) (before : Machine → Prop) (computation : Exec α)
    (after : α → Machine → Prop) : Prop :=
  ∀ machine, before machine → Ended capacity after (computation machine)

section Yields

variable {α β : Type} {capacity : Nat} {before : Machine → Prop} {computation : Exec α}
  {after : α → Machine → Prop}

/-- A result without a computation. -/
theorem Yields.pure {result : α} (hafter : ∀ machine, before machine → after result machine) :
    Yields capacity before (pure result : Exec α) after :=
  hafter

/-- A fault. -/
theorem Yields.throw {fault : Fault}
    (hsound : ∀ machine, before machine → machine.Sound capacity) :
    Yields capacity before (throw fault : Exec α) after :=
  hsound

/-- One computation after another. -/
theorem Yields.bind {next : α → Exec β} {final : β → Machine → Prop}
    (hfirst : Yields capacity before computation after)
    (hnext : ∀ result, Yields capacity (after result) (next result) final) :
    Yields capacity before (computation >>= next) final := by
  intro machine hbefore
  have hended := hfirst machine hbefore
  change Ended capacity final (EStateM.bind computation next machine)
  unfold EStateM.bind
  cases hresult : computation machine with
  | ok result middle =>
    rw [hresult] at hended
    exact hnext result middle hended
  | error fault middle =>
    rw [hresult] at hended
    exact hended

/-- What holds before may be stronger, and what holds after weaker. -/
theorem Yields.weaken {stronger : Machine → Prop} {weaker : α → Machine → Prop}
    (hyields : Yields capacity before computation after)
    (hbefore : ∀ machine, stronger machine → before machine)
    (hafter : ∀ result machine, after result machine → weaker result machine) :
    Yields capacity stronger computation weaker := by
  intro machine hstronger
  have hended := hyields machine (hbefore machine hstronger)
  cases hresult : computation machine with
  | ok result middle =>
    rw [hresult] at hended
    exact hafter result middle hended
  | error fault middle =>
    rw [hresult] at hended
    exact hended

/-- A fact about the machine before a computation may be assumed. -/
theorem Yields.assume {fact : Prop} (hfact : ∀ machine, before machine → fact)
    (hyields : fact → Yields capacity before computation after) :
    Yields capacity before computation after :=
  fun machine hbefore => hyields (hfact machine hbefore) machine hbefore

/-- Looking at a machine does not change it. -/
theorem Yields.inspect {view : Machine → Except Fault α}
    (hsound : ∀ machine, before machine → machine.Sound capacity) :
    Yields capacity before (inspect view)
      (fun result machine => before machine ∧ view machine = .ok result) := by
  intro machine hbefore
  unfold Machine.inspect
  cases hview : view machine with
  | ok result => exact ⟨hbefore, hview⟩
  | error fault => exact hsound machine hbefore

end Yields

/-! ## Operands -/

/-- The machine with another arena. -/
def withArena (machine : Machine) (arena : Arena) : Machine :=
  { machine with memory := { machine.memory with arena } }

/-- An operation on the arena changes nothing else. -/
theorem onArena_eq {α : Type} (operation : EStateM Fault Arena α) (machine : Machine) :
    onArena operation machine =
      match operation machine.memory.arena with
      | .ok result arena => .ok result (machine.withArena arena)
      | .error fault arena => .error fault (machine.withArena arena) := by
  simp only [onArena, onMemory, Memory.onArena, withArena]
  cases operation machine.memory.arena <;> rfl

section Pushes

variable {capacity peak : Nat} {types : List DataType} {frames : List Frame}

/-- The next free byte is where the values end. -/
theorem sp_yields :
    Yields capacity (HasProfile ⟨capacity, types, frames, peak⟩) sp
      (fun offset machine => offset = totalSize types ∧
        machine.HasProfile ⟨capacity, types, frames, peak⟩) := by
  refine (Yields.inspect fun _ h => h.sound).weaken (fun _ h => h) ?_
  rintro offset machine ⟨hprofile, hview⟩
  exact ⟨(Except.ok.inj hview).symm.trans hprofile.packed.sp_eq, hprofile⟩

/-- Pushing gives the offset of the value and adds its type on top. -/
theorem onArena_push_yields (value : Value) :
    Yields capacity (HasProfile ⟨capacity, types, frames, peak⟩) (onArena (Arena.push value))
      (fun offset machine => offset = totalSize types ∧
        machine.HasProfile ⟨capacity, value.type :: types, frames, peak⟩) := by
  intro machine hprofile
  have hsound : machine.Sound capacity := hprofile.sound
  obtain ⟨hcapacity, hpacked, hframes, hpeak⟩ := hprofile
  rw [onArena_eq, Arena.push_eq]
  by_cases hvoid : value.type = .void
  · rw [if_pos hvoid]
    exact hsound
  · rw [if_neg hvoid]
    by_cases hfull : machine.memory.arena.capacity < machine.memory.arena.sp + value.size
    · rw [if_pos hfull]
      exact hsound
    · rw [if_neg hfull]
      refine ⟨hpacked.sp_eq, ?_⟩
      exact ⟨hcapacity, hpacked.pushed hvoid (Nat.not_lt.mp hfull), hframes, hpeak⟩

/-- Pushing an operand adds its type on top. -/
theorem push_yields (value : Value) :
    Yields capacity (HasProfile ⟨capacity, types, frames, peak⟩) (push value)
      (fun _ => HasProfile ⟨capacity, value.type :: types, frames, peak⟩) := by
  apply Yields.bind (onArena_push_yields value)
  intro offset
  exact Yields.pure fun machine h => h.2

/-- Pushing operands adds their types, the last on top. -/
theorem pushMany_yields (values : List Value) :
    Yields capacity (HasProfile ⟨capacity, types, frames, peak⟩) (pushMany values)
      (fun _ => HasProfile
        ⟨capacity, (values.map Value.type).reverse ++ types, frames, peak⟩) := by
  induction values generalizing types with
  | nil => exact Yields.pure fun machine h => h
  | cons value values ih =>
    apply Yields.bind (push_yields value)
    intro _
    simpa using ih

/-- Changing the activations changes nothing else. -/
theorem onCalls_yields {change : CallStack → CallStack} (changed : List Frame)
    (hchange : ∀ calls : CallStack, calls.frames = frames → (change calls).frames = changed) :
    Yields capacity (HasProfile ⟨capacity, types, frames, peak⟩) (onCalls change)
      (fun _ => HasProfile ⟨capacity, types, changed, peak⟩) :=
  fun machine h => ⟨h.capacity_eq, h.packed, hchange machine.calls h.frames_eq, h.peak_eq⟩

end Pushes

/-- The floor of the running activation. -/
def floorOf : List Frame → Nat
  | [] => 0
  | frame :: _ => frame.floor

theorem floor_eq_floorOf (calls : CallStack) : calls.floor = floorOf calls.frames := by
  unfold CallStack.floor
  cases calls.frames <;> rfl

/-- The operands of the running activation start on top of its locals. -/
theorem floorOf_placed (running : Routine) (ip : Nat) (below : List DataType)
    (frames : List Frame) :
    floorOf (.placed running ip (totalSize below) :: frames) =
      totalSize (running.frameTypes.reverse ++ below) :=
  Frame.floor_placed running ip below

section Operands

variable {capacity peak : Nat} {operands above below : List DataType} {frames : List Frame}

/-- Popping takes the topmost operand, which has the type that is asked for. -/
theorem pop_yields (hfloor : floorOf frames = totalSize below) (type : DataType) :
    Yields capacity (HasProfile ⟨capacity, operands ++ below, frames, peak⟩) (pop type)
      (fun value machine => value.type = type ∧ ∃ rest, operands = type :: rest ∧
        machine.HasProfile ⟨capacity, rest ++ below, frames, peak⟩) := by
  intro machine hprofile
  obtain ⟨hcapacity, hpacked, hframes, hpeak⟩ := hprofile
  have hsound : machine.Sound capacity := ⟨hcapacity, _, hpacked⟩
  have hpop : pop type machine =
      onArena (Arena.pop type (totalSize below)) machine := by
    change onArena (Arena.pop type machine.calls.floor) machine = _
    rw [floor_eq_floorOf, hframes, hfloor]
  rw [hpop, onArena_eq]
  cases operands with
  | nil =>
    cases below with
    | nil =>
      rw [Arena.Packed.pop_nil hpacked]
      exact hsound
    | cons lower below =>
      -- The topmost value lies below the floor.
      have hdeep : totalSize below < totalSize (lower :: below) := by
        have hpos : 0 < lower.size := DataType.size_pos fun hvoid =>
          hpacked.storable (by simp [hvoid])
        simp only [totalSize_cons]
        omega
      rw [List.nil_append] at hpacked
      rw [hpacked.pop_cons, if_pos hdeep]
      exact hsound
  | cons top rest =>
    rw [List.cons_append] at hpacked
    have hhigh : ¬ totalSize (rest ++ below) < totalSize below := by
      simp only [totalSize_append]
      omega
    rw [hpacked.pop_cons, if_neg hhigh]
    by_cases htype : top = type
    · subst htype
      rw [if_neg (by simp)]
      refine ⟨rfl, rest, rfl, hcapacity, ?_, hframes, hpeak⟩
      exact hpacked.restrict [top]
    · rw [if_pos htype]
      exact hsound

/-- Popping operands, whose types are given topmost first, in front of others. -/
theorem popInto_yields (hfloor : floorOf frames = totalSize below) (values : List Value)
    (types : List DataType) :
    Yields capacity (HasProfile ⟨capacity, operands ++ below, frames, peak⟩)
      (popInto values types)
      (fun result machine => result.map Value.type = types.reverse ++ values.map Value.type ∧
        ∃ rest, operands = types ++ rest ∧
          machine.HasProfile ⟨capacity, rest ++ below, frames, peak⟩) := by
  induction types generalizing values operands with
  | nil => exact Yields.pure fun machine h => ⟨rfl, operands, rfl, h⟩
  | cons type types ih =>
    apply Yields.bind (pop_yields hfloor type)
    intro value machine hpopped
    obtain ⟨htype, rest, rfl, hprofile⟩ := hpopped
    refine (ih (value :: values)).weaken (fun _ h => h) ?_ machine hprofile
    rintro result last ⟨hresult, final, rfl, hlast⟩
    exact ⟨by simp [hresult, htype], final, rfl, hlast⟩

/-- Popping operands of given types takes them off the top in one piece. -/
theorem popMany_yields (hfloor : floorOf frames = totalSize below) (types : List DataType) :
    Yields capacity (HasProfile ⟨capacity, operands ++ below, frames, peak⟩) (popMany types)
      (fun result machine => result.map Value.type = types ∧
        ∃ rest, operands = types.reverse ++ rest ∧
          machine.HasProfile ⟨capacity, rest ++ below, frames, peak⟩) :=
  (popInto_yields hfloor [] types.reverse).weaken (fun _ h => h)
    (fun _ _ h => ⟨by simpa using h.1, h.2⟩)

/-- Checking the topmost operands compares their types and changes nothing. -/
theorem checkTop_yields (hfloor : floorOf frames = totalSize below) (types : List DataType) :
    Yields capacity (HasProfile ⟨capacity, operands ++ below, frames, peak⟩) (checkTop types)
      (fun _ machine => machine.HasProfile ⟨capacity, operands ++ below, frames, peak⟩ ∧
        ∃ rest, operands = types.reverse ++ rest) := by
  refine (Yields.inspect fun _ h => h.sound).weaken (fun _ h => h) ?_
  rintro ⟨⟩ machine ⟨hprofile, hview⟩
  refine ⟨hprofile, ?_⟩
  rw [floor_eq_floorOf, hprofile.frames_eq, hfloor, hprofile.packed.checkTop_eq] at hview
  exact (Arena.matchTop_eq_ok_iff operands types).mp hview

/-- Truncation at the end of the lowest values leaves these. -/
theorem truncate_yields :
    Yields capacity (HasProfile ⟨capacity, above ++ below, frames, peak⟩)
      (truncate (totalSize below))
      (fun _ => HasProfile ⟨capacity, below, frames, peak⟩) := by
  intro machine hprofile
  obtain ⟨hcapacity, hpacked, hframes, hpeak⟩ := hprofile
  have htruncate : truncate (totalSize below) machine =
      .ok () (machine.withArena (machine.memory.arena.truncate (totalSize below))) := rfl
  rw [htruncate, hpacked.truncate_eq]
  exact ⟨hcapacity, hpacked.restrict, hframes, hpeak⟩

/-! ## Opening an activation -/

/-- Adding an activation raises the peak to the new depth. -/
theorem pushFrame_yields {types : List DataType} (frame : Frame) :
    Yields capacity (HasProfile ⟨capacity, types, frames, peak⟩) (pushFrame frame)
      (fun _ => HasProfile ⟨capacity, types, frame :: frames, max peak (frames.length + 1)⟩) := by
  intro machine h
  obtain ⟨hcapacity, hpacked, hframes, hpeak⟩ := h
  have hdepth : machine.calls.depth = frames.length := by
    rw [machine.calls.depth_eq, hframes]
  have hmax : machine.peak = peak := hpeak
  refine ⟨hcapacity, hpacked, ?_, ?_⟩
  · change frame :: machine.calls.frames = frame :: frames
    rw [hframes]
  · change (if machine.peak < machine.calls.depth + 1 then machine.calls.depth + 1
      else machine.peak) = max peak (frames.length + 1)
    rw [hdepth, hmax, Nat.max_def]
    split <;> split <;> omega

/-- Locals lie above what was there, in their order. -/
theorem pushLocals_yields (types : List DataType) (reversed : List Nat) (locals : List DataType) :
    Yields capacity (HasProfile ⟨capacity, types, frames, peak⟩) (pushLocals reversed locals)
      (fun offsets machine =>
        offsets = reversed.reverse ++ offsetsFrom (totalSize types) locals ∧
          machine.HasProfile ⟨capacity, locals.reverse ++ types, frames, peak⟩) := by
  induction locals generalizing reversed types with
  | nil => exact Yields.pure fun machine h => ⟨by simp [offsetsFrom], h⟩
  | cons type locals ih =>
    apply Yields.bind (onArena_push_yields (.zero type))
    intro offset
    apply Yields.assume fun _ h => h.1
    intro hoffset
    refine (ih (type :: types) (offset :: reversed)).weaken (fun _ h => h.2) ?_
    rintro offsets machine ⟨rfl, hprofile⟩
    refine ⟨?_, by simpa using hprofile⟩
    simp [offsetsFrom, hoffset, Nat.add_comm]

/-- An activation is laid out around its arguments. -/
theorem layOut_yields (routine : Routine) (savedFp : UInt64) (savedIp : UInt32) :
    Yields capacity
      (HasProfile ⟨capacity, routine.parameters.reverse ++ below, frames, peak⟩)
      (layOut routine savedFp savedIp)
      (fun _ => HasProfile ⟨capacity, routine.frameTypes.reverse ++ below,
        .placed routine 0 (totalSize below) :: frames, max peak (frames.length + 1)⟩) := by
  apply Yields.bind sp_yields
  rintro header machine ⟨hheader, hprofile⟩
  have hwalk : offsetsBelow header [] routine.parameters.reverse =
      some (offsetsFrom (totalSize below) routine.parameters, totalSize below) := by
    rw [hheader, totalSize_append, Nat.add_comm, offsetsBelow_eq]
    simp
  rw [hwalk]
  refine Yields.bind (push_yields _) (fun _ => Yields.bind (push_yields _) fun _ =>
    Yields.bind sp_yields ?_) machine hprofile
  rintro fp machine ⟨rfl, hprofile⟩
  refine Yields.bind (pushLocals_yields _ [] _) ?_ machine hprofile
  rintro locals machine ⟨rfl, hprofile⟩
  refine Yields.bind sp_yields ?_ machine hprofile
  rintro floor machine ⟨rfl, hprofile⟩
  rw [← Frame.laidOut_eq_placed, Routine.reverse_frameTypes_append]
  exact pushFrame_yields _ machine hprofile

end Operands

end Machine

end StackCode
