import StackCode.Proofs.Machine.Faults

/-!
# What a step does

Every instruction of every module either stays in the running activation, where it touches
nothing but operands and position, or opens, replaces or closes an activation.  This file
says what the parts of a step do, together with the faults that they can raise: the return
from an activation, and all that stays in one.

Main definitions:

- `Machine.Behaves`: what a computation does, and which faults it raises.
- `Site`: an instruction that is executed in a running activation.
- `Site.Stays`: a computation that stays in the running activation.

Main results:

- Theorems `Machine.leave_closes`, `Machine.leave_behaves`: closing an activation, which never
  lacks room.
- Theorems `Site.pushOperand_stays`, `Site.popOperand_stays`, `Site.typed_stays`,
  `Site.conditional_stays`, `Site.jump_stays`: instructions that stay in the activation.
- Theorem `Site.callExternal_stays`: host functions.
-/

namespace StackCode

namespace Machine

/-! ## Computations with their faults -/

/-- A computation ended with a result and a machine as `after` says, or in an allowed fault
with a sound machine. -/
def Answers {α : Type} (capacity : Nat) (allowed : Fault → Prop) (after : α → Machine → Prop) :
    EStateM.Result Fault Machine α → Prop
  | .ok result machine => after result machine
  | .error fault machine => machine.Sound capacity ∧ allowed fault

/-- From machines as `before` says, a computation ends as `after` says or in an allowed
fault. -/
def Behaves {α : Type} (capacity : Nat) (allowed : Fault → Prop) (before : Machine → Prop)
    (computation : Exec α) (after : α → Machine → Prop) : Prop :=
  ∀ machine, before machine → Answers capacity allowed after (computation machine)

section Behaves

variable {α β : Type} {capacity : Nat} {allowed : Fault → Prop} {before : Machine → Prop}
  {computation : Exec α} {after : α → Machine → Prop}

/-- The effect of a computation and its faults, put together. -/
theorem Behaves.of_yields {known : α → Prop} (hyields : Yields capacity before computation after)
    (hthrows : Throws allowed computation known) :
    Behaves capacity allowed before computation
      (fun result machine => after result machine ∧ known result) := by
  intro machine hbefore
  have hended := hyields machine hbefore
  have hknown := hthrows machine
  cases hresult : computation machine with
  | ok result middle =>
    rw [hresult] at hended hknown
    exact ⟨hended, hknown⟩
  | error fault middle =>
    rw [hresult] at hended hknown
    exact ⟨hended, hknown⟩

theorem Behaves.pure {result : α} (hafter : ∀ machine, before machine → after result machine) :
    Behaves capacity allowed before (pure result : Exec α) after :=
  hafter

theorem Behaves.throw {fault : Fault} (hallowed : allowed fault)
    (hsound : ∀ machine, before machine → machine.Sound capacity) :
    Behaves capacity allowed before (throw fault : Exec α) after :=
  fun machine hbefore => ⟨hsound machine hbefore, hallowed⟩

/-- One computation after another. -/
theorem Behaves.bind {next : α → Exec β} {final : β → Machine → Prop}
    (hfirst : Behaves capacity allowed before computation after)
    (hnext : ∀ result, Behaves capacity allowed (after result) (next result) final) :
    Behaves capacity allowed before (computation >>= next) final := by
  intro machine hbefore
  have hended := hfirst machine hbefore
  change Answers capacity allowed final (EStateM.bind computation next machine)
  unfold EStateM.bind
  cases hresult : computation machine with
  | ok result middle =>
    rw [hresult] at hended
    exact hnext result middle hended
  | error fault middle =>
    rw [hresult] at hended
    exact hended

/-- What holds before may be stronger, what holds after weaker, and more faults may be
allowed. -/
theorem Behaves.weaken {stronger : Machine → Prop} {weaker : α → Machine → Prop}
    {wider : Fault → Prop} (hbehaves : Behaves capacity allowed before computation after)
    (hallowed : ∀ fault, allowed fault → wider fault)
    (hbefore : ∀ machine, stronger machine → before machine)
    (hafter : ∀ result machine, after result machine → weaker result machine) :
    Behaves capacity wider stronger computation weaker := by
  intro machine hstronger
  have hended := hbehaves machine (hbefore machine hstronger)
  cases hresult : computation machine with
  | ok result middle =>
    rw [hresult] at hended
    exact hafter result middle hended
  | error fault middle =>
    rw [hresult] at hended
    exact ⟨hended.1, hallowed fault hended.2⟩

/-- What a computation does when its faults do not matter. -/
theorem Behaves.yields (hbehaves : Behaves capacity allowed before computation after) :
    Yields capacity before computation after := by
  intro machine hbefore
  have hended := hbehaves machine hbefore
  cases hresult : computation machine with
  | ok result middle =>
    rw [hresult] at hended
    exact hended
  | error fault middle =>
    rw [hresult] at hended
    exact hended.1

end Behaves

/-! ## Returns -/

/-- A value for which there is room is pushed without a fault. -/
theorem push_behaves_of_room {capacity peak : Nat} {allowed : Fault → Prop}
    {types : List DataType} {frames : List Frame} {value : Value}
    (hstorable : value.type ≠ .void) (hroom : value.size + totalSize types ≤ capacity) :
    Behaves capacity allowed (HasProfile ⟨capacity, types, frames, peak⟩) (push value)
      (fun _ => HasProfile ⟨capacity, value.type :: types, frames, peak⟩) := by
  intro machine hprofile
  obtain ⟨hcapacity, hpacked, hframes, hpeak⟩ := hprofile
  have hfits : machine.memory.arena.sp + value.size ≤ machine.memory.arena.capacity := by
    rw [hpacked.sp_eq, hcapacity]
    simp only
    omega
  have hpushed : push value machine =
      .ok () (machine.withArena (machine.memory.arena.pushed value)) := by
    change EStateM.bind (onArena (Arena.push value)) _ machine = _
    unfold EStateM.bind
    rw [onArena_eq, Arena.push_eq, if_neg hstorable, if_neg (Nat.not_lt.mpr hfits)]
    rfl
  rw [hpushed]
  exact ⟨hcapacity, hpacked.pushed hstorable hfits, hframes, hpeak⟩

/-- The returned value of an activation is a topmost operand. -/
theorem popResult_throws {allowed : Fault → Prop}
    (hdynamic : ∀ fault : Fault, fault.isDynamic = true → fault ≠ .stackOverflow → allowed fault)
    (type : DataType) : Throws allowed (popResult type) fun _ => True := by
  unfold popResult
  split
  · exact Throws.pure .intro
  · exact Throws.bind (pop_throws hdynamic type) fun _ _ => Throws.pure .intro

/-- A profile is a matter of the arena, the activations and the peak. -/
theorem HasProfile.congr {profile : Profile} {machine other : Machine}
    (hprofile : machine.HasProfile profile) (harena : other.memory.arena = machine.memory.arena)
    (hcalls : other.calls = machine.calls) (hsame : other.peak = machine.peak) :
    other.HasProfile profile := by
  refine ⟨?_, ?_, ?_, ?_⟩
  · rw [harena]
    exact hprofile.capacity_eq
  · rw [harena]
    exact hprofile.packed
  · rw [hcalls]
    exact hprofile.frames_eq
  · rw [hsame]
    exact hprofile.peak_eq

/-- Going on elsewhere in the running routine. -/
theorem jump_yields {limits : Limits} {layer : Layer} {lower : List Layer} {peak : Nat}
    (position : Nat) :
    Yields limits.capacity (Layered limits (layer :: lower) peak)
      (onCalls (CallStack.jump position))
      (fun _ => Layered limits (⟨layer.routine, position, layer.operands⟩ :: lower) peak) := by
  refine onCalls_yields _ ?_
  rintro ⟨frames, depth, hdepth⟩ hframes
  cases hframes
  rfl

/-- Taking a unit of fuel leaves the layers alone. -/
theorem spend_yields (limits : Limits) (layers : List Layer) (peak : Nat) :
    Yields limits.capacity (Layered limits layers peak) spend
      (fun _ => Layered limits layers peak) := by
  rintro ⟨memory, console, notes, calls, fuel, executed, deepest⟩ hlayered
  match fuel with
  | none => exact hlayered.congr rfl rfl rfl
  | some 0 => exact hlayered.sound
  | some (left + 1) => exact hlayered.congr rfl rfl rfl

/-- The layer that is resumed takes the result of the closed activation, which fits on top
of what lies below it. -/
theorem resume_behaves {limits : Limits} {allowed : Fault → Prop} {caller : Layer}
    {lower : List Layer} {peak : Nat} {result : Option Value} {type : DataType} (position : Nat)
    (hresult : result.toList.map Value.type = resultTypes type)
    (hroom : totalSize (resultTypes type) + totalSize (layerTypes (caller :: lower)) ≤
      limits.capacity) :
    Behaves limits.capacity allowed (Layered limits (caller :: lower) peak)
      (do
        onCalls (CallStack.jump position)
        match result with
        | some value => push value
        | none => Pure.pure ()
        return Flow.proceed)
      (fun flow machine => flow = .proceed ∧ machine.Layered limits
        (⟨caller.routine, position, resultTypes type ++ caller.operands⟩ :: lower) peak) := by
  refine Behaves.bind (.of_yields (jump_yields position) (onCalls_throws _)) fun _ => ?_
  unfold Layered
  rw [← hresult] at hroom ⊢
  cases result with
  | none => exact Behaves.pure fun _ h => ⟨rfl, h.1⟩
  | some value =>
    have hstorable : value.type ≠ .void := by
      intro hvoid
      unfold resultTypes at hresult
      split at hresult
      · simp at hresult
      · rename_i hreturns
        simp only [Option.toList_some, List.map_cons, List.map_nil, List.cons.injEq] at hresult
        exact hreturns (hresult.1 ▸ hvoid)
    have hfits : value.size + totalSize (layerTypes (caller :: lower)) ≤ limits.capacity := by
      simpa [Value.size] using hroom
    rintro machine ⟨hjumped, -⟩
    refine Behaves.bind (push_behaves_of_room hstorable hfits) (fun _ => Behaves.pure ?_)
      machine hjumped
    exact fun machine hpushed => ⟨rfl, hpushed⟩

/-- What closing a layer on top of others leads to: the next one goes on somewhere with the
result, or the closed one was the last. -/
def Closes (limits : Limits) (layer : Layer) (lower : List Layer) (peak : Nat) (flow : Flow)
    (machine : Machine) : Prop :=
  match flow with
  | .proceed => ∃ caller rest ip, lower = caller :: rest ∧ machine.Layered limits
      (⟨caller.routine, ip, resultTypes layer.routine.returnType ++ caller.operands⟩ :: rest) peak
  | .finished result => lower = [] ∧ machine.Sound limits.capacity ∧
      result.toList.map Value.type = resultTypes layer.routine.returnType

/-- Closing the running activation resumes the layer below it or ends the run.  The
returned value always fits. -/
theorem leave_closes (limits : Limits) (layer : Layer) {operands : List DataType}
    {lower : List Layer} {peak : Nat} (position : Nat) :
    Behaves limits.capacity
      (fun fault => fault.isDynamic = true ∧ fault ≠ .stackOverflow)
      (Layered limits (⟨layer.routine, position, operands⟩ :: lower) peak) leave
      (Closes limits layer lower peak) := by
  have hdynamic : ∀ fault : Fault, fault.isDynamic = true → fault ≠ .stackOverflow →
      fault.isDynamic = true ∧ fault ≠ .stackOverflow := fun _ hdynamic hroom => ⟨hdynamic, hroom⟩
  have hfloor := floorOf_placed layer.routine position (layerTypes lower) (layerFrames lower)
  refine Behaves.bind (.of_yields frame_yields (frame_throws hdynamic)) ?_
  rintro old found ⟨⟨rfl, hfound⟩, -⟩
  have hfull := hfound.packed.sp_le
  rw [hfound.packed.sp_eq, hfound.capacity_eq] at hfull
  refine Behaves.bind (.of_yields (popResult_yields hfloor _) (popResult_throws hdynamic _)) ?_
    found hfound
  rintro result popped ⟨⟨hresult, rest, hoperands, hpopped⟩, -⟩
  change result.toList.map Value.type = resultTypes layer.routine.returnType at hresult
  change operands = resultTypes layer.routine.returnType ++ rest at hoperands
  refine Behaves.bind (.of_yields (savedRegisters_yields _) (savedRegisters_throws hdynamic _)) ?_
    popped hpopped
  rintro ⟨savedFp, savedIp⟩ restored ⟨hrestored, -⟩
  rw [← List.append_assoc] at hrestored
  have htruncate : Throws (fun fault => fault.isDynamic = true ∧ fault ≠ .stackOverflow)
      (truncate (totalSize (layerTypes lower))) fun _ => True := fun _ => .intro
  refine Behaves.bind (.of_yields truncate_yields htruncate) ?_ restored hrestored
  rintro ⟨⟩ truncated ⟨htruncated, -⟩
  have hpop : ∀ calls : CallStack, calls.frames = .placed layer.routine position
      (totalSize (layerTypes lower)) :: layerFrames lower → calls.pop.frames = layerFrames lower := by
    intro calls hcalls
    change calls.frames.tail = _
    rw [hcalls]
    rfl
  refine Behaves.bind (.of_yields (onCalls_yields _ hpop) (onCalls_throws _)) ?_
    truncated htruncated
  rintro ⟨⟩ closed ⟨hclosed, -⟩
  have hempty : closed.calls.frames.isEmpty = lower.isEmpty := by
    rw [hclosed.frames_eq]
    cases lower <;> rfl
  change Answers _ _ _ ((if closed.calls.frames.isEmpty then _ else _ : Exec Flow) closed)
  rw [hempty]
  cases lower with
  | nil => exact ⟨rfl, hclosed.sound, hresult⟩
  | cons caller lower =>
    have hroom : totalSize (resultTypes layer.routine.returnType) +
        totalSize (layerTypes (caller :: lower)) ≤ limits.capacity := by
      rw [hoperands] at hfull
      simp only [layerTypes, totalSize_append] at hfull ⊢
      omega
    refine (resume_behaves savedIp.toNat hresult hroom).weaken (fun _ h => False.elim h)
      (fun _ h => h) ?_ closed hclosed
    rintro flow machine ⟨rfl, hresumed⟩
    exact ⟨caller, lower, savedIp.toNat, rfl, hresumed⟩

/-- Closing the running activation is a move. -/
theorem leave_behaves (setup : Setup) (layer : Layer) {operands : List DataType}
    {lower : List Layer} {peak : Nat} (position : Nat) (hpeak : lower.length < peak) :
    Behaves setup.limits.capacity
      (fun fault => fault.isDynamic = true ∧ fault ≠ .stackOverflow)
      (Layered setup.limits (⟨layer.routine, position, operands⟩ :: lower) peak) leave
      (Concludes setup (layer :: lower) peak) := by
  refine (leave_closes setup.limits layer position).weaken (fun _ h => h) (fun _ h => h) ?_
  intro flow machine hcloses
  cases flow with
  | proceed =>
    obtain ⟨caller, rest, ip, rfl, hresumed⟩ := hcloses
    refine ⟨⟨caller.routine, ip, _⟩ :: rest, .resumes, ?_⟩
    have hmax : max peak (rest.length + 1) = peak := Nat.max_eq_left (by simpa using hpeak.le)
    rwa [List.length_cons, hmax]
  | finished result =>
    obtain ⟨rfl, hsound, hresult⟩ := hcloses
    exact ⟨hsound, layer, rfl, hresult⟩

end Machine

/-! ## Computations that stay in the running activation -/

/-- An instruction that is executed by an activation of a routine on top of others. -/
structure Site where
  setup : Setup
  running : Routine
  instruction : Instruction
  lower : List Layer
  peak : Nat

namespace Site

open Machine

/-- The machine is in the running activation of the site, at some position and with some
operands. -/
def Holds (site : Site) (machine : Machine) : Prop :=
  ∃ ip operands, machine.Layered site.setup.limits
    (⟨site.running, ip, operands⟩ :: site.lower) site.peak

/-- A computation that stays in the running activation and raises only faults of the
instruction. -/
def Stays {α : Type} (site : Site) (computation : Exec α) (known : α → Prop) : Prop :=
  Behaves site.setup.limits.capacity (Raises site.setup site.running site.instruction)
    site.Holds computation (fun result machine => site.Holds machine ∧ known result)

section Stays

variable {α β : Type} {site : Site} {computation : Exec α} {known : α → Prop}

theorem Holds.sound {machine : Machine} (hholds : site.Holds machine) :
    machine.Sound site.setup.limits.capacity := by
  obtain ⟨ip, operands, hlayered⟩ := hholds
  exact hlayered.sound

/-- An activation that exists has no void slots. -/
theorem Holds.storable {machine : Machine} (hholds : site.Holds machine) :
    .void ∉ site.running.frameTypes := by
  obtain ⟨ip, operands, hlayered⟩ := hholds
  intro hvoid
  apply hlayered.packed.storable
  simp [layerTypes, hvoid]

theorem Stays.pure {result : α} (hknown : known result) :
    site.Stays (Pure.pure result : Exec α) known :=
  Behaves.pure fun _ hholds => ⟨hholds, hknown⟩

theorem Stays.throw {fault : Fault} (hraises : Raises site.setup site.running site.instruction fault) :
    site.Stays (MonadExcept.throw fault : Exec α) known :=
  Behaves.throw hraises fun _ hholds => hholds.sound

theorem Stays.bind {next : α → Exec β} {final : β → Prop} (hfirst : site.Stays computation known)
    (hnext : ∀ result, known result → site.Stays (next result) final) :
    site.Stays (computation >>= next) final :=
  Behaves.bind hfirst fun result machine hended => hnext result hended.2 machine hended.1

/-- A fact about the machine before a computation may be assumed. -/
theorem Stays.assume {fact : Prop} (hfact : ∀ machine, site.Holds machine → fact)
    (hstays : fact → site.Stays computation known) : site.Stays computation known :=
  fun machine hholds => hstays (hfact machine hholds) machine hholds

/-- Less may be known of the result. -/
theorem Stays.weaken {weaker : α → Prop} (hstays : site.Stays computation known)
    (hknown : ∀ result, known result → weaker result) : site.Stays computation weaker :=
  Behaves.weaken hstays (fun _ h => h) (fun _ h => h)
    fun result _ hended => ⟨hended.1, hknown result hended.2⟩

/-- From the effect of a computation on layers and from its faults. -/
theorem Stays.of_yields
    (hyields : ∀ ip operands, Yields site.setup.limits.capacity
      (Layered site.setup.limits (⟨site.running, ip, operands⟩ :: site.lower) site.peak)
      computation (fun _ => site.Holds))
    (hthrows : Throws (Raises site.setup site.running site.instruction) computation known) :
    site.Stays computation known := by
  rintro machine ⟨ip, operands, hlayered⟩
  exact Behaves.of_yields (hyields ip operands) hthrows machine hlayered

/-- A computation that leaves the arena, the activations and the peak alone. -/
theorem Stays.of_congr
    (hcongr : ∀ machine, (match computation machine with
      | .ok _ next | .error _ next => next.memory.arena = machine.memory.arena ∧
          next.calls = machine.calls ∧ next.peak = machine.peak))
    (hthrows : Throws (Raises site.setup site.running site.instruction) computation known) :
    site.Stays computation known := by
  refine Stays.of_yields (fun ip operands machine hlayered => ?_) hthrows
  have hsame := hcongr machine
  cases hresult : computation machine with
  | ok result next =>
    rw [hresult] at hsame
    exact ⟨ip, operands, hlayered.congr hsame.1 hsame.2.1 hsame.2.2⟩
  | error fault next =>
    rw [hresult] at hsame
    exact (hlayered.congr hsame.1 hsame.2.1 hsame.2.2).sound

/-- Looking at the machine. -/
theorem Stays.inspect {view : Machine → Except Fault α}
    (hview : ∀ machine, site.Holds machine →
      Allows (Raises site.setup site.running site.instruction) known (view machine)) :
    site.Stays (Machine.inspect view) known := by
  intro machine hholds
  have hallows := hview machine hholds
  unfold Machine.inspect
  cases hresult : view machine with
  | ok result =>
    rw [hresult] at hallows
    exact ⟨hholds, hallows⟩
  | error fault =>
    rw [hresult] at hallows
    exact ⟨hholds.sound, hallows⟩

theorem lift_stays {result : Except Fault α}
    (hresult : Allows (Raises site.setup site.running site.instruction) known result) :
    site.Stays (lift result) known :=
  Stays.inspect fun _ _ => hresult

/-! ### Operands -/

theorem raises_dynamic (site : Site) (fault : Fault) (hdynamic : fault.isDynamic = true)
    (_ : fault ≠ .stackOverflow) : Raises site.setup site.running site.instruction fault :=
  .dynamic hdynamic

/-- Pushing adds an operand of the running activation. -/
theorem push_stays {value : Value} (hvoid : value.type = .void →
      Raises site.setup site.running site.instruction (.unsupportedType .push .void)) :
    site.Stays (push value) fun _ => True := by
  refine Stays.of_yields (fun ip operands => ?_) (push_throws (.dynamic rfl) hvoid)
  refine (push_yields value).weaken (fun _ h => h) fun _ machine hpushed => ?_
  exact ⟨ip, value.type :: operands, hpushed⟩

/-- Popping removes an operand of the running activation. -/
theorem pop_stays (type : DataType) : site.Stays (pop type) fun value => value.type = type := by
  refine Stays.of_yields (fun ip operands => ?_) (pop_throws site.raises_dynamic type)
  refine (pop_yields (floorOf_placed site.running ip _ _) type).weaken (fun _ h => h) ?_
  rintro value machine ⟨-, rest, -, hpopped⟩
  exact ⟨ip, rest, hpopped⟩

theorem popMany_stays (types : List DataType) :
    site.Stays (popMany types) fun values => values.map Value.type = types := by
  refine Stays.of_yields (fun ip operands => ?_) (popMany_throws site.raises_dynamic types)
  refine (popMany_yields (floorOf_placed site.running ip _ _) types).weaken (fun _ h => h) ?_
  rintro values machine ⟨-, rest, -, hpopped⟩
  exact ⟨ip, rest, hpopped⟩

theorem checkTop_stays (types : List DataType) :
    site.Stays (checkTop types) fun _ => True := by
  refine Stays.of_yields (fun ip operands => ?_) (checkTop_throws site.raises_dynamic types)
  exact (Yields.inspect fun _ h => h.sound).weaken (fun _ h => h)
    fun _ machine hchecked => ⟨ip, operands, hchecked.1⟩

theorem readSlot_stays (offset : Nat) (type : DataType) :
    site.Stays (readSlot offset type) fun value => value.type = type := by
  refine Stays.of_yields (fun ip operands => ?_) (readSlot_throws site.raises_dynamic offset type)
  exact (Yields.inspect fun _ h => h.sound).weaken (fun _ h => h)
    fun _ machine hread => ⟨ip, operands, hread.1⟩

/-- A change of bytes by offset leaves the activations alone. -/
theorem writeSlot_stays (offset : Nat) (value : Value) :
    site.Stays (writeSlot offset value) fun _ => True := by
  refine Stays.of_yields (fun ip operands => ?_) (writeSlot_throws site.raises_dynamic offset value)
  exact (writeSlot_yields offset value).weaken (fun _ h => h)
    fun _ machine hwritten => ⟨ip, operands, hwritten⟩

/-- A store at any address leaves the activations alone. -/
theorem onMemory_write_stays (address : UInt64) (value : Value) :
    site.Stays (onMemory (Memory.write address value)) fun _ => True := by
  refine Stays.of_yields (fun ip operands => ?_) (write_throws site.raises_dynamic address value)
  exact (store_yields address value).weaken (fun _ h => h)
    fun _ machine hwritten => ⟨ip, operands, hwritten⟩

/-- A host function leaves the activations alone. -/
theorem runHost_stays (program : HostProgram) :
    site.Stays (runHost program) fun result =>
      ∃ before after, program.run before = .ok result after := by
  refine Stays.of_yields (fun ip operands => ?_) (runHost_throws site.raises_dynamic program)
  exact (runHost_yields program).weaken (fun _ h => h)
    fun _ machine hran => ⟨ip, operands, hran⟩

/-- Going on elsewhere in the running routine. -/
theorem onCalls_jump_stays (position : Nat) :
    site.Stays (onCalls (CallStack.jump position)) fun _ => True := by
  refine Stays.of_yields (fun ip operands => ?_) (onCalls_throws _)
  exact (jump_yields position).weaken (fun _ h => h)
    fun _ machine hjumped => ⟨position, operands, hjumped⟩

/-- The running activation knows where its arguments and its locals are. -/
theorem frame_stays :
    site.Stays frame fun found => found.arguments.length = site.running.parameters.length ∧
      found.locals.length = site.running.locals.size := by
  refine Stays.inspect fun machine hholds => ?_
  obtain ⟨ip, operands, hlayered⟩ := hholds
  have htop : machine.calls.top? =
      some (.placed site.running ip (totalSize (layerTypes site.lower))) := by
    rw [CallStack.top?, hlayered.frames_eq]
    rfl
  rw [htop]
  simp [Allows, Frame.placed]

/-! ### Console and resources -/

theorem print_stays (bytes : List UInt8) : site.Stays (print bytes) fun _ => True :=
  Stays.of_congr (fun _ => ⟨rfl, rfl, rfl⟩) fun _ => .intro

theorem readChar_stays : site.Stays readChar fun _ => True :=
  Stays.of_congr (fun _ => ⟨rfl, rfl, rfl⟩) fun _ => .intro

/-- Placing a resource leaves the arena alone. -/
theorem placeResource_stays (index : ResourceIndex) (resource : Resource) :
    site.Stays (placeResource index resource) fun _ => True := by
  refine Stays.of_congr (fun machine => ⟨?_, rfl, rfl⟩) fun _ => .intro
  change (machine.memory.placeResource index resource).2.arena = machine.memory.arena
  unfold Memory.placeResource
  split <;> rfl

/-! ### Slots -/

/-- A local that the routine declares has a slot of its type. -/
theorem localSlot_stays {index : LocalIndex}
    (hnamed : site.instruction.operand? = some (.localVar index) ∨
      site.instruction.operand? = some (.localAddress index)) :
    site.Stays (localSlot site.running index) fun slot => slot.2 ∈ site.running.frameTypes := by
  refine Stays.bind frame_stays fun found ⟨_, hlength⟩ => ?_
  by_cases hbound : index.toNat < site.running.locals.size
  · rw [List.getElem?_eq_getElem (by omega), Array.getElem?_eq_getElem hbound]
    refine Stays.pure ?_
    simp [Routine.frameTypes]
  · rw [List.getElem?_eq_none (by omega)]
    exact Stays.throw (.missingLocal hnamed (by omega))

/-- An argument that the routine declares has a slot of its type. -/
theorem argumentSlot_stays {index : ArgumentIndex}
    (hnamed : site.instruction.operand? = some (.argument index) ∨
      site.instruction.operand? = some (.argumentAddress index)) :
    site.Stays (argumentSlot site.running index) fun slot =>
      slot.2 ∈ site.running.frameTypes := by
  refine Stays.bind frame_stays fun found ⟨hlength, _⟩ => ?_
  by_cases hbound : index.toNat < site.running.parameters.length
  · rw [List.getElem?_eq_getElem (by omega), List.getElem?_eq_getElem hbound]
    refine Stays.pure ?_
    simp [Routine.frameTypes]
  · rw [List.getElem?_eq_none (by omega)]
    exact Stays.throw (.missingArgument hnamed (by omega))

/-- The value of an operand is void only if it is a void constant. -/
theorem operandValue_stays {operand : Operand}
    (hnamed : site.instruction.operand? = some operand) :
    site.Stays (operandValue site.setup.module site.running operand) fun value =>
      value.type = .void → operand = .const value := by
  refine Stays.assume (fun _ hholds => hholds.storable) fun hstorable => ?_
  have hslot : ∀ slot : Nat × DataType, slot.2 ∈ site.running.frameTypes →
      site.Stays (readSlot slot.1 slot.2) fun value =>
        value.type = .void → operand = .const value := by
    intro slot hslot
    refine Stays.weaken (readSlot_stays slot.1 slot.2) fun value htype hvoid => ?_
    exact absurd (htype.symm.trans hvoid ▸ hslot) hstorable
  cases operand with
  | const value => exact Stays.pure fun _ => rfl
  | localVar index => exact Stays.bind (localSlot_stays (.inl hnamed)) hslot
  | argument index => exact Stays.bind (argumentSlot_stays (.inl hnamed)) hslot
  | localAddress index =>
    exact Stays.bind (localSlot_stays (.inr hnamed)) fun _ _ => Stays.pure nofun
  | argumentAddress index =>
    exact Stays.bind (argumentSlot_stays (.inr hnamed)) fun _ _ => Stays.pure nofun
  | resource index =>
    simp only [operandValue]
    cases hresource : site.setup.module.resources.get? index with
    | none => exact Stays.throw (.missingResource hnamed hresource)
    | some resource =>
      exact Stays.bind (placeResource_stays index resource) fun _ _ => Stays.pure nofun
  | routine id =>
    simp only [operandValue]
    cases hfound : site.setup.module.find? id with
    | none => exact Stays.throw (.missingFunction hnamed hfound)
    | some definition => exact Stays.pure nofun

theorem pushOperand_stays {operand : Operand} (hstack : site.instruction = .stack .push operand) :
    site.Stays (pushOperand site.setup.module site.running operand) fun _ => True := by
  have hnamed : site.instruction.operand? = some operand := by rw [hstack]; rfl
  refine Stays.bind (operandValue_stays hnamed) fun value hconst => push_stays fun hvoid => ?_
  refine .voidOperand ?_
  rw [hstack, hconst hvoid]
  simp [Instruction.dataTypes, hvoid]

theorem popOperand_stays {operand : Operand} (hstack : site.instruction = .stack .pop operand) :
    site.Stays (popOperand site.running operand) fun _ => True := by
  have hnamed : site.instruction.operand? = some operand := by rw [hstack]; rfl
  -- A pop into an operand that cannot be written is malformed.
  have hformed : operand.kind.isPopTarget = false → site.instruction.isWellFormed = false := by
    intro hkind
    rw [hstack]
    simp [Instruction.isWellFormed, hkind]
  cases operand with
  | const value => exact Stays.bind (pop_stays _) fun _ _ => Stays.pure .intro
  | localVar index =>
    refine Stays.bind (localSlot_stays (.inl hnamed)) fun slot _ => ?_
    exact Stays.bind (pop_stays _) fun value _ => writeSlot_stays _ _
  | argument index =>
    refine Stays.bind (argumentSlot_stays (.inl hnamed)) fun slot _ => ?_
    exact Stays.bind (pop_stays _) fun value _ => writeSlot_stays _ _
  | localAddress index => exact Stays.throw (.malformed (hformed rfl))
  | argumentAddress index => exact Stays.throw (.malformed (hformed rfl))
  | resource index => exact Stays.throw (.malformed (hformed rfl))
  | routine id => exact Stays.throw (.malformed (hformed rfl))

/-! ### Typed instructions -/

theorem load_stays {type : DataType} (hstorable : type ≠ .void) :
    site.Stays (load type) fun _ => True := by
  refine Stays.bind (pop_stays _) fun address _ => ?_
  refine Stays.bind (Stays.inspect fun machine _ => read_throws site.raises_dynamic _ _ type) ?_
  exact fun value htype => push_stays fun hvoid => absurd (htype.symm.trans hvoid) hstorable

theorem store_stays (type : DataType) : site.Stays (store type) fun _ => True := by
  refine Stays.bind (pop_stays _) fun value _ => Stays.bind (pop_stays _) fun address _ => ?_
  exact onMemory_write_stays _ _

/-- What arithmetic gives is pushed. -/
theorem push_computed_stays {opcode : Opcode} {type : DataType} {result : Except Fault Value}
    (hstorable : type ≠ .void) (hresult : Numeric.Computes opcode type result) :
    site.Stays (lift result >>= push) fun _ => True := by
  have hallows : Allows (Raises site.setup site.running site.instruction)
      (fun value => value.type = type) result := by
    cases result with
    | ok value => exact hresult
    | error fault =>
      obtain rfl | ⟨rfl, hbitwise, hfloat⟩ := hresult
      · exact .dynamic rfl
      · exact .floatBits hbitwise hfloat
  refine Stays.bind (lift_stays hallows) fun value htype => push_stays fun hvoid => ?_
  exact absurd (htype.symm.trans hvoid) hstorable

theorem unary_stays {opcode : Opcode} {type : DataType} (hunary : opcode.isUnary = true)
    (hstorable : type ≠ .void) : site.Stays (unary opcode type) fun _ => True :=
  Stays.bind (pop_stays _) fun a _ =>
    push_computed_stays hstorable (Numeric.unary_cases hunary hstorable a)

theorem binary_stays {opcode : Opcode} {type : DataType} (hbinary : opcode.isBinary = true)
    (hstorable : type ≠ .void) : site.Stays (binary opcode type) fun _ => True :=
  Stays.bind (pop_stays _) fun b _ => Stays.bind (pop_stays _) fun a _ =>
    push_computed_stays hstorable (Numeric.binary_cases hbinary hstorable a b)

theorem printValue_stays (type : DataType) : site.Stays (printValue type) fun _ => True :=
  Stays.bind (pop_stays _) fun _ _ => print_stays _

theorem typed_stays {opcode : Opcode} {type : DataType}
    (htyped : site.instruction = .typed opcode type) (hshape : opcode.shape = .typed) :
    site.Stays (typed opcode type) fun _ => True := by
  unfold typed
  by_cases hvoid : type = .void
  · rw [if_pos hvoid]
    refine Stays.throw (.voidOperand ?_)
    rw [htyped]
    simp [Instruction.dataTypes, hvoid]
  · rw [if_neg hvoid]
    cases opcode with
    | load => exact load_stays hvoid
    | store => exact store_stays type
    | negate | increment | decrement | not => exact unary_stays rfl hvoid
    | print => exact printValue_stays type
    | add | subtract | multiply | divide | modulo | and | or | xor | shiftLeft | shiftRight =>
      exact binary_stays rfl hvoid
    | _ => cases hshape

/-! ### Conversions, comparisons and jumps -/

/-- A conversion between types that have storage gives a value of the target type. -/
theorem cast_allows {opcode : Opcode} {source target : DataType} {value : Value}
    (hconvert : site.instruction = .convert opcode source target) (hvalue : value.type = source) :
    Allows (Raises site.setup site.running site.instruction)
      (fun result => result.type = target) (Numeric.cast value target) := by
  have hcast := Numeric.cast_cases value target
  cases hresult : Numeric.cast value target with
  | ok result =>
    rw [hresult] at hcast
    exact hcast
  | error fault =>
    rw [hresult, hvalue] at hcast
    obtain ⟨rfl, hvoid⟩ := hcast
    refine .voidOperand ?_
    rw [hconvert]
    obtain rfl | rfl := hvoid <;> simp [Instruction.dataTypes]

theorem test_stays {opcode : Opcode} {comparison : Comparison} {type : DataType}
    (hconditional : site.instruction = .conditional opcode comparison type) :
    site.Stays (test comparison type) fun _ => True := by
  have hcompare : ∀ a b : Value, site.Stays (lift (Numeric.compare comparison type a b))
      fun _ => True := by
    intro a b
    refine lift_stays ?_
    unfold Numeric.compare
    by_cases hvoid : type = .void
    · rw [if_pos hvoid]
      refine .voidOperand ?_
      rw [hconditional]
      simp [Instruction.dataTypes, hvoid]
    · rw [if_neg hvoid]
      exact .intro
  unfold test
  split
  · exact Stays.bind (pop_stays _) fun b _ => Stays.bind (pop_stays _) fun a _ => hcompare a b
  · rw [pure_bind]
    exact Stays.bind (pop_stays _) fun a _ => hcompare a (.zero type)

theorem conditional_stays {opcode : Opcode} {comparison : Comparison} {type : DataType}
    (hconditional : site.instruction = .conditional opcode comparison type) :
    site.Stays (conditional opcode comparison type) fun _ => True := by
  refine Stays.bind (test_stays hconditional) fun holds _ => ?_
  split
  · split
    · exact Stays.pure .intro
    · exact Stays.bind frame_stays fun _ _ => onCalls_jump_stays _
  · exact push_stays nofun

theorem jump_stays {opcode : Opcode} {label : Label}
    (hbranch : site.instruction = .branch opcode label) :
    site.Stays (jump site.running label) fun _ => True := by
  have hnamed : site.instruction.label? = some label := by rw [hbranch]; rfl
  unfold jump
  cases htarget : site.running.target? label with
  | none => exact Stays.throw (.missingLabel hnamed (by simp [htarget]))
  | some position =>
    simp only
    by_cases hbound : position ≤ site.running.code.size
    · rw [if_pos hbound]
      exact onCalls_jump_stays position
    · rw [if_neg hbound]
      refine Stays.throw (.missingLabel hnamed fun other hother => ?_)
      rw [htarget, Option.some.injEq] at hother
      omega

/-! ### Host calls -/

/-- Calling a host function stays in the running activation. -/
theorem callExternal_stays {mode : CallMode} {target : CallTarget} {function : External}
    (hcall : site.instruction.call? = some (mode, target))
    (hmember : .external function ∈ site.setup.module.definitions)
    (hreaches : target.Reaches site.setup.module (.external function)) :
    site.Stays (callExternal site.setup.host function) fun _ => True := by
  refine Stays.bind (checkTop_stays _) fun _ _ => ?_
  cases hprogram : site.setup.host.find? function.library function.name with
  | none => exact Stays.throw (.missingHost hcall hreaches hprogram)
  | some program =>
    refine Stays.bind (popMany_stays _) fun arguments harguments => ?_
    refine Stays.bind (runHost_stays _) ?_
    rintro result ⟨before, after, hrun⟩
    cases result with
    | some value =>
      simp only
      split
      · exact push_stays fun hvoid => .voidResult hmember hprogram harguments hrun hvoid
      · exact Stays.throw (.dynamic rfl)
    | none =>
      simp only
      split
      · exact Stays.pure .intro
      · exact Stays.throw (.dynamic rfl)

end Stays

end Site

end StackCode
