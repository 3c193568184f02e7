import StackCode.Proofs.Machine.CallSpan
import StackCode.Proofs.Memory.ValueList
import StackCode.Proofs.Structured.Portrait

/-!
# Replacing the running activation

A tail call writes the arguments of a routine over the arguments, the header and the locals
of the running activation, whose sizes may all be different.  It has taken the arguments and
the saved registers before, so the new activation starts where the old one did, with the same
header in another place, and nothing below it changes.

Main definitions:

- `Frame.header`, `savedIn`: the bytes of the saved registers and what they stand for.
- `Arena.Reads`: the values at given offsets.
- `Machine.ReturnsTo`: where an activation returns to, as long as its header is left alone.
- `Machine.Replaces`: an activation in the place of another one.

Main results:

- Theorem `Machine.calls_of_leave`: every return leads to the position in the header.
- Theorem `Machine.tailEnter_gives`: the values and activations after a tail call.
- Theorem `Machine.Layered.replaces`: a tail call that gives a result replaces the running
  activation.
-/

namespace StackCode

open Structured (Surface packedSize)

/-! ## Headers -/

/-- The bytes in which an activation keeps its saved frame and position. -/
def Frame.header (frame : Frame) (arena : Arena) : List UInt8 :=
  arena.slice (frame.fp - headerSize) headerSize

/-- The frame and the position that the bytes of a header stand for. -/
def savedIn (header : List UInt8) : UInt64 × UInt32 :=
  ((Value.ofBytes .pointer header).raw, (Value.ofBytes .u32 (header.drop 8)).raw.toUInt32)

/-- A slice is one slice after another. -/
theorem Arena.slice_add (arena : Arena) (offset first second : Nat) :
    arena.slice offset (first + second) =
      arena.slice offset first ++ arena.slice (offset + first) second := by
  simp [slice, List.range_add, Nat.add_assoc, Function.comp_def]

/-- The registers are read from the bytes of a header. -/
theorem savedIn_slice (arena : Arena) (offset : Nat) :
    savedIn (arena.slice offset headerSize) =
      ((arena.valueAt .pointer offset).raw,
        (arena.valueAt .u32 (offset + 8)).raw.toUInt32) := by
  have hsplit : arena.slice offset headerSize =
      arena.slice offset 8 ++ arena.slice (offset + 8) 4 := arena.slice_add offset 8 4
  have hpointer : Value.ofBytes .pointer (arena.slice offset 8 ++ arena.slice (offset + 8) 4) =
      arena.valueAt .pointer offset := by
    rw [Arena.valueAt, Value.ofBytes, Value.ofBytes, List.take_left' (by simp [DataType.size]),
      List.take_of_length_le (by simp [DataType.size])]
    rfl
  rw [hsplit, savedIn, hpointer, List.drop_left' (by simp)]
  rfl

/-- The activations determine a call stack. -/
theorem CallStack.eq_of_frames {calls others : CallStack} (hframes : calls.frames = others.frames) :
    calls = others := by
  obtain ⟨frames, depth, rfl⟩ := calls
  obtain ⟨otherFrames, otherDepth, rfl⟩ := others
  cases hframes
  rfl

/-- The activations after a return: the caller goes on at the position that a header
holds. -/
def CallStack.resumed (calls : CallStack) (header : List UInt8) : CallStack :=
  calls.pop.jump (savedIn header).2.toNat

/-! ## Returns -/

/-- A pop changes no bytes. -/
theorem Arena.bytes_of_pop {type : DataType} {floor : Nat} {value : Value} {arena last : Arena}
    (hpop : pop type floor arena = .ok value last) : last.bytes = arena.bytes := by
  unfold pop at hpop
  split at hpop
  · cases hpop
  · split at hpop
    · cases hpop
    · split at hpop
      · cases hpop
      · cases hpop
        rfl

namespace Machine

/-- The parts of a computation that gave a result. -/
theorem exists_of_bind_eq {α β : Type} {computation : Exec α} {next : α → Exec β}
    {machine last : Machine} {result : β} (hok : (computation >>= next) machine = .ok result last) :
    ∃ found middle, computation machine = .ok found middle ∧
      next found middle = .ok result last := by
  change EStateM.bind computation next machine = _ at hok
  unfold EStateM.bind at hok
  cases hfirst : computation machine with
  | ok found middle => exact ⟨found, middle, rfl, by simpa [hfirst] using hok⟩
  | error fault middle => simp [hfirst] at hok

/-- A view leaves the machine as it is. -/
theorem inspect_eq_ok {α : Type} {view : Machine → Except Fault α} {machine last : Machine}
    {result : α} (hok : inspect view machine = .ok result last) :
    view machine = .ok result ∧ last = machine := by
  unfold inspect at hok
  split at hok
  · rename_i found hview
    cases hok
    exact ⟨hview, rfl⟩
  · cases hok

/-- An operation on the arena leaves the activations alone. -/
theorem calls_of_onArena {α : Type} {operation : EStateM Fault Arena α} {machine last : Machine}
    {result : α} (hok : onArena operation machine = .ok result last) :
    last.calls = machine.calls := by
  rw [onArena_eq] at hok
  split at hok
  · cases hok
    rfl
  · cases hok

theorem calls_of_push {value : Value} {machine last : Machine}
    (hok : push value machine = .ok () last) : last.calls = machine.calls := by
  obtain ⟨offset, pushed, hpush, hdone⟩ := exists_of_bind_eq hok
  cases hdone
  exact calls_of_onArena hpush

/-- Taking the result of an activation changes no bytes. -/
theorem bytes_of_popResult {type : DataType} {machine last : Machine} {result : Option Value}
    (hok : popResult type machine = .ok result last) :
    last.calls = machine.calls ∧ last.memory.arena.bytes = machine.memory.arena.bytes := by
  unfold popResult at hok
  split at hok
  · cases hok
    exact ⟨rfl, rfl⟩
  · obtain ⟨value, popped, hpop, hdone⟩ := exists_of_bind_eq hok
    cases hdone
    change onArena (Arena.pop type machine.calls.floor) machine = _ at hpop
    refine ⟨calls_of_onArena hpop, ?_⟩
    rw [onArena_eq] at hpop
    split at hpop
    · rename_i found arena harena
      cases hpop
      exact Arena.bytes_of_pop harena
    · cases hpop

/-- Reading a slot gives the value at its offset. -/
theorem readSlot_eq_ok {offset : Nat} {type : DataType} {value : Value} {machine last : Machine}
    (hok : readSlot offset type machine = .ok value last) :
    value = machine.memory.arena.valueAt type offset ∧ last = machine := by
  obtain ⟨hview, rfl⟩ := inspect_eq_ok hok
  unfold Arena.read at hview
  split at hview
  · cases hview
    exact ⟨rfl, rfl⟩
  · cases hview

/-- The saved registers are those of the header. -/
theorem savedRegisters_eq_ok {fp : Nat} {machine last : Machine} {registers : UInt64 × UInt32}
    (hok : savedRegisters fp machine = .ok registers last) :
    registers = savedIn (machine.memory.arena.slice (fp - headerSize) headerSize) ∧
      last = machine := by
  unfold savedRegisters at hok
  split at hok
  · cases hok
  · obtain ⟨savedFp, middle, hsavedFp, hok⟩ := exists_of_bind_eq hok
    obtain ⟨savedIp, final, hsavedIp, hdone⟩ := exists_of_bind_eq hok
    cases hdone
    obtain ⟨rfl, rfl⟩ := readSlot_eq_ok hsavedFp
    obtain ⟨rfl, rfl⟩ := readSlot_eq_ok hsavedIp
    exact ⟨(savedIn_slice _ _).symm, rfl⟩

/-- A return leads to the position that the header of the closed activation holds. -/
theorem calls_of_leave {machine last : Machine} {frame : Frame}
    (htop : machine.calls.top? = some frame) (hleave : leave machine = .ok .proceed last) :
    last.calls = machine.calls.resumed (frame.header machine.memory.arena) := by
  unfold leave at hleave
  obtain ⟨old, found, hframe, hafter⟩ := exists_of_bind_eq hleave
  obtain ⟨hview, rfl⟩ := inspect_eq_ok hframe
  rw [htop] at hview
  cases hview
  obtain ⟨result, popped, hpop, hpopped⟩ := exists_of_bind_eq hafter
  obtain ⟨hcalls, hbytes⟩ := bytes_of_popResult hpop
  obtain ⟨⟨savedFp, savedIp⟩, restored, hsaved, hrestored⟩ := exists_of_bind_eq hpopped
  obtain ⟨hregisters, rfl⟩ := savedRegisters_eq_ok hsaved
  have hheader : savedIn (frame.header found.memory.arena) = (savedFp, savedIp) := by
    rw [hregisters]
    simp only [Frame.header, Arena.slice, Arena.byteAt, hbytes]
  obtain ⟨_, truncated, htruncate, hunwound⟩ := exists_of_bind_eq hrestored
  have htruncated := calls_of_onArena htruncate
  obtain ⟨_, closed, hclose, hclosed⟩ := exists_of_bind_eq hunwound
  have hpopped : closed.calls = found.calls.pop := by
    cases hclose
    change truncated.calls.pop = _
    rw [htruncated, hcalls]
  obtain ⟨isLast, inspected, hinspect, hresume⟩ := exists_of_bind_eq hclosed
  obtain ⟨-, rfl⟩ := inspect_eq_ok hinspect
  cases isLast with
  | true => cases hresume
  | false =>
    obtain ⟨_, jumped, hjump, hresult⟩ := exists_of_bind_eq hresume
    have hjumped : jumped.calls = found.calls.resumed (frame.header found.memory.arena) := by
      cases hjump
      change inspected.calls.jump savedIp.toNat = _
      rw [hpopped, CallStack.resumed, hheader]
    rw [← hjumped]
    cases result with
    | none =>
      cases hresult
      rfl
    | some value =>
      obtain ⟨_, pushed, hpush, hdone⟩ := exists_of_bind_eq hresult
      cases hdone
      exact calls_of_push hpush

end Machine

/-! ## The values of an activation -/

/-- A stored value of the type of a register is a register. -/
theorem Value.exists_word {value : Value} (htype : value.type = .u32)
    (hstored : value.stored = value) : ∃ word : UInt32, value = ⟨.u32, word.toUInt64⟩ := by
  obtain ⟨type, raw⟩ := value
  cases htype
  refine ⟨raw.toUInt32, congrArg (Value.mk .u32) (UInt64.toNat_inj.mp ?_)⟩
  have hraw : raw &&& DataType.u32.mask = raw := congrArg Value.raw hstored
  have hmod := toNat_and_mask .u32 raw
  rw [hraw] at hmod
  rw [hmod]
  simp [DataType.size]

open Machine (frameValues)

/-- The header of an activation consists of the registers that were laid out. -/
theorem Arena.Holds.header_eq {arena : Arena} {arguments locals below : List Value}
    {savedFp : UInt64} {savedIp : UInt32} {routine : Routine} (operands : List Value)
    (hholds : arena.Holds (operands ++ (frameValues arguments locals savedFp savedIp ++ below)))
    (harguments : arguments.map Value.type = routine.parameters) (ip : Nat) :
    (Frame.placed routine ip (packedSize below)).header arena =
      (Value.pointer savedFp).bytes ++ (⟨.u32, savedIp.toUInt64⟩ : Value).bytes := by
  have hstart : (Frame.placed routine ip (packedSize below)).fp - headerSize =
      packedSize (arguments.reverse ++ below) := by
    rw [packedSize_append, packedSize_reverse, packedSize_eq_totalSize harguments]
    simp only [Frame.placed]
    omega
  have hpointer : arena.Holds ((operands ++ (locals.reverse ++ [⟨.u32, savedIp.toUInt64⟩])) ++
      .pointer savedFp :: (arguments.reverse ++ below)) := by
    simpa [frameValues] using hholds
  have hword : arena.Holds ((operands ++ locals.reverse) ++
      ⟨.u32, savedIp.toUInt64⟩ :: .pointer savedFp :: (arguments.reverse ++ below)) := by
    simpa [frameValues] using hholds
  have hpointerBytes : arena.slice (packedSize (arguments.reverse ++ below)) 8 =
      (Value.pointer savedFp).bytes := hpointer.slice_eq _
  have hwordBytes : arena.slice (packedSize (.pointer savedFp :: (arguments.reverse ++ below))) 4 =
      (⟨.u32, savedIp.toUInt64⟩ : Value).bytes := hword.slice_eq _
  have hsplit := arena.slice_add (packedSize (arguments.reverse ++ below)) 8 4
  rw [packedSize_cons, Value.size_pointer, Nat.add_comm 8] at hwordBytes
  rw [Frame.header, hstart, ← hpointerBytes, ← hwordBytes]
  exact hsplit

/-- The operands of an activation start where its values end. -/
theorem Frame.floor_placed_values {running : Routine} {arguments locals : List Value}
    (harguments : arguments.map Value.type = running.parameters)
    (hlocals : locals.map Value.type = running.locals.toList) (savedFp : UInt64)
    (savedIp : UInt32) (ip : Nat) (below : List Value) :
    (Frame.placed running ip (packedSize below)).floor =
      packedSize (frameValues arguments locals savedFp savedIp ++ below) := by
  have hplaced := Frame.floor_placed running ip (below.map Value.type)
  rw [← Machine.map_type_frameValues harguments hlocals savedFp savedIp, ← List.map_append]
    at hplaced
  exact hplaced

namespace Machine

/-- The values of a machine with a running activation: operands on top of arguments, two
registers and locals. -/
theorem Layered.exists_depicts {limits : Limits} {layer : Layer} {lower : List Layer} {peak : Nat}
    {machine : Machine} (hlayered : machine.Layered limits (layer :: lower) peak) :
    ∃ operands arguments locals savedFp savedIp below,
      machine.Depicts limits.capacity
        ⟨operands ++ (frameValues arguments locals savedFp savedIp ++ below),
          .placed layer.routine layer.ip (packedSize below) :: layerFrames lower,
          machine.surface⟩ ∧
      operands.map Value.type = layer.operands ∧
      arguments.map Value.type = layer.routine.parameters ∧
      locals.map Value.type = layer.routine.locals.toList ∧
      below.map Value.type = layerTypes lower := by
  obtain ⟨hcapacity, hpacked, hframes, -⟩ := hlayered
  have hholds := hpacked.holds
  have htypes := machine.memory.arena.map_type_contents (layerTypes (layer :: lower))
  generalize machine.memory.arena.contents (layerTypes (layer :: lower)) = values at hholds htypes
  obtain ⟨operands, rest, rfl, hoperands, hrest⟩ := List.map_eq_append_iff.mp htypes
  rw [Routine.reverse_frameTypes_append] at hrest
  obtain ⟨locals, saved, rfl, hlocals, hsaved⟩ := List.map_eq_append_iff.mp hrest
  obtain ⟨word, pointed, rfl, hword, hpointed⟩ := List.map_eq_cons_iff.mp hsaved
  obtain ⟨pointer, above, rfl, hpointer, habove⟩ := List.map_eq_cons_iff.mp hpointed
  obtain ⟨arguments, below, rfl, harguments, hbelow⟩ := List.map_eq_append_iff.mp habove
  obtain ⟨savedIp, rfl⟩ := Value.exists_word hword (hholds.stored_eq (by simp))
  obtain ⟨savedFp, rfl⟩ : ∃ savedFp, pointer = .pointer savedFp := by
    obtain ⟨type, raw⟩ := pointer
    cases hpointer
    exact ⟨raw, rfl⟩
  refine ⟨operands, arguments.reverse, locals.reverse, savedFp, savedIp, below,
    ⟨hcapacity, ?_, ?_, rfl⟩, hoperands, ?_, ?_, hbelow⟩
  · simpa [frameValues] using hholds
  · rw [hframes]
    simp [layerFrames, packedSize, hbelow]
  · rw [List.map_reverse, harguments, List.reverse_reverse]
  · rw [List.map_reverse, hlocals, List.reverse_reverse]

/-- Replacing an activation whose topmost operands are the arguments of a routine for which
there is room. -/
theorem tailEnter_gives {capacity : Nat} {running routine : Routine}
    {arguments rest oldArguments oldLocals below : List Value} (savedFp : UInt64)
    (savedIp : UInt32) (ip : Nat) (frames : List Frame) (surface : Surface)
    (holdArguments : oldArguments.map Value.type = running.parameters)
    (holdLocals : oldLocals.map Value.type = running.locals.toList)
    (harguments : arguments.map Value.type = routine.parameters)
    (hstored : ∀ value ∈ arguments, value.type ≠ .void ∧ value.stored = value)
    (hstorable : .void ∉ routine.locals.toList)
    (hroom : packedSize below + totalSize routine.frameTypes ≤ capacity) :
    Gives capacity
      ⟨arguments.reverse ++ (rest ++ (frameValues oldArguments oldLocals savedFp savedIp ++ below)),
        .placed running ip (packedSize below) :: frames, surface⟩
      (tailEnter routine)
      (.ok () ⟨frameValues arguments (routine.locals.toList.map Value.zero) savedFp savedIp ++
          below, .placed routine 0 (packedSize below) :: frames,
        { surface with peak := max surface.peak (frames.length + 1) }⟩) := by
  have hfloor : floorOf (.placed running ip (packedSize below) :: frames) =
      packedSize (frameValues oldArguments oldLocals savedFp savedIp ++ below) :=
    Frame.floor_placed_values holdArguments holdLocals savedFp savedIp ip below
  have hcheck := checkTop_gives capacity (arguments.reverse ++ rest) surface hfloor
    routine.parameters
  have hmatches : Arena.matchTop ((arguments.reverse ++ rest).map Value.type) routine.parameters =
      .ok () := by
    rw [Arena.matchTop_eq_ok_iff]
    exact ⟨rest.map Value.type, by rw [List.map_append, List.map_reverse, harguments]⟩
  rw [hmatches, List.append_assoc] at hcheck
  have hpop := popMany_gives capacity rest surface hfloor harguments
  have hsaved := savedRegisters_gives capacity rest oldLocals below frames surface savedFp savedIp
    holdArguments ip
  have htruncate := truncate_gives capacity
    (rest ++ frameValues oldArguments oldLocals savedFp savedIp) below frames surface
  rw [List.append_assoc] at htruncate
  have hfits : packedSize below + packedSize arguments ≤ capacity := by
    rw [Routine.totalSize_frameTypes] at hroom
    rw [packedSize_eq_totalSize harguments]
    omega
  have hpush := pushMany_gives capacity below frames surface arguments hstored hfits
  have hlayOut := layOut_gives frames surface savedFp savedIp harguments hstorable hroom
  exact Gives.bind hcheck (Gives.bind hpop (Gives.bind frame_gives (Gives.bind onCalls_pop_gives
    (Gives.bind hsaved (Gives.bind htruncate (Gives.bind hpush hlayOut))))))

end Machine

/-! ## Replacement -/

/-- The values at offsets of an arena. -/
def Arena.Reads (arena : Arena) (offsets : List Nat) (values : List Value) : Prop :=
  List.Forall₂ (fun offset value => arena.read offset value.type = .ok value) offsets values

/-- Values that lie upside down on others are read from where these end. -/
theorem Arena.Holds.reads {arena : Arena} {above values below : List Value}
    (hholds : arena.Holds (above ++ (values.reverse ++ below))) :
    arena.Reads (offsetsFrom (packedSize below) (values.map Value.type)) values := by
  induction values generalizing below with
  | nil => exact .nil
  | cons value values ih =>
    have hlowest : arena.Holds ((above ++ values.reverse) ++ value :: below) := by
      simpa using hholds
    have hothers : arena.Holds (above ++ (values.reverse ++ value :: below)) := by
      simpa using hholds
    have hreads := ih hothers
    rw [packedSize_cons, Nat.add_comm] at hreads
    exact .cons hlowest.read_eq hreads

/-- The slots of an activation hold what was laid out. -/
theorem Arena.Holds.reads_placed {arena : Arena} {arguments locals below : List Value}
    {savedFp : UInt64} {savedIp : UInt32} {routine : Routine}
    (hholds : arena.Holds (frameValues arguments locals savedFp savedIp ++ below))
    (harguments : arguments.map Value.type = routine.parameters)
    (hlocals : locals.map Value.type = routine.locals.toList) (ip : Nat) :
    arena.Reads (Frame.placed routine ip (packedSize below)).arguments arguments ∧
      arena.Reads (Frame.placed routine ip (packedSize below)).locals locals := by
  have hlower : arena.Holds ((locals.reverse ++ [⟨.u32, savedIp.toUInt64⟩, .pointer savedFp]) ++
      (arguments.reverse ++ below)) := by
    simpa [frameValues] using hholds
  have hupper : arena.Holds ([] ++ (locals.reverse ++
      ⟨.u32, savedIp.toUInt64⟩ :: .pointer savedFp :: (arguments.reverse ++ below))) := by
    simpa [frameValues] using hholds
  have hfp : packedSize
      (⟨.u32, savedIp.toUInt64⟩ :: .pointer savedFp :: (arguments.reverse ++ below)) =
        packedSize below + totalSize routine.parameters + headerSize := by
    simp only [packedSize_cons, packedSize_append, packedSize_reverse, Value.size_pointer,
      Value.size_word, packedSize_eq_totalSize harguments, headerSize]
    omega
  have hreadArguments := hlower.reads
  have hreadLocals := hupper.reads
  rw [harguments] at hreadArguments
  rw [hlocals, hfp] at hreadLocals
  exact ⟨hreadArguments, hreadLocals⟩

section Below

variable {arena other : Arena} {above others below : List Value}

/-- Arenas with the same lowest values have the same lowest bytes. -/
theorem Arena.Holds.byteAt_eq (hholds : arena.Holds (above ++ below))
    (hother : other.Holds (others ++ below)) {offset : Nat} (hoffset : offset < packedSize below) :
    arena.byteAt offset = other.byteAt offset := by
  have hcontents := hholds.restrict.contents_eq.trans hother.restrict.contents_eq.symm
  exact byteAt_eq_of_contents hcontents hoffset

/-- The lowest values determine the tags below their end. -/
theorem Arena.Holds.tagsBelow_eq (hholds : arena.Holds (above ++ below)) :
    arena.tagsBetween 0 (packedSize below) = tagsFrom 0 (below.reverse.map Value.type) := by
  have hpacked : arena.Packed
      (above.map Value.type ++ ((below.reverse.map Value.type).reverse ++ [])) := by
    simpa using hholds.packed
  have htags := hpacked.tagsBetween_eq
  simpa [packedSize] using htags

end Below

namespace Machine

/-- Wherever an activation with given callers returns while its header consists of given
bytes, it returns to given activations. -/
def ReturnsTo (frame : Frame) (header : List UInt8) (callers : List Frame)
    (resumed : CallStack) : Prop :=
  ∀ ip machine last, machine.calls.frames = { frame with ip } :: callers →
    frame.header machine.memory.arena = header → leave machine = .ok .proceed last →
      last.calls = resumed

/-- With the header and the callers that an activation has, it returns to its caller at the
saved position. -/
theorem returnsTo_resumed (frame : Frame) (header : List UInt8) (calls : CallStack) :
    ReturnsTo frame header calls.frames.tail (calls.resumed header) := by
  intro ip machine last hframes hheader hleave
  have htop : machine.calls.top? = some { frame with ip } := by
    rw [CallStack.top?, hframes]
    rfl
  have hpop : machine.calls.pop = calls.pop := by
    apply CallStack.eq_of_frames
    change machine.calls.frames.tail = calls.frames.tail
    rw [hframes, List.tail_cons]
  rw [calls_of_leave htop hleave, CallStack.resumed, CallStack.resumed, hpop, ← hheader]
  rfl

/-- The next machine has an activation of a routine in the place of the old running one.  The
callers and all that lies below the base stay as they are.  The arguments are the topmost
operands of the old activation, in their order; what it had below them is gone.  The header is
that of the old activation, so both return to the same place, and the locals are zero. -/
structure Replaces (machine : Machine) (old : Frame) (routine : Routine) (next : Machine)
    (new : Frame) : Prop where
  frames_eq : next.calls.frames = new :: machine.calls.frames.tail
  depth_eq : next.calls.depth = machine.calls.depth
  bytes_eq : ∀ offset < old.base,
    next.memory.arena.byteAt offset = machine.memory.arena.byteAt offset
  tags_eq : next.memory.arena.tagsBetween 0 old.base = machine.memory.arena.tagsBetween 0 old.base
  frame_eq : new = .placed routine 0 old.base
  arguments_read : ∃ rest arguments, machine.memory.arena.values = rest ++ arguments ∧
    old.floor ≤ Arena.extent rest ∧ arguments.map Value.type = routine.parameters ∧
      next.memory.arena.Reads new.arguments arguments
  header_eq : new.header next.memory.arena = old.header machine.memory.arena
  returns : ReturnsTo old (old.header machine.memory.arena) machine.calls.frames.tail
    (machine.calls.resumed (old.header machine.memory.arena))
  returns_new : ReturnsTo new (new.header next.memory.arena) next.calls.frames.tail
    (machine.calls.resumed (old.header machine.memory.arena))
  locals_read : next.memory.arena.Reads new.locals (routine.locals.toList.map Value.zero)
  sp_eq : next.memory.arena.sp =
    old.base + totalSize routine.parameters + 12 + totalSize routine.locals.toList

/-- Values and activations with another activation in the place of the running one. -/
theorem Depicts.replaces {capacity : Nat} {running routine : Routine}
    {arguments rest oldArguments oldLocals below : List Value} {savedFp : UInt64}
    {savedIp : UInt32} {ip : Nat} {frames : List Frame} {surface changed : Surface}
    {machine next : Machine}
    (hdepicts : machine.Depicts capacity
      ⟨arguments.reverse ++ (rest ++ (frameValues oldArguments oldLocals savedFp savedIp ++ below)),
        .placed running ip (packedSize below) :: frames, surface⟩)
    (hnext : next.Depicts capacity
      ⟨frameValues arguments (routine.locals.toList.map Value.zero) savedFp savedIp ++ below,
        .placed routine 0 (packedSize below) :: frames, changed⟩)
    (holdArguments : oldArguments.map Value.type = running.parameters)
    (holdLocals : oldLocals.map Value.type = running.locals.toList)
    (harguments : arguments.map Value.type = routine.parameters) :
    Replaces machine (.placed running ip (packedSize below)) routine next
      (.placed routine 0 (packedSize below)) := by
  obtain ⟨-, hholds, hframes, -⟩ := hdepicts
  obtain ⟨-, hnextHolds, hnextFrames, -⟩ := hnext
  simp only at hholds hframes hnextHolds hnextFrames
  have hlower : machine.memory.arena.Holds ((arguments.reverse ++
      (rest ++ frameValues oldArguments oldLocals savedFp savedIp)) ++ below) := by
    simpa using hholds
  have hlocals : (routine.locals.toList.map Value.zero).map Value.type = routine.locals.toList := by
    simp [Function.comp_def, Value.zero]
  obtain ⟨hreadArguments, hreadLocals⟩ := hnextHolds.reads_placed harguments hlocals 0
  have hheader : (Frame.placed routine 0 (packedSize below)).header next.memory.arena =
      (Frame.placed running ip (packedSize below)).header machine.memory.arena := by
    rw [hnextHolds.header_eq [] harguments]
    rw [← List.append_assoc] at hholds
    rw [hholds.header_eq _ holdArguments]
  have hfloor := Frame.floor_placed_values holdArguments holdLocals savedFp savedIp ip below
  have hreturns : ∀ frame header, ReturnsTo frame header frames (machine.calls.resumed header) := by
    intro frame header
    have hresumed := returnsTo_resumed frame header machine.calls
    rwa [hframes] at hresumed
  constructor
  case frames_eq => rw [hnextFrames, hframes, List.tail_cons]
  case depth_eq =>
    rw [next.calls.depth_eq, machine.calls.depth_eq, hnextFrames, hframes]
    rfl
  case bytes_eq => exact fun offset hoffset => hnextHolds.byteAt_eq hlower hoffset
  case tags_eq => exact hnextHolds.tagsBelow_eq.trans hlower.tagsBelow_eq.symm
  case frame_eq => rfl
  case arguments_read =>
    refine ⟨(rest ++ (frameValues oldArguments oldLocals savedFp savedIp ++ below)).reverse,
      arguments, ?_, ?_, harguments, hreadArguments⟩
    · rw [hholds.values_eq, List.reverse_append, List.reverse_reverse]
    · rw [hfloor, Arena.extent_reverse]
      simp only [Arena.extent, packedSize, List.map_append, totalSize_append]
      omega
  case header_eq => exact hheader
  case returns =>
    rw [hframes]
    exact hreturns _ _
  case returns_new =>
    rw [hnextFrames, ← hheader]
    exact hreturns _ _
  case locals_read => exact hreadLocals
  case sp_eq =>
    have hsp : next.memory.arena.sp = packedSize
        (frameValues arguments (routine.locals.toList.map Value.zero) savedFp savedIp ++ below) :=
      hnextHolds.packed.sp_eq
    rw [hsp, packedSize_append, packedSize_frameValues, packedSize_eq_totalSize harguments,
      packedSize_map_zero, headerSize]
    simp only [Frame.placed]
    omega

/-- A tail call that gives a result replaces the running activation. -/
theorem Layered.replaces {limits : Limits} {layer : Layer} {lower : List Layer} {peak : Nat}
    {machine next : Machine} {routine : Routine} {old : Frame}
    (hlayered : machine.Layered limits (layer :: lower) peak)
    (htop : machine.calls.top? = some old) (hentered : tailEnter routine machine = .ok () next) :
    ∃ new, Replaces machine old routine next new := by
  obtain ⟨operands, oldArguments, oldLocals, savedFp, savedIp, below, hdepicts, hoperands,
    holdArguments, holdLocals, hbelow⟩ := hlayered.exists_depicts
  obtain ⟨⟨others, hothers⟩, hprofile⟩ :=
    (tailEnter_yields layer.routine routine layer.ip).of_ok hlayered hentered
  rw [← hoperands] at hothers
  obtain ⟨taken, rest, rfl, htaken, -⟩ := List.map_eq_append_iff.mp hothers
  obtain ⟨arguments, rfl⟩ : ∃ arguments : List Value, taken = arguments.reverse :=
    ⟨taken.reverse, (List.reverse_reverse _).symm⟩
  rw [List.map_reverse, List.reverse_inj] at htaken
  rw [List.append_assoc] at hdepicts
  have hstored : ∀ value ∈ arguments, value.type ≠ .void ∧ value.stored = value := by
    intro value hvalue
    have hmember : value ∈ arguments.reverse ++
        (rest ++ (frameValues oldArguments oldLocals savedFp savedIp ++ below)) := by
      simp [hvalue]
    exact ⟨hdepicts.holds.type_ne_void hmember, hdepicts.holds.stored_eq hmember⟩
  -- The new activation exists, so its locals can be stored and there was room for it.
  have hstorable : .void ∉ routine.locals.toList := by
    intro hvoid
    apply hprofile.packed.storable
    simp [Routine.frameTypes, hvoid]
  have hroom : packedSize below + totalSize routine.frameTypes ≤ limits.capacity := by
    have hfits := hprofile.packed.sp_le
    rw [hprofile.packed.sp_eq, hprofile.capacity_eq] at hfits
    simp only [totalSize_append, totalSize_reverse] at hfits
    rw [packedSize_eq_totalSize hbelow]
    omega
  have hmatches := tailEnter_gives savedFp savedIp layer.ip (layerFrames lower) machine.surface
    holdArguments holdLocals htaken hstored hstorable hroom machine hdepicts
  have hold : old = .placed layer.routine layer.ip (packedSize below) := by
    rw [CallStack.top?, hdepicts.frames_eq] at htop
    exact (Option.some.inj htop).symm
  rw [hentered] at hmatches
  cases hmatches with
  | ok hnext =>
    rw [hold]
    exact ⟨_, hdepicts.replaces hnext holdArguments holdLocals htaken⟩

end Machine

end StackCode
