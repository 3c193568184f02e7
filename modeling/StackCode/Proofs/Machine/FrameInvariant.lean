import StackCode.Proofs.Machine.StepLayout
import StackCode.Samples

/-!
# What holds whenever a machine is about to take a step

Four structures describe the activations of a machine: the bytes of its arena, the tags
beside them, the activations and the offsets that each activation keeps of its arguments
and locals.  They agree whenever the machine is about to take a step, whatever module it
runs, verified or not, and whatever host functions it calls.

Main definitions:

- `Arena.Tiles`: tags without gaps and without void values.
- `Frame.LaidOut`: an activation that agrees with the tags of an arena.
- `Machine.WellLaid`: the invariant.
- `Memory.InBounds`: every access to memory stays within its bounds.
- `Machine.Reachable`: machines that any number of runs of a setup lead to.

Main result:

- Theorem `Machine.wellLaid_of_running`: the invariant holds before every step of every
  run, and the peak is the greatest depth so far.
-/

namespace StackCode

/-! ## Tags -/

namespace Arena

/-- Tags, the topmost first, that tile the bytes below `stop`: the lowest starts at zero,
each one starts where the one below it ends, and the topmost ends at `stop`. -/
def Tiles : List (Nat × DataType) → Nat → Prop
  | [], stop => stop = 0
  | (offset, type) :: below, stop =>
    offset + type.size = stop ∧ type ≠ .void ∧ Tiles below offset

/-- The tags from an offset up to another, the lowest first. -/
def tagsBetween (arena : Arena) (low high : Nat) : List (Nat × DataType) :=
  arena.tags.reverse.filter fun tag => decide (low ≤ tag.1 ∧ tag.1 < high)

/-- The tags of packed values tile their bytes. -/
theorem tiles_packedTags {types : List DataType} (hstorable : .void ∉ types) :
    Tiles (packedTags types) (totalSize types) := by
  induction types with
  | nil => rfl
  | cons type below ih =>
    rw [List.mem_cons, not_or] at hstorable
    refine ⟨?_, fun hvoid => hstorable.1 hvoid.symm, ih hstorable.2⟩
    rw [totalSize_cons, Nat.add_comm]

/-- The tags of values that lie one after the other from an offset on, the lowest
first. -/
def tagsFrom (base : Nat) : List DataType → List (Nat × DataType)
  | [] => []
  | type :: rest => (base, type) :: tagsFrom (base + type.size) rest

@[simp]
theorem map_fst_tagsFrom (base : Nat) (types : List DataType) :
    (tagsFrom base types).map Prod.fst = offsetsFrom base types := by
  induction types generalizing base with
  | nil => rfl
  | cons type types ih => simp [tagsFrom, offsetsFrom, ih]

@[simp]
theorem map_snd_tagsFrom (base : Nat) (types : List DataType) :
    (tagsFrom base types).map Prod.snd = types := by
  induction types generalizing base with
  | nil => rfl
  | cons type types ih => simp [tagsFrom, ih]

theorem tagsFrom_append (base : Nat) (types others : List DataType) :
    tagsFrom base (types ++ others) =
      tagsFrom base types ++ tagsFrom (base + totalSize types) others := by
  induction types generalizing base with
  | nil => simp [tagsFrom]
  | cons type types ih => simp [tagsFrom, ih, Nat.add_assoc]

/-- The tags of packed values, the lowest first. -/
theorem reverse_packedTags (types : List DataType) :
    (packedTags types).reverse = tagsFrom 0 types.reverse := by
  induction types with
  | nil => rfl
  | cons type below ih => simp [packedTags, ih, tagsFrom_append, tagsFrom]

/-- Values that lie from an offset on lie between it and their end. -/
theorem bounds_of_mem_tagsFrom {base : Nat} {types : List DataType} {tag : Nat × DataType}
    (htag : tag ∈ tagsFrom base types) :
    base ≤ tag.1 ∧ tag.1 + tag.2.size ≤ base + totalSize types := by
  induction types generalizing base with
  | nil => simp [tagsFrom] at htag
  | cons type types ih =>
    rw [totalSize_cons]
    rcases List.mem_cons.mp htag with rfl | hrest
    · simp only
      omega
    · have hbounds := ih hrest
      omega

/-- Among packed values, those from the end of the lowest ones up to the start of the
topmost ones are the ones in between. -/
theorem Packed.tagsBetween_eq {arena : Arena} {above middle below : List DataType}
    (hpacked : arena.Packed (above ++ (middle.reverse ++ below))) :
    arena.tagsBetween (totalSize below) (totalSize below + totalSize middle) =
      tagsFrom (totalSize below) middle := by
  have hstorable : ∀ tag ∈ arena.tags, 0 < tag.2.size := by
    intro tag htag
    refine DataType.size_pos fun hvoid => hpacked.storable ?_
    rw [hpacked.tags_eq] at htag
    have htype := List.mem_map_of_mem (f := Prod.snd) htag
    rwa [map_snd_packedTags, hvoid] at htype
  have htags : arena.tags.reverse =
      tagsFrom 0 below.reverse ++ tagsFrom (totalSize below) middle ++
        tagsFrom (totalSize below + totalSize middle) above.reverse := by
    rw [hpacked.tags_eq, reverse_packedTags]
    simp [tagsFrom_append]
  have hmem : ∀ tag ∈ arena.tags.reverse, 0 < tag.2.size := fun tag htag =>
    hstorable tag (List.mem_reverse.mp htag)
  unfold tagsBetween
  rw [htags] at hmem ⊢
  rw [List.filter_append, List.filter_append, List.filter_eq_nil_iff.mpr,
    List.filter_eq_self.mpr, List.filter_eq_nil_iff.mpr]
  · simp
  · intro tag htag
    have hbounds := bounds_of_mem_tagsFrom htag
    rw [decide_eq_true_iff]
    omega
  · intro tag htag
    have hbounds := bounds_of_mem_tagsFrom htag
    have hpos := hmem tag (by simp [htag])
    rw [decide_eq_true_iff]
    omega
  · intro tag htag
    have hbounds := bounds_of_mem_tagsFrom htag
    have hpos := hmem tag (by simp [htag])
    rw [totalSize_reverse] at hbounds
    rw [decide_eq_true_iff]
    omega

end Arena

/-! ## The invariant -/

/-- An activation agrees with the tags of an arena: its positions are those of its
routine's sizes, the values from its base to its floor are its arguments, its saved
frame and position and its locals, and it knows the offsets of these. -/
structure Frame.LaidOut (frame : Frame) (arena : Arena) : Prop where
  fp_eq : frame.fp = frame.base + totalSize frame.routine.parameters + 12
  floor_eq : frame.floor = frame.fp + totalSize frame.routine.locals.toList
  types_eq : (arena.tagsBetween frame.base frame.floor).map Prod.snd =
    frame.routine.parameters ++ [.pointer, .u32] ++ frame.routine.locals.toList
  arguments_eq : frame.arguments =
    ((arena.tagsBetween frame.base frame.floor).take frame.routine.parameters.length).map Prod.fst
  locals_eq : frame.locals =
    ((arena.tagsBetween frame.base frame.floor).drop
      (frame.routine.parameters.length + 2)).map Prod.fst

/-- The tags, the activations and their offsets agree, within the limits. -/
structure Machine.WellLaid (limits : Limits) (machine : Machine) : Prop where
  tiles : Arena.Tiles machine.memory.arena.tags machine.memory.arena.sp
  sp_le : machine.memory.arena.sp ≤ machine.memory.arena.capacity
  capacity_eq : machine.memory.arena.capacity = limits.capacity
  active : machine.calls.frames ≠ []
  depth_le : machine.calls.frames.length ≤ limits.maxCallDepth
  laidOut : ∀ frame ∈ machine.calls.frames, frame.LaidOut machine.memory.arena
  first_base : ∀ first, machine.calls.frames.getLast? = some first → first.base = 0
  ordered : machine.calls.frames.Pairwise fun upper lower => lower.floor ≤ upper.base
  floor_le : ∀ top, machine.calls.frames.head? = some top → top.floor ≤ machine.memory.arena.sp

/-- Nothing was written past the capacity of the arena, every value and every access that
is let through lies in the arena's capacity or among the resources. -/
structure Memory.InBounds (memory : Memory) : Prop where
  written : memory.arena.bytes.size ≤ memory.arena.capacity
  tagged : ∀ tag ∈ memory.arena.tags, tag.1 + tag.2.size ≤ memory.arena.capacity
  read : ∀ {offset : Nat} {type : DataType} {value : Value},
    memory.arena.read offset type = .ok value → offset + type.size ≤ memory.arena.capacity
  resolved_arena : ∀ {address : UInt64} {length offset : Nat},
    memory.resolve address length = .ok (.arena offset) → offset + length ≤ memory.arena.capacity
  resolved_resource : ∀ {address : UInt64} {length offset : Nat},
    memory.resolve address length = .ok (.resource offset) →
      offset + length ≤ memory.resources.size

/-- The offsets of an activation: arguments, two saved registers and locals. -/
theorem Routine.offsetsFrom_frameTypes (routine : Routine) (base : Nat) :
    offsetsFrom base routine.frameTypes =
      offsetsFrom base routine.parameters ++
        ([base + totalSize routine.parameters, base + totalSize routine.parameters + 8] ++
          offsetsFrom (base + totalSize routine.parameters + headerSize)
            routine.locals.toList) := by
  simp [frameTypes, offsetsFrom_append, offsetsFrom, DataType.size, headerSize, Nat.add_assoc]

/-- A placed activation agrees with the tags of an arena that is packed around it. -/
theorem Frame.laidOut_placed {arena : Arena} {above below : List DataType} (routine : Routine)
    (ip : Nat) (hpacked : arena.Packed (above ++ (routine.frameTypes.reverse ++ below))) :
    (Frame.placed routine ip (totalSize below)).LaidOut arena := by
  have hfloor : (Frame.placed routine ip (totalSize below)).floor =
      totalSize below + totalSize routine.frameTypes := by
    rw [Frame.floor_placed, totalSize_append, totalSize_reverse, Nat.add_comm]
  have htags : arena.tagsBetween (totalSize below)
      (Frame.placed routine ip (totalSize below)).floor =
        Arena.tagsFrom (totalSize below) routine.frameTypes := by
    rw [hfloor]
    exact hpacked.tagsBetween_eq
  refine ⟨rfl, rfl, ?_, ?_, ?_⟩
  · change (arena.tagsBetween (totalSize below) _).map Prod.snd = _
    rw [htags, Arena.map_snd_tagsFrom]
    rfl
  · change offsetsFrom _ routine.parameters = ((arena.tagsBetween (totalSize below) _).take
      routine.parameters.length).map Prod.fst
    rw [htags, List.map_take, Arena.map_fst_tagsFrom, Routine.offsetsFrom_frameTypes,
      List.take_left' (length_offsetsFrom _ _)]
  · change offsetsFrom _ routine.locals.toList = ((arena.tagsBetween (totalSize below) _).drop
      (routine.parameters.length + 2)).map Prod.fst
    rw [htags, List.map_drop, Arena.map_fst_tagsFrom, Routine.offsetsFrom_frameTypes,
      ← List.append_assoc, List.drop_left' (by simp)]

/-- Stacked activations are placed on the values that lie below them. -/
theorem Stacked.exists_placed {frames : List Frame} {types : List DataType}
    (hstacked : Stacked frames types) {frame : Frame} (hframe : frame ∈ frames) :
    ∃ routine ip above below, frame = .placed routine ip (totalSize below) ∧
      types = above ++ (routine.frameTypes.reverse ++ below) := by
  induction hstacked with
  | nil => simp at hframe
  | cons routine ip operands hbelow ih =>
    rcases List.mem_cons.mp hframe with rfl | hlower
    · exact ⟨routine, ip, operands, _, rfl, rfl⟩
    · obtain ⟨other, otherIp, above, below, rfl, rfl⟩ := ih hlower
      refine ⟨other, otherIp, operands ++ (routine.frameTypes.reverse ++ above), below, rfl, ?_⟩
      simp

/-- Stacked activations end below the end of all values. -/
theorem Stacked.floor_le {frames : List Frame} {types : List DataType}
    (hstacked : Stacked frames types) {frame : Frame} (hframe : frame ∈ frames) :
    frame.floor ≤ totalSize types := by
  obtain ⟨routine, ip, above, below, rfl, rfl⟩ := hstacked.exists_placed hframe
  rw [Frame.floor_placed, totalSize_append above]
  omega

/-- Each of stacked activations lies above the floors of those below it. -/
theorem Stacked.ordered {frames : List Frame} {types : List DataType}
    (hstacked : Stacked frames types) :
    frames.Pairwise fun upper lower => lower.floor ≤ upper.base := by
  induction hstacked with
  | nil => exact .nil
  | cons routine ip operands hbelow ih =>
    exact .cons (fun lower hlower => hbelow.floor_le hlower) ih

/-- The first of stacked activations starts at the bottom of the arena. -/
theorem Stacked.first_base {frames : List Frame} {types : List DataType}
    (hstacked : Stacked frames types) {first : Frame} (hfirst : frames.getLast? = some first) :
    first.base = 0 := by
  induction hstacked with
  | nil => simp at hfirst
  | cons routine ip operands hbelow ih =>
    cases hbelow with
    | nil =>
      cases hfirst
      rfl
    | cons other otherIp others hlower => exact ih (by simpa using hfirst)

namespace Machine

/-- The machine is a pile of layers with the given peak. -/
def Framed (limits : Limits) (peak : Nat) (machine : Machine) : Prop :=
  ∃ layers, machine.Piled limits layers peak

theorem Framed.sound {limits : Limits} {peak : Nat} {machine : Machine}
    (hframed : machine.Framed limits peak) : machine.Sound limits.capacity := by
  obtain ⟨layers, hpiled⟩ := hframed
  exact hpiled.layered.sound

/-- A framed machine satisfies the invariant. -/
theorem Framed.wellLaid {limits : Limits} {peak : Nat} {machine : Machine}
    (hframed : machine.Framed limits peak) : machine.WellLaid limits := by
  obtain ⟨layers, hpiled⟩ := hframed
  obtain ⟨hcapacity, hpacked, hframes, -⟩ := hpiled.layered
  have hstacked := stacked_layers layers
  refine ⟨?_, hpacked.sp_le, hcapacity, ?_, ?_, ?_, ?_, ?_, ?_⟩
  · rw [hpacked.tags_eq, hpacked.sp_eq]
    exact Arena.tiles_packedTags hpacked.storable
  · rw [hframes]
    simpa [← List.length_eq_zero_iff] using hpiled.active
  · rw [hframes]
    simpa using hpiled.depth_le
  · rw [hframes]
    intro frame hframe
    obtain ⟨routine, position, above, lower, rfl, htypes⟩ := hstacked.exists_placed hframe
    exact Frame.laidOut_placed routine position (htypes ▸ hpacked)
  · rw [hframes]
    exact fun first hfirst => hstacked.first_base hfirst
  · rw [hframes]
    exact hstacked.ordered
  · rw [hframes, hpacked.sp_eq]
    exact fun top htop => hstacked.floor_le (List.mem_of_mem_head? htop)

end Machine

/-- All accesses to a packed arena stay within its bounds. -/
theorem Machine.Sound.inBounds {capacity : Nat} {machine : Machine}
    (hsound : machine.Sound capacity) : machine.memory.InBounds := by
  obtain ⟨-, types, hpacked⟩ := hsound
  have hfits := hpacked.sp_le
  refine ⟨hpacked.bytes_le, ?_, ?_, ?_, Memory.within_of_resolve⟩
  · intro tag htag
    rw [hpacked.tags_eq, ← List.mem_reverse, Arena.reverse_packedTags] at htag
    have hbounds := Arena.bounds_of_mem_tagsFrom htag
    rw [totalSize_reverse, Nat.zero_add, ← hpacked.sp_eq] at hbounds
    omega
  · intro offset type value hread
    unfold Arena.read at hread
    split at hread
    · omega
    · simp at hread
  · intro address length offset hregion
    have hlive := Memory.live_of_resolve hregion
    omega

/-! ## Runs -/

namespace Machine

/-- Machines that runs of a setup lead to: new ones, and those in which a run from such a
machine is left after some number of steps. -/
inductive Reachable (setup : Setup) : Machine → Prop
  | new (console : Console) : Reachable setup (.new setup.limits console)
  | ran {machine : Machine} (hearlier : Reachable setup machine) (bound : Nat) :
      Reachable setup (runUpTo setup bound machine).machine

section Runs

variable {setup : Setup} {machine : Machine} {peak : Nat}

/-- A run starts with one activation, or not at all. -/
theorem start_framed (setup : Setup) (hsound : machine.Sound setup.limits.capacity) :
    match start setup machine with
    | .running first => first.Framed setup.limits 1 ∧ first.calls.depth = 1
    | outcome => outcome.machine.Sound setup.limits.capacity := by
  have hstarts := start_layered hsound
  cases hstart : start setup machine with
  | running first =>
    rw [hstart] at hstarts
    obtain ⟨main, -, hpiled⟩ := hstarts
    exact ⟨⟨_, hpiled⟩, hpiled.depth_eq⟩
  | returned result last =>
    rw [hstart] at hstarts
    exact hstarts.elim
  | trapped trap last =>
    rw [hstart] at hstarts
    exact hstarts.1

/-- A step leads from a framed machine to a framed one, or ends the run. -/
theorem step_framed (hframed : machine.Framed setup.limits peak) :
    match step setup machine with
    | .running next => next.Framed setup.limits (max peak next.calls.depth)
    | outcome => outcome.machine.Sound setup.limits.capacity := by
  obtain ⟨layers, hpiled⟩ := hframed
  have hensues := step_moves hpiled
  cases htaken : step setup machine with
  | running next =>
    rw [htaken] at hensues
    obtain ⟨after, -, hnext⟩ := hensues
    refine ⟨after, ?_⟩
    rwa [hnext.depth_eq]
  | returned result last =>
    rw [htaken] at hensues
    exact hensues.1
  | trapped trap last =>
    rw [htaken] at hensues
    exact hensues.1

/-- However far a run goes, the arena stays packed. -/
theorem runFor_sound (bound : Nat) (hframed : machine.Framed setup.limits peak) :
    (runFor setup bound machine).machine.Sound setup.limits.capacity := by
  induction bound generalizing machine peak with
  | zero => exact hframed.sound
  | succ bound ih =>
    have hstep := step_framed hframed
    cases htaken : step setup machine with
    | running next =>
      rw [htaken] at hstep
      rw [runFor_succ_of_running bound htaken]
      exact ih hstep
    | returned result last =>
      rw [htaken] at hstep
      simp only [runFor, htaken]
      exact hstep
    | trapped trap last =>
      rw [htaken] at hstep
      simp only [runFor, htaken]
      exact hstep

/-- So it does from the start of a run on. -/
theorem runUpTo_sound (bound : Nat) (hsound : machine.Sound setup.limits.capacity) :
    (runUpTo setup bound machine).machine.Sound setup.limits.capacity := by
  have hstart := start_framed setup hsound
  unfold runUpTo
  cases hfirst : start setup machine with
  | running first =>
    rw [hfirst] at hstart
    exact runFor_sound bound hstart.1
  | returned result last =>
    rw [hfirst] at hstart
    exact hstart
  | trapped trap last =>
    rw [hfirst] at hstart
    exact hstart

/-- Every reachable machine has a packed arena of the capacity that the limits set. -/
theorem Reachable.sound (hreachable : Reachable setup machine) :
    machine.Sound setup.limits.capacity := by
  induction hreachable with
  | new console =>
    refine ⟨capacity_new setup.limits console, [], rfl, rfl, ?_, ?_, by simp⟩
    · exact Nat.zero_le _
    · exact Nat.zero_le _
  | ran hearlier bound ih => exact runUpTo_sound bound ih

/-- The last of several steps is a step from where the others lead. -/
theorem exists_step_of_runFor_succ {bound : Nat} {current : Machine}
    (hrun : runFor setup (bound + 1) machine = .running current) :
    ∃ before, runFor setup bound machine = .running before ∧
      step setup before = .running current := by
  induction bound generalizing machine with
  | zero =>
    refine ⟨machine, rfl, ?_⟩
    cases htaken : step setup machine <;> simp [runFor, htaken] at hrun ⊢
    exact hrun
  | succ bound ih =>
    cases htaken : step setup machine with
    | running next =>
      rw [runFor_succ_of_running _ htaken] at hrun
      obtain ⟨before, hbefore, hlast⟩ := ih hrun
      exact ⟨before, by rw [runFor_succ_of_running _ htaken, hbefore], hlast⟩
    | returned result last => simp [runFor, htaken] at hrun
    | trapped trap last => simp [runFor, htaken] at hrun

/-- The peak of a framed machine. -/
theorem Framed.peak_eq (hframed : machine.Framed setup.limits peak) : machine.peak = peak := by
  obtain ⟨layers, hpiled⟩ := hframed
  exact hpiled.layered.peak_eq

/-- `deepest` is the greatest number of activations before any of the first `bound` steps
of a run. -/
def DeepestUpTo (setup : Setup) (bound : Nat) (machine : Machine) (deepest : Nat) : Prop :=
  (∀ steps ≤ bound, ∀ earlier, runUpTo setup steps machine = .running earlier →
    earlier.calls.frames.length ≤ deepest) ∧
  ∃ steps ≤ bound, ∃ earlier, runUpTo setup steps machine = .running earlier ∧
    earlier.calls.frames.length = deepest

/-- One more step takes the new depth into account. -/
theorem DeepestUpTo.succ {bound deepest : Nat} {current : Machine}
    (hdeepest : DeepestUpTo setup bound machine deepest)
    (hrunning : runUpTo setup (bound + 1) machine = .running current) :
    DeepestUpTo setup (bound + 1) machine (max deepest current.calls.frames.length) := by
  obtain ⟨hbound, steps, hsteps, earlier, hearlier, hattained⟩ := hdeepest
  constructor
  · intro steps hsteps earlier hearlier
    rcases Nat.lt_or_ge bound steps with hlast | hless
    · have hsame : steps = bound + 1 := by omega
      rw [hsame, hrunning] at hearlier
      cases hearlier
      exact Nat.le_max_right _ _
    · exact Nat.le_trans (hbound steps hless earlier hearlier) (Nat.le_max_left _ _)
  · rcases Nat.le_total current.calls.frames.length deepest with hlow | hhigh
    · exact ⟨steps, by omega, earlier, hearlier, by rw [hattained, Nat.max_eq_left hlow]⟩
    · exact ⟨bound + 1, by omega, current, hrunning, (Nat.max_eq_right hhigh).symm⟩

/-- Before every step of a run the machine is framed, and its peak is the greatest depth
so far. -/
theorem framed_of_running (hsound : machine.Sound setup.limits.capacity) {bound : Nat}
    {current : Machine} (hrunning : runUpTo setup bound machine = .running current) :
    current.Framed setup.limits current.peak ∧
      DeepestUpTo setup bound machine current.peak := by
  have hstart := start_framed setup hsound
  cases hfirst : start setup machine with
  | returned result last => simp [runUpTo, hfirst] at hrunning
  | trapped trap last => simp [runUpTo, hfirst] at hrunning
  | running first =>
    rw [hfirst] at hstart
    obtain ⟨hframed, hdepth⟩ := hstart
    have hrun : ∀ steps, runUpTo setup steps machine = runFor setup steps first := by
      intro steps
      simp only [runUpTo, hfirst]
    induction bound generalizing current with
    | zero =>
      rw [hrun, runFor_zero] at hrunning
      cases hrunning
      rw [first.calls.depth_eq] at hdepth
      rw [hframed.peak_eq]
      refine ⟨hframed, fun steps hsteps earlier hearlier => ?_, 0, Nat.le_refl 0, first, ?_, hdepth⟩
      · have hzero : steps = 0 := by omega
        rw [hzero, hrun, runFor_zero] at hearlier
        cases hearlier
        omega
      · rw [hrun, runFor_zero]
    | succ bound ih =>
      have hlast := hrunning
      rw [hrun] at hlast
      obtain ⟨before, hbefore, hstep⟩ := exists_step_of_runFor_succ hlast
      rw [← hrun] at hbefore
      obtain ⟨hframedBefore, hdeepest⟩ := ih hbefore
      have hnext := step_framed hframedBefore
      rw [hstep] at hnext
      simp only at hnext
      rw [current.calls.depth_eq] at hnext
      rw [hnext.peak_eq]
      exact ⟨hnext, hdeepest.succ hrunning⟩

end Runs

/-- Before every step of every run, of any module with any limits and any host, the tags
tile the arena, the activations lie in it as their routines say, and the peak is the
greatest number of activations so far; and no access to memory leaves its bounds, however
the run goes on. -/
theorem wellLaid_of_running {setup : Setup} {machine : Machine}
    (hreachable : Reachable setup machine) (bound : Nat) :
    (runUpTo setup bound machine).machine.memory.InBounds ∧
      ∀ current, runUpTo setup bound machine = .running current →
        current.WellLaid setup.limits ∧ DeepestUpTo setup bound machine current.peak := by
  have hsound := hreachable.sound
  refine ⟨(runUpTo_sound bound hsound).inBounds, fun current hrunning => ?_⟩
  obtain ⟨hframed, hdeepest⟩ := framed_of_running hsound hrunning
  exact ⟨hframed.wellLaid, hdeepest⟩

/-- A machine for a module with a loop in a routine that has an argument and a local. -/
def counting : Setup := ⟨Samples.count 3, .default, .empty⟩

/-- The invariant holds in the middle of the called routine. -/
theorem wellLaid_of_running_counting :
    ∃ current, runUpTo counting 4 (.new counting.limits (.new [])) = .running current ∧
      current.calls.frames.length = 2 ∧ current.WellLaid counting.limits ∧
        DeepestUpTo counting 4 (.new counting.limits (.new [])) current.peak := by
  refine ⟨_, rfl, rfl, ?_⟩
  exact (wellLaid_of_running (.new (.new [])) 4).2 _ rfl

end Machine

end StackCode
