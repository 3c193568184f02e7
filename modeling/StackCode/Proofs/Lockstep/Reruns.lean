import StackCode.Proofs.Lockstep.Metering
import StackCode.Proofs.Lockstep.Room
import StackCode.Proofs.Machine.FrameInvariant

/-!
# Running a machine again

A machine can be run again and again.  Its arena is not wiped between runs, and resources
that were placed stay where they are.  Neither makes a difference: a run reads only bytes
that it has written itself, and an access to a resource that the first run had not placed
yet would have ended that run, so that the resource would never have been placed.

Main definitions:

- `Shelf.Within`: resources that a later shelf still holds.
- `Bond.laterShelf`: a first run, and one that finds the resources of its end.
- `Machine.afterRuns`: a machine after a number of runs.

Main results:

- Theorem `Machine.rerun_matches`: a run on a machine that has run before.
- Theorem `Machine.rerun_clean`: all runs of one machine.
-/

namespace StackCode

/-! ## Resources that stay -/

/-- A later shelf holds the resources of an earlier one where they are. -/
structure Shelf.Within (shelf later : Shelf) : Prop where
  resources_prefix : shelf.resources.data.toList <+: later.resources.data.toList
  lookup_eq : ∀ {index : ResourceIndex} {offset : Nat},
    shelf.placed.lookup index = some offset → later.placed.lookup index = some offset

section Within

variable {shelf later : Shelf} {index : ResourceIndex} {resource : Resource}

/-- What holds a resource that was placed last holds those before it. -/
theorem Shelf.Within.of_extended (hwithin : (shelf.extended index resource).Within later)
    (hnew : shelf.placed.lookup index = none) : shelf.Within later := by
  constructor
  · apply List.IsPrefix.trans _ hwithin.resources_prefix
    simp [Shelf.extended]
  · intro other offset hplaced
    apply hwithin.lookup_eq
    have hother : (other == index) = false := by
      rw [beq_eq_false_iff_ne]
      intro hsame
      rw [hsame, hnew] at hplaced
      cases hplaced
    simp [Shelf.extended, List.lookup_cons, hother, hplaced]

/-- A resource that was placed last lies after all others. -/
theorem Shelf.Within.lookup_extended (hwithin : (shelf.extended index resource).Within later) :
    later.placed.lookup index = some shelf.resources.size := by
  apply hwithin.lookup_eq
  simp [Shelf.extended]

end Within

namespace Bond

/-- The resources of a first run, and those of a run that has found all of these from its
start on.  The first run is lost when it places something else, and no fault of it counts
before it has placed them all. -/
def laterShelf (final : Shelf) : Bond Fault Shelf where
  Tied shelf other := shelf.Within final ∧ other = final
  Failed _ shelf other := shelf.Within final ∧ other = final
  Lost shelf := ¬ shelf.Within final
  Excused _ shelf := ¬ shelf.Within final ∨ shelf.resources ≠ final.resources
  excused_of_lost _ hlost := .inl hlost

/-- Placing a resource that a later run finds in its place. -/
theorem laterShelf_place_keeps (final : Shelf) (index : ResourceIndex) (resource : Resource) :
    (laterShelf final).Keeps (fun _ => True) (Shelf.place index resource)
      (Shelf.place index resource) := by
  constructor
  · intro shelf hlost
    unfold Shelf.place
    cases hplaced : shelf.placed.lookup index with
    | some offset => exact ⟨.intro, hlost⟩
    | none => exact ⟨.intro, fun hwithin => hlost (hwithin.of_extended hplaced)⟩
  · intro shelf other htied
    rcases htied with ⟨hwithin, rfl⟩
    unfold Shelf.place
    cases hplaced : shelf.placed.lookup index with
    | some offset =>
      right
      rw [hwithin.lookup_eq hplaced]
      exact .ok .intro ⟨hwithin, rfl⟩
    | none =>
      by_cases hextended : (shelf.extended index resource).Within other
      · right
        rw [hextended.lookup_extended]
        exact .ok .intro ⟨hextended, rfl⟩
      · exact .inl ⟨.intro, hextended⟩

theorem laterShelf_supplies (final : Shelf) : (laterShelf final).Supplies False where
  fails htied := htied
  contains htied := by
    rcases htied with ⟨hwithin, rfl⟩
    exact hwithin.resources_prefix
  misses htied hmore _ := by
    rcases htied with ⟨-, rfl⟩
    exact .inr hmore.symm
  places := laterShelf_place_keeps final
  overflows hroomy := hroomy.elim

end Bond

/-! ## Consoles -/

/-- Consoles without input on which the same was printed after different beginnings. -/
def Console.PrintAlike (before beforeSecond : List UInt8) (console second : Console) : Prop :=
  console.input = [] ∧ second.input = [] ∧ ∃ printed,
    console.output.toList = before ++ printed ∧ second.output.toList = beforeSecond ++ printed

theorem Console.printAlike_echoes (before beforeSecond : List UInt8) :
    Echoes (Console.PrintAlike before beforeSecond) where
  prints {console second} bytes halike := by
    rcases halike with ⟨hinput, hinputSecond, printed, houtput, houtputSecond⟩
    refine ⟨hinput, hinputSecond, printed ++ bytes, ?_, ?_⟩
    · rw [Console.toList_write, houtput, List.append_assoc]
    · rw [Console.toList_write, houtputSecond, List.append_assoc]
  reads {console second} halike := by
    have hread : ∀ which : Console, which.input = [] → which.readByte = (none, which) := by
      intro which hinput
      simp [Console.readByte, hinput]
    rw [hread console halike.1, hread second halike.2.1]
    exact ⟨rfl, halike⟩

/-! ## Runs -/

namespace Machine

/-- A machine after a number of runs of at most `bound` steps. -/
def afterRuns (setup : Setup) (bound : Nat) (machine : Machine) : Nat → Machine
  | 0 => machine
  | runs + 1 => (runUpTo setup bound (afterRuns setup bound machine runs)).machine

/-- The machine has the resources of an earlier run, an arena of the size that the limits set,
and no input. -/
structure Ready (limits : Limits) (final : Shelf) (machine : Machine) : Prop where
  shelf_eq : machine.memory.shelf = final
  capacity_eq : machine.memory.arena.capacity = limits.capacity
  input_eq : machine.console.input = []

section Reruns

variable (module : Module) (limits : Limits) (output : Array UInt8) (bound : Nat)

/-- The first run of a new machine without input, with the console functions as its host. -/
def firstRun : Outcome := runUpTo ⟨module, limits, .stdio⟩ bound (.new limits ⟨output, []⟩)

/-- A machine with an arena of the size that the limits set can be reset like a new one. -/
theorem resembles_reset {machine : Machine}
    (hcapacity : machine.memory.arena.capacity = limits.capacity) :
    (Bond.arenas False).Tied ((Machine.new limits ⟨output, []⟩).reset limits).memory.arena
      (machine.reset limits).memory.arena := by
  have hnew : (Machine.new limits ⟨output, []⟩).memory.arena.capacity = limits.capacity :=
    capacity_new limits _
  refine ⟨⟨0, Arena.resembles_clear ?_ ?_⟩, .inr ?_⟩
  · exact Nat.le_of_eq (hnew.trans hcapacity.symm)
  · rw [hcapacity]
    exact Nat.min_le_right _ _
  · exact hcapacity.trans hnew.symm

/-- The first run compared with itself: no input appears, and it only adds to the output. -/
theorem firstRun_prints :
    Console.PrintAlike output.toList output.toList
      (firstRun module limits output bound).machine.console
      (firstRun module limits output bound).machine.console := by
  have htied : (Pairing.storage False (.sameShelf False)
      (Console.PrintAlike output.toList output.toList)).bond.Tied
        ((Machine.new limits ⟨output, []⟩).reset limits)
        ((Machine.new limits ⟨output, []⟩).reset limits) := by
    refine ⟨⟨resembles_reset limits output (capacity_new limits _), rfl⟩, ?_, .intro, rfl, rfl, rfl⟩
    exact ⟨rfl, rfl, [], by simp [Machine.new, Machine.reset]⟩
  rcases Pairing.storage_runUpTo_follows (Bond.sameShelf_supplies False)
    (Console.printAlike_echoes output.toList output.toList) module (.inl rfl) bound htied with
      hstrays | hmatches
  · exfalso
    unfold Pairing.Strays at hstrays
    split at hstrays
    · exact hstrays
    · exact hstrays
    · exact hstrays.1
  · exact hmatches.alike.consoles

/-- A machine is ready for another run after the first one. -/
theorem firstRun_ready :
    Ready limits (firstRun module limits output bound).machine.memory.shelf
      (firstRun module limits output bound).machine where
  shelf_eq := rfl
  capacity_eq := by
    let setup : Setup := ⟨module, limits, .stdio⟩
    have hreachable : Reachable setup (firstRun module limits output bound).machine :=
      .ran (.new ⟨output, []⟩) bound
    exact hreachable.sound.1
  input_eq := (firstRun_prints module limits output bound).1

/-- The pairing of the first run with one that starts from a given console. -/
abbrev rerunPairing (beforeSecond : List UInt8) : Pairing :=
  .storage False (.laterShelf (firstRun module limits output bound).machine.memory.shelf)
    (Console.PrintAlike output.toList beforeSecond)

/-- A run on a machine that has the resources of the first one goes like the first one. -/
theorem rerun_matches {machine : Machine}
    (hready : Ready limits (firstRun module limits output bound).machine.memory.shelf machine) :
    (rerunPairing module limits output bound machine.console.output.toList).Matches
      (firstRun module limits output bound)
      (runUpTo ⟨module, limits, .stdio⟩ bound machine) := by
  have htied : (rerunPairing module limits output bound machine.console.output.toList).bond.Tied
      ((Machine.new limits ⟨output, []⟩).reset limits) (machine.reset limits) := by
    refine ⟨⟨resembles_reset limits output hready.capacity_eq, ?_, hready.shelf_eq⟩, ?_, .intro,
      rfl, rfl, rfl⟩
    · exact ⟨List.nil_prefix, nofun⟩
    · exact ⟨rfl, hready.input_eq, [], by simp [Machine.new, Machine.reset]⟩
  rcases Pairing.storage_runUpTo_follows (Bond.laterShelf_supplies _)
    (Console.printAlike_echoes _ _) module (.inl rfl) bound htied with hstrays | hmatches
  · -- The first run ends with its own resources.
    exfalso
    have hwithin : ∀ shelf : Shelf, shelf.Within shelf := fun _ => ⟨List.prefix_rfl, id⟩
    change (rerunPairing module limits output bound _).Strays (firstRun module limits output bound)
      at hstrays
    unfold rerunPairing at hstrays
    generalize firstRun module limits output bound = outcome at hstrays
    cases outcome with
    | running last => exact hstrays (hwithin _)
    | returned result last => exact hstrays (hwithin _)
    | trapped trap last =>
      rcases hstrays with hlost | hmore
      · exact hlost (hwithin _)
      · exact hmore rfl
  · exact hmatches

/-- After a run like the first one the machine is ready for the next. -/
theorem ready_of_matches {beforeSecond : List UInt8} {second : Outcome}
    (hmatches : (rerunPairing module limits output bound beforeSecond).Matches
      (firstRun module limits output bound) second) :
    Ready limits (firstRun module limits output bound).machine.memory.shelf second.machine := by
  have hfirst := (firstRun_ready module limits output bound).capacity_eq
  have hinput := hmatches.alike.consoles.2.1
  unfold rerunPairing at hmatches
  generalize firstRun module limits output bound = outcome at hmatches hfirst
  have hmemory : second.machine.memory.shelf = outcome.machine.memory.shelf ∧
      second.machine.memory.arena.capacity = outcome.machine.memory.arena.capacity := by
    cases hmatches with
    | running htied => exact ⟨htied.1.2.2, htied.1.1.2.resolve_left id⟩
    | returned htied => exact ⟨htied.1.2.2, htied.1.1.2.resolve_left id⟩
    | trapped hfailed => exact ⟨hfailed.1.2.2, hfailed.1.1.2.resolve_left id⟩
  exact ⟨hmemory.1, hmemory.2.trans hfirst, hinput⟩

/-- The machine is ready for another run after any number of runs. -/
theorem afterRuns_ready (runs : Nat) :
    Ready limits (firstRun module limits output bound).machine.memory.shelf
      (afterRuns ⟨module, limits, .stdio⟩ bound (.new limits ⟨output, []⟩) (runs + 1)) := by
  induction runs with
  | zero => exact firstRun_ready module limits output bound
  | succ runs ih => exact ready_of_matches module limits output bound (rerun_matches _ _ _ _ ih)

end Reruns

/-- Every run of a machine without input, with the console functions as its host, gives the
same account as the first one, however often it has run before: the same result or trap and
the same counters, with the same bytes added to what was printed before. -/
theorem rerun_clean (module : Module) (limits : Limits) (output : Array UInt8) (bound runs : Nat) :
    let setup : Setup := ⟨module, limits, .stdio⟩
    let fresh : Machine := .new limits ⟨output, []⟩
    let before := afterRuns setup bound fresh runs
    let first := (runUpTo setup bound fresh).account
    let later := (runUpTo setup bound before).account
    later.verdict = first.verdict ∧ later.executed = first.executed ∧ later.peak = first.peak ∧
      ∃ printed, first.console.output.toList = output.toList ++ printed ∧
        later.console.output.toList = before.console.output.toList ++ printed := by
  intro setup fresh before first later
  cases runs with
  | zero =>
    rcases firstRun_prints module limits output bound with ⟨-, -, printed, hprinted, -⟩
    exact ⟨rfl, rfl, rfl, printed, hprinted, hprinted⟩
  | succ runs =>
    have hready := afterRuns_ready module limits output bound runs
    rcases (rerun_matches module limits output bound hready).accounts with
      ⟨hverdict, hexecuted, hpeak, -, -, printed, hfirst, hlater⟩
    exact ⟨hverdict, hexecuted, hpeak, printed, hfirst, hlater⟩

end Machine

end StackCode
