import StackCode.Proofs.Lockstep.Instructions
import StackCode.Machine.Run

/-!
# What a step takes of the fuel

A step counts and pays for the instruction that it fetches before it executes it.  Nothing
else looks at the fuel or changes it, so a step from a machine with another amount of fuel
does the same, as long as both can pay.

Main definitions:

- `Machine.withFuel`: the machine with another amount of fuel.
- `Machine.fetch?`: the place of the instruction that a step fetches.
- `Machine.CanPay`: a machine that can pay for its next step.
- `Machine.Unmetered`: a computation that does the same whatever the fuel.

Main results:

- Theorems `Machine.leave_unmetered`, `Machine.execute_unmetered`, `Machine.enter_unmetered`.
- Theorem `Machine.step_exhausted`: a step that cannot be paid for.
- Theorem `Machine.step_paces`: a step that can be paid for, with any other amount of fuel.
-/

namespace StackCode

/-- The setup with another budget of fuel. -/
def Setup.withFuel (setup : Setup) (fuel : Option Nat) : Setup :=
  { setup with limits := { setup.limits with fuel } }

/-- The machine with another amount of fuel. -/
def Machine.withFuel (machine : Machine) (fuel : Option Nat) : Machine := { machine with fuel }

/-- The outcome with another amount of fuel. -/
def Outcome.withFuel (fuel : Option Nat) : Outcome → Outcome
  | .running machine => .running (machine.withFuel fuel)
  | .returned result machine => .returned result (machine.withFuel fuel)
  | .trapped trap machine => .trapped trap (machine.withFuel fuel)

/-! ## Output -/

/-- A host function only adds to what was printed. -/
theorem HostProgram.printed_of_run (program : HostProgram) {printed : List UInt8}
    {surroundings : Surroundings} (hprinted : printed <+: surroundings.console.output.toList) :
    match program.run surroundings with
    | .ok _ last => printed <+: last.console.output.toList
    | .error _ last => printed <+: last.console.output.toList := by
  have hchange : ∀ (operation : EStateM Fault Memory Unit) (before : Surroundings),
      (change operation before).2.console = before.console := by
    intro operation before
    unfold change
    cases hresult : operation before.memory <;> simp only [hresult]
  induction program generalizing surroundings with
  | done result => exact hprinted
  | fail message => exact hprinted
  | read address type next ih => exact ih _ hprinted
  | readBytes address length next ih => exact ih _ hprinted
  | readCString address next ih => exact ih _ hprinted
  | write address value next ih =>
    rw [← hchange (Memory.write address value)] at hprinted
    exact ih _ hprinted
  | writeBytes address bytes next ih =>
    rw [← hchange (Memory.writeBytes address bytes)] at hprinted
    exact ih _ hprinted
  | print bytes next ih =>
    apply ih
    rw [Console.toList_write]
    exact hprinted.trans (List.prefix_append _ _)
  | readChar next ih =>
    rw [← Console.output_readByte] at hprinted
    exact ih _ hprinted
  | readNotes next ih => exact ih _ hprinted
  | writeNotes bytes next ih => exact ih hprinted

/-! ## Computations that take no fuel -/

/-- A result that is no lack of fuel. -/
def Spares {α σ : Type} (known : α → Prop) : EStateM.Result Fault σ α → Prop
  | .ok result _ => known result
  | .error fault _ => fault ≠ .outOfFuel

namespace Pairing

open Machine

/-- Machines that differ in nothing but fuel, the second one with a given amount of it, while
both have the meters of a given machine and have added to its output. -/
def unmetered (base : Machine) (fuel : Option Nat) : Pairing where
  memory :=
    { Tied := fun memory second => second = memory
      Failed := fun fault memory second => fault ≠ .outOfFuel ∧ second = memory
      Lost := fun _ => False
      Excused := fun _ _ => False
      excused_of_lost := fun _ hlost => hlost }
  Consoles console second :=
    second = console ∧ base.console.output.toList <+: console.output.toList
  Notes notes second := second = notes
  Meters meters second := meters = (base.fuel, base.executed) ∧ second = (fuel, base.executed)

section Lawful

variable {α : Type} {known : α → Prop} {base : Machine} {fuel : Option Nat}

/-- On equal memories an operation does the same. -/
theorem unmetered_memory_keeps {operation : EStateM Fault Memory α}
    (hspares : ∀ memory, Spares known (operation memory)) :
    (unmetered base fuel).memory.Keeps known operation operation := by
  apply Bond.Keeps.of_agrees
  · exact fun _ hlost => hlost
  · intro memory second htied
    cases htied
    right
    have hspared := hspares memory
    cases hresult : operation memory with
    | ok result after =>
      rw [hresult] at hspared
      exact .ok hspared rfl
    | error fault after =>
      rw [hresult] at hspared
      exact .error ⟨hspared, rfl⟩

/-- On equal memories an operation on the arena does the same. -/
theorem unmetered_arena_keeps {operation : EStateM Fault Arena α}
    (hspares : ∀ arena, Spares known (operation arena)) :
    (unmetered base fuel).memory.Keeps known (Memory.onArena operation)
      (Memory.onArena operation) := by
  apply unmetered_memory_keeps
  intro memory
  have hspared := hspares memory.arena
  unfold Memory.onArena
  cases hresult : operation memory.arena with
  | ok result after =>
    rw [hresult] at hspared
    simp only [hresult]
    exact hspared
  | error fault after =>
    rw [hresult] at hspared
    simp only [hresult]
    exact hspared

/-- On equal memories and consoles a host function does the same. -/
theorem unmetered_runHost_keeps (program : HostProgram) :
    (unmetered base fuel).bond.Keeps (fun _ => True) (runHost program) (runHost program) := by
  apply Bond.Keeps.of_agrees
  · exact fun _ hlost => hlost
  · intro machine second htied
    rcases machine with ⟨memory, console, notes, calls, left, executed, peak⟩
    rcases second with ⟨memory₂, console₂, notes₂, calls₂, left₂, executed₂, peak₂⟩
    rcases htied with ⟨hmemory, ⟨hconsole, hprinted⟩, hnotes, hmeters, hcalls, hpeak⟩
    cases hmemory
    cases hconsole
    cases hnotes
    right
    have hrun := @HostProgram.printed_of_run program _ ⟨memory, console, notes⟩ hprinted
    simp only [runHost]
    generalize program.run ⟨memory, console, notes⟩ = found at hrun
    cases found with
    | ok result after =>
      exact .ok .intro ⟨rfl, ⟨rfl, hrun⟩, rfl, hmeters, hcalls, hpeak⟩
    | error message after =>
      exact .error ⟨⟨by simp, rfl⟩, ⟨rfl, hrun⟩, rfl, hmeters, hcalls, hpeak⟩

/-- No operation of the machine looks at the fuel. -/
theorem unmetered_lawful (setup : Setup) (budget : Option Nat) :
    (unmetered base fuel).Lawful setup (setup.withFuel budget) where
  module_eq := rfl
  host_eq := rfl
  depths := .inl rfl
  fails hfuel htied := ⟨hfuel, htied⟩
  sp_eq htied := by rw [show _ = _ from htied]
  tags_eq htied := by rw [show _ = _ from htied]
  read_eq htied offset type := by rw [show _ = _ from htied]
  pushes value := by
    apply unmetered_arena_keeps
    intro arena
    simp only [Arena.push]
    split
    · intro hfault
      cases hfault
    · split
      · intro hfault
        cases hfault
      · exact .intro
  pops type floor := by
    apply unmetered_arena_keeps
    intro arena
    unfold Arena.pop
    split
    · intro hfault
      cases hfault
    · split
      · intro hfault
        cases hfault
      · split
        · intro hfault
          cases hfault
        · rename_i hfound
          exact not_not.mp hfound
  writes offset value := by
    apply unmetered_arena_keeps
    intro arena
    simp only [Arena.write]
    split
    · exact .intro
    · intro hfault
      cases hfault
  truncates offset := unmetered_arena_keeps fun _ => .intro
  loads address type _ := by
    apply inspect_keeps
    · intro machine second htied
      rw [show second.memory = machine.memory from htied.1]
    · exact fun _ _ _ => .intro
    · intro machine second fault htied hfault
      refine ⟨⟨?_, htied.1⟩, htied.2⟩
      unfold Memory.read Memory.readBytes at hfault
      cases hresolve : machine.memory.resolve address type.size with
      | error found =>
        rw [hresolve] at hfault
        cases hfault
        rw [Memory.fault_of_resolve hresolve]
        intro hfault
        cases hfault
      | ok region =>
        rw [hresolve] at hfault
        cases region with
        | arena offset => cases hfault
        | resource offset => cases hfault
  stores address value _ := by
    apply unmetered_memory_keeps
    intro memory
    unfold Memory.write Memory.writeBytes
    cases hresolve : memory.resolve address value.bytes.length with
    | error fault =>
      rw [Memory.fault_of_resolve hresolve]
      intro hfault
      cases hfault
    | ok region =>
      cases region with
      | arena offset => exact .intro
      | resource offset =>
        intro hfault
        cases hfault
  places index resource := by
    apply Bond.Keeps.of_agrees
    · exact fun _ hlost => hlost
    · intro machine second htied
      rcases machine with ⟨memory, console, notes, calls, left, executed, peak⟩
      rcases second with ⟨memory₂, console₂, notes₂, calls₂, left₂, executed₂, peak₂⟩
      rcases htied with ⟨hmemory, hconsoles, hnotes, hmeters, hcalls, hpeak⟩
      cases hmemory
      exact .inr (.ok .intro ⟨rfl, hconsoles, hnotes, hmeters, hcalls, hpeak⟩)
  prints bytes hconsoles := by
    refine ⟨by rw [hconsoles.1], ?_⟩
    rw [Console.toList_write]
    exact hconsoles.2.trans (List.prefix_append _ _)
  reads hconsoles := by
    rw [hconsoles.1]
    refine ⟨rfl, rfl, ?_⟩
    rw [Console.output_readByte]
    exact hconsoles.2
  hosts _ arguments := unmetered_runHost_keeps _

end Lawful

end Pairing

namespace Machine

/-- The meters of a machine stand as they stood, and what was printed is still there. -/
structure Extends (machine next : Machine) : Prop where
  fuel_eq : next.fuel = machine.fuel
  executed_eq : next.executed = machine.executed
  printed : machine.console.output.toList <+: next.console.output.toList

/-- Results of one computation with two amounts of fuel: the same but for the fuel, neither
of which was touched. -/
inductive Unmetered {α : Type} (machine : Machine) (fuel : Option Nat) :
    EStateM.Result Fault Machine α → EStateM.Result Fault Machine α → Prop
  | ok {result : α} {next : Machine} (hextends : machine.Extends next) :
      Unmetered machine fuel (.ok result next) (.ok result (next.withFuel fuel))
  | error {fault : Fault} {next : Machine} (hfault : fault ≠ .outOfFuel)
      (hextends : machine.Extends next) :
      Unmetered machine fuel (.error fault next) (.error fault (next.withFuel fuel))

section Unmetered

variable {α : Type} {machine : Machine} {fuel : Option Nat}

/-- Machines that are alike but for the fuel. -/
theorem extends_of_alike {next second : Machine} (hmemory : second.memory = next.memory)
    (halike : (Pairing.unmetered machine fuel).Alike next second) :
    machine.Extends next ∧ second = next.withFuel fuel := by
  rcases halike with ⟨⟨hconsole, hprinted⟩, hnotes, ⟨hmeters, hother⟩, hcalls, hpeak⟩
  rcases next with ⟨memory, console, notes, calls, left, executed, peak⟩
  rcases second with ⟨memory₂, console₂, notes₂, calls₂, left₂, executed₂, peak₂⟩
  change notes₂ = notes at hnotes
  simp only [Prod.mk.injEq] at hmeters hother hmemory hconsole hcalls hpeak hprinted
  rcases hmeters with ⟨rfl, rfl⟩
  rcases hother with ⟨rfl, rfl⟩
  exact ⟨⟨rfl, rfl, hprinted⟩, by simp [withFuel, hmemory, hconsole, hnotes, hcalls, hpeak]⟩

theorem unmetered_of_keeps {known : α → Prop} {first second : Exec α}
    (hkeeps : (Pairing.unmetered machine fuel).bond.Keeps known first second) :
    Unmetered machine fuel (first machine) (second (machine.withFuel fuel)) := by
  have htied : (Pairing.unmetered machine fuel).bond.Tied machine (machine.withFuel fuel) :=
    ⟨rfl, ⟨rfl, List.prefix_rfl⟩, rfl, ⟨rfl, rfl⟩, rfl, rfl⟩
  rcases hkeeps.agrees htied with hstrays | hagrees
  · exfalso
    cases hresult : first machine with
    | ok result next =>
      rw [hresult] at hstrays
      exact hstrays.2
    | error fault next =>
      rw [hresult] at hstrays
      exact hstrays
  · generalize first machine = found, second (machine.withFuel fuel) = expected at hagrees
    cases hagrees with
    | ok hknown hafter =>
      rcases extends_of_alike hafter.1 hafter.2 with ⟨hextends, rfl⟩
      exact .ok hextends
    | error hfailed =>
      rcases extends_of_alike hfailed.1.2 hfailed.2 with ⟨hextends, rfl⟩
      exact .error hfailed.1.1 hextends

variable (machine fuel)

theorem leave_unmetered (setup : Setup) :
    Unmetered machine fuel (leave machine) (leave (machine.withFuel fuel)) :=
  unmetered_of_keeps (Pairing.leave_keeps (Pairing.unmetered_lawful setup none))

theorem execute_unmetered (setup : Setup) (budget : Option Nat) (routine : Routine)
    (instruction : Instruction) :
    Unmetered machine fuel (execute setup routine instruction machine)
      (execute (setup.withFuel budget) routine instruction (machine.withFuel fuel)) :=
  unmetered_of_keeps
    (Pairing.execute_keeps (Pairing.unmetered_lawful setup budget) routine instruction)

theorem enter_unmetered (setup : Setup) (budget : Option Nat) (routine : Routine) :
    Unmetered machine fuel (enter setup.limits routine machine)
      (enter (setup.withFuel budget).limits routine (machine.withFuel fuel)) :=
  unmetered_of_keeps (Pairing.enter_keeps (Pairing.unmetered_lawful setup budget) routine)

end Unmetered

/-! ## Steps -/

/-- The place of the instruction that the next step fetches, its routine and its index. -/
def fetch? (machine : Machine) : Option (String × Nat) :=
  machine.calls.top?.bind fun frame =>
    frame.routine.code[frame.ip]?.map fun _ => (frame.routine.name, frame.ip)

/-- The number of instructions that the next step fetches. -/
def fetchCount (machine : Machine) : Nat := machine.fetch?.toList.length

/-- The machine can pay for its next step. -/
def CanPay (machine : Machine) : Prop := machine.fetch? = none ∨ machine.fuel ≠ some 0

/-- The machine once an instruction of its running activation is fetched, counted and, if
possible, paid for. -/
def fetched (machine : Machine) (frame : Frame) : Machine :=
  { machine with
    calls := machine.calls.jump (frame.ip + 1)
    fuel := machine.fuel.map (· - 1)
    executed := machine.executed + 1 }

/-- Fetching an instruction. -/
theorem advance_eq_execute {frame : Frame} {instruction : Instruction}
    (hcode : frame.routine.code[frame.ip]? = some instruction) (setup : Setup)
    (machine : Machine) :
    advance setup frame machine =
      if machine.fuel = some 0 then .error .outOfFuel (machine.fetched frame)
      else execute setup frame.routine instruction (machine.fetched frame) := by
  unfold advance
  rw [hcode]
  rcases machine with ⟨memory, console, notes, calls, fuel, executed, peak⟩
  match fuel with
  | none => rfl
  | some 0 => rfl
  | some (left + 1) => rfl

/-- A machine that cannot pay for the instruction that it fetches traps there.  The
instruction is counted all the same. -/
theorem step_exhausted {machine : Machine} (hpoor : ¬ machine.CanPay) (setup : Setup) :
    ∃ routine ip last, machine.fetch? = some (routine, ip) ∧ machine.fuel = some 0 ∧
      step setup machine = .trapped ⟨.outOfFuel, routine, ip⟩ last ∧
      last.executed = machine.executed + 1 ∧ last.console = machine.console := by
  rw [CanPay, not_or, not_not] at hpoor
  rcases hpoor with ⟨hfetch, hempty⟩
  unfold fetch? at hfetch ⊢
  unfold step
  cases htop : machine.calls.top? with
  | none => simp [htop] at hfetch
  | some frame =>
    cases hcode : frame.routine.code[frame.ip]? with
    | none => simp [htop, hcode] at hfetch
    | some instruction =>
      refine ⟨frame.routine.name, frame.ip, machine.fetched frame, ?_, hempty, ?_, rfl, rfl⟩
      · simp [hcode]
      · simp only [advance_eq_execute hcode, if_pos hempty]

/-- What a step that can be paid for does, with its own amount of fuel and with another
one. -/
structure Paces (machine : Machine) (fuel : Option Nat) (outcome second : Outcome) : Prop where
  fuel_eq : outcome.machine.fuel = machine.fuel.map (· - machine.fetchCount)
  executed_eq : outcome.machine.executed = machine.executed + machine.fetchCount
  printed : machine.console.output.toList <+: outcome.machine.console.output.toList
  spares : ∀ {trap : Trap} {last : Machine}, outcome = .trapped trap last →
    trap.fault ≠ .outOfFuel
  second_eq : second = outcome.withFuel (fuel.map (· - machine.fetchCount))

/-- What the end of a step makes of a result. -/
def conclude (frame : Frame) : EStateM.Result Fault Machine Flow → Outcome
  | .ok .proceed machine => .running machine
  | .ok (.finished result) machine => .returned result machine
  | .error fault machine => .trapped ⟨fault, frame.routine.name, frame.ip⟩ machine

theorem step_eq_conclude {machine : Machine} {frame : Frame}
    (htop : machine.calls.top? = some frame) (setup : Setup) :
    step setup machine = conclude frame (advance setup frame machine) := by
  unfold step
  rw [htop]
  rfl

/-- The end of a step after a computation that takes no fuel. -/
theorem Unmetered.paces {machine start : Machine} {fuel : Option Nat} (frame : Frame)
    {found expected : EStateM.Result Fault Machine Flow}
    (hunmetered : Unmetered start (fuel.map (· - machine.fetchCount)) found expected)
    (hfuel : start.fuel = machine.fuel.map (· - machine.fetchCount))
    (hexecuted : start.executed = machine.executed + machine.fetchCount)
    (hconsole : start.console = machine.console) :
    Paces machine fuel (conclude frame found) (conclude frame expected) := by
  cases hunmetered with
  | @ok flow next hextends =>
    rcases hextends with ⟨hnextFuel, hnextExecuted, hprinted⟩
    rw [hconsole] at hprinted
    cases flow with
    | proceed =>
      exact ⟨hnextFuel.trans hfuel, hnextExecuted.trans hexecuted, hprinted, nofun, rfl⟩
    | finished result =>
      exact ⟨hnextFuel.trans hfuel, hnextExecuted.trans hexecuted, hprinted, nofun, rfl⟩
  | @error fault next hfault hextends =>
    rcases hextends with ⟨hnextFuel, hnextExecuted, hprinted⟩
    rw [hconsole] at hprinted
    refine ⟨hnextFuel.trans hfuel, hnextExecuted.trans hexecuted, hprinted, ?_, rfl⟩
    intro trap last htrapped
    cases htrapped
    exact hfault

/-- A step that can be paid for takes one unit of fuel if it fetches an instruction and none
otherwise, and does the same with every amount that pays for it. -/
theorem step_paces {machine : Machine} (hpaid : machine.CanPay) {fuel : Option Nat}
    (hother : (machine.withFuel fuel).CanPay) (setup : Setup) (budget : Option Nat) :
    Paces machine fuel (step setup machine)
      (step (setup.withFuel budget) (machine.withFuel fuel)) := by
  have hfuel : ∀ left : Option Nat, left.map (· - 0) = left := by
    intro left
    cases left <;> rfl
  cases htop : machine.calls.top? with
  | none =>
    have hcount : machine.fetchCount = 0 := by simp [fetchCount, fetch?, htop]
    have hstep : step setup machine = .returned none machine := by simp [step, htop]
    have hsecond : step (setup.withFuel budget) (machine.withFuel fuel) =
        .returned none (machine.withFuel fuel) := by simp [step, withFuel, htop]
    rw [hstep, hsecond]
    refine ⟨?_, ?_, List.prefix_rfl, nofun, ?_⟩
    · rw [hcount, hfuel]
      rfl
    · rw [hcount]
      rfl
    · rw [hcount, hfuel]
      rfl
  | some frame =>
    have htopOther : (machine.withFuel fuel).calls.top? = some frame := htop
    rw [step_eq_conclude htop, step_eq_conclude htopOther]
    cases hcode : frame.routine.code[frame.ip]? with
    | none =>
      have hcount : machine.fetchCount = 0 := by simp [fetchCount, fetch?, htop, hcode]
      have hleave : ∀ which : Setup, advance which frame = leave := by
        intro which
        unfold advance
        rw [hcode]
      rw [hleave, hleave]
      apply Unmetered.paces frame
      · rw [hcount, hfuel]
        exact leave_unmetered machine fuel setup
      · rw [hcount, hfuel]
      · rw [hcount]
        rfl
      · rfl
    | some instruction =>
      have hfetch : machine.fetch? = some (frame.routine.name, frame.ip) := by
        simp [fetch?, htop, hcode]
      have hcount : machine.fetchCount = 1 := by simp [fetchCount, hfetch]
      have hrich : machine.fuel ≠ some 0 := by simpa [CanPay, hfetch] using hpaid
      have hrichOther : (machine.withFuel fuel).fuel ≠ some 0 := by
        have hfetchOther : (machine.withFuel fuel).fetch? = machine.fetch? := rfl
        simpa [CanPay, hfetchOther, hfetch] using hother
      rw [advance_eq_execute hcode, advance_eq_execute hcode, if_neg hrich, if_neg hrichOther]
      apply Unmetered.paces frame
      · rw [hcount]
        exact execute_unmetered (machine.fetched frame) (fuel.map (· - 1)) setup budget
          frame.routine instruction
      · rw [hcount]
        rfl
      · rw [hcount]
        rfl
      · rfl

end Machine

end StackCode
