import StackCode.Machine.Step

/-!
# Runs

A run is a sequence of steps from the entry of a module until it returns or traps.
Running past the end of a routine returns from it and costs no fuel.

Main definitions:

- `Outcome`: a machine that is running, has returned or has trapped.
- `Machine.step`: one step.
- `Machine.runFor`: at most a given number of steps.
- `Machine.start`, `Machine.runUpTo`: at most a given number of steps from the entry.
- `Machine.run`: a whole run.

Main results:

- `Machine.runFor_add_of_running`: a run can be cut where it is still going.
-/

namespace StackCode

/-- How far a run has come. -/
inductive Outcome where
  | running (machine : Machine)
  | returned (result : Option Value) (machine : Machine)
  | trapped (trap : Trap) (machine : Machine)

/-- The machine at the end of an outcome. -/
def Outcome.machine : Outcome → Machine
  | running machine => machine
  | returned _ machine => machine
  | trapped _ machine => machine

namespace Machine

/-- Executes the next instruction of the running activation, or returns from it when
it is past its end. -/
def advance (setup : Setup) (frame : Frame) : Exec Flow :=
  match frame.routine.code[frame.ip]? with
  | none => leave
  | some instruction => do
    onCalls (CallStack.jump (frame.ip + 1))
    spend
    execute setup frame.routine instruction

/-- One step of a machine. -/
def step (setup : Setup) (machine : Machine) : Outcome :=
  match machine.calls.top? with
  | none => .returned none machine
  | some frame =>
    match advance setup frame machine with
    | .ok .proceed machine => .running machine
    | .ok (.finished result) machine => .returned result machine
    | .error fault machine => .trapped ⟨fault, frame.routine.name, frame.ip⟩ machine

/-- At most `bound` steps. -/
def runFor (setup : Setup) : Nat → Machine → Outcome
  | 0, machine => .running machine
  | bound + 1, machine =>
    match step setup machine with
    | .running machine => runFor setup bound machine
    | outcome => outcome

@[simp]
theorem runFor_zero (setup : Setup) (machine : Machine) :
    runFor setup 0 machine = .running machine :=
  rfl

/-- A run goes on from the machine after a step. -/
theorem runFor_succ_of_running {setup : Setup} {machine next : Machine} (bound : Nat)
    (h : step setup machine = .running next) :
    runFor setup (bound + 1) machine = runFor setup bound next := by
  simp [runFor, h]

/-- A run can be cut where it is still going. -/
theorem runFor_add_of_running {setup : Setup} {first : Nat} {machine next : Machine}
    (h : runFor setup first machine = .running next) (second : Nat) :
    runFor setup (first + second) machine = runFor setup second next := by
  induction first generalizing machine with
  | zero =>
    cases h
    simp
  | succ first ih =>
    cases taken : step setup machine with
    | running middle =>
      rw [runFor_succ_of_running first taken] at h
      rw [Nat.succ_add, runFor_succ_of_running _ taken]
      exact ih h
    | returned result last => simp [runFor, taken] at h
    | trapped trap last => simp [runFor, taken] at h

/-- A machine at the entry of its module, or the trap of a module without one. -/
def start (setup : Setup) (machine : Machine) : Outcome :=
  match setup.module.entry with
  | .error cause =>
    .trapped ⟨.unresolvedCall (.entry cause), entryName, 0⟩ (machine.reset setup.limits)
  | .ok main =>
    match enter setup.limits main (machine.reset setup.limits) with
    | .ok _ machine => .running machine
    | .error fault machine => .trapped ⟨fault, entryName, 0⟩ machine

/-- At most `bound` steps from the entry of a module. -/
def runUpTo (setup : Setup) (bound : Nat) (machine : Machine) : Outcome :=
  match start setup machine with
  | .running machine => runFor setup bound machine
  | outcome => outcome

/-- Number of steps after which a run is given up. -/
def stepBound : Nat := 0x4000000000000000

/-- Runs a module from its entry.  A run that is still going after `stepBound` steps
is given up. -/
def run (setup : Setup) (machine : Machine) : Outcome := runUpTo setup stepBound machine

end Machine

end StackCode
