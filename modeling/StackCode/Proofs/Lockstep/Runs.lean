import StackCode.Proofs.Lockstep.Instructions
import StackCode.Proofs.Structured.Refinement

/-!
# Runs in lockstep

Two machines whose instructions go together go together for whole runs: at every step the
second one has come as far as the first one, unless the first one need not be followed any
more.

Main definitions:

- `Account`: how a run stands, its console and what it has counted.
- `Account.Shows`: the account of a run with a given effect on the console it started with.
- `Pairing.Matches`: runs that have come equally far.
- `Pairing.Strays`: a run that need not be followed.

Main results:

- Theorem `Machine.runUpTo_eq_of_ended`: a run that has ended stays as it is.
- Theorem `Pairing.runUpTo_follows`: whole runs.
-/

namespace StackCode

/-! ## Accounts -/

/-- What a run reports: how it stands, its console, the number of executed instructions and
the deepest nesting. -/
@[ext]
structure Account where
  verdict : Verdict
  console : Console
  executed : Nat
  peak : Nat
deriving DecidableEq, Repr

/-- The account of a run. -/
def Outcome.account (outcome : Outcome) : Account where
  verdict := outcome.observed.verdict
  console := outcome.machine.console
  executed := outcome.machine.executed
  peak := outcome.machine.peak

/-- What a run that reads no input does: how it stands, the bytes it prints and what it
counts. -/
structure Effect where
  verdict : Verdict
  printed : List UInt8
  executed : Nat
  peak : Nat
deriving DecidableEq, Repr

/-- The account of a run with this effect: its bytes stand behind those that the console held
before, and the input of the console is untouched. -/
structure Account.Shows (account : Account) (console : Console) (effect : Effect) : Prop where
  verdict_eq : account.verdict = effect.verdict
  output_eq : account.console.output.toList = console.output.toList ++ effect.printed
  input_eq : account.console.input = console.input
  executed_eq : account.executed = effect.executed
  peak_eq : account.peak = effect.peak

theorem Account.shows_write (console : Console) (effect : Effect) :
    Account.Shows ⟨effect.verdict, console.write effect.printed, effect.executed, effect.peak⟩
      console effect where
  verdict_eq := rfl
  output_eq := Console.toList_write console effect.printed
  input_eq := rfl
  executed_eq := rfl
  peak_eq := rfl

theorem Account.shows_nothing (console : Console) (verdict : Verdict) (executed peak : Nat) :
    Account.Shows ⟨verdict, console, executed, peak⟩ console ⟨verdict, [], executed, peak⟩ where
  verdict_eq := rfl
  output_eq := (List.append_nil _).symm
  input_eq := rfl
  executed_eq := rfl
  peak_eq := rfl

namespace Machine

variable {setup : Setup}

/-- A run that has ended stays as it is. -/
theorem runFor_eq_of_ended {bound : Nat} {machine : Machine}
    (hended : (runFor setup bound machine).account.verdict ≠ .running) (more : Nat) :
    runFor setup (bound + more) machine = runFor setup bound machine := by
  induction bound generalizing machine with
  | zero => exact absurd rfl hended
  | succ bound ih =>
    rw [Nat.succ_add]
    cases htaken : step setup machine with
    | running next =>
      rw [runFor_succ_of_running _ htaken] at hended ⊢
      rw [runFor_succ_of_running _ htaken]
      exact ih hended
    | returned result last => simp only [runFor, htaken]
    | trapped trap last => simp only [runFor, htaken]

theorem runUpTo_eq_of_ended {bound later : Nat} {machine : Machine}
    (hended : (runUpTo setup bound machine).account.verdict ≠ .running) (hlater : bound ≤ later) :
    runUpTo setup later machine = runUpTo setup bound machine := by
  rcases Nat.exists_eq_add_of_le hlater with ⟨more, rfl⟩
  unfold runUpTo at hended ⊢
  cases hstart : start setup machine with
  | running first =>
    simp only [hstart] at hended ⊢
    exact runFor_eq_of_ended hended more
  | returned result last => rfl
  | trapped trap last => rfl

end Machine

/-! ## Pairings -/

namespace Pairing

open Machine

/-- Both runs have come equally far. -/
inductive Matches (pairing : Pairing) : Outcome → Outcome → Prop
  | running {machine second : Machine} (htied : pairing.bond.Tied machine second) :
      Matches pairing (.running machine) (.running second)
  | returned {result : Option Value} {machine second : Machine}
      (htied : pairing.bond.Tied machine second) :
      Matches pairing (.returned result machine) (.returned result second)
  | trapped {trap : Trap} {machine second : Machine}
      (hfailed : pairing.bond.Failed trap.fault machine second) :
      Matches pairing (.trapped trap machine) (.trapped trap second)

/-- The first run need not be followed. -/
def Strays (pairing : Pairing) : Outcome → Prop
  | .running machine => pairing.bond.Lost machine
  | .returned _ machine => pairing.bond.Lost machine
  | .trapped trap machine => pairing.bond.Excused trap.fault machine

/-- Runs that have come equally far stand alike. -/
theorem Matches.verdict_eq {pairing : Pairing} {outcome second : Outcome}
    (hmatches : pairing.Matches outcome second) :
    second.account.verdict = outcome.account.verdict := by
  cases hmatches <;> rfl

/-- The machines of runs that have come equally far are alike. -/
theorem Matches.alike {pairing : Pairing} {outcome second : Outcome}
    (hmatches : pairing.Matches outcome second) :
    pairing.Alike outcome.machine second.machine := by
  cases hmatches with
  | running htied => exact htied.2
  | returned htied => exact htied.2
  | trapped hfailed => exact hfailed.2

variable {pairing : Pairing} {setup other : Setup}

/-- Machines with the same meters run out of fuel together. -/
theorem spend_keeps (hmeters : ∀ meters second, pairing.Meters meters second ↔ second = meters)
    (hfails : ∀ {memory second : Memory}, pairing.memory.Tied memory second →
      pairing.memory.Failed .outOfFuel memory second) :
    pairing.bond.Keeps (fun _ => True) spend spend := by
  constructor
  · intro machine hlost
    rcases machine with ⟨memory, console, notes, calls, fuel, executed, peak⟩
    match fuel with
    | none => exact ⟨.intro, hlost⟩
    | some 0 => exact pairing.bond.excused_of_lost _ hlost
    | some (left + 1) => exact ⟨.intro, hlost⟩
  · intro machine second htied
    rcases machine with ⟨memory, console, notes, calls, fuel, executed, peak⟩
    rcases second with ⟨memory₂, console₂, calls₂, fuel₂, executed₂, peak₂⟩
    rcases htied with ⟨hmemory, hconsoles, hnotes, hmeter, hcalls, hpeak⟩
    cases (hmeters _ _).mp hmeter
    right
    match fuel with
    | none => exact .ok .intro ⟨hmemory, hconsoles, hnotes, (hmeters _ _).mpr rfl, hcalls, hpeak⟩
    | some 0 =>
      exact .error ⟨hfails hmemory, hconsoles, hnotes, (hmeters _ _).mpr rfl, hcalls, hpeak⟩
    | some (left + 1) =>
      exact .ok .intro ⟨hmemory, hconsoles, hnotes, (hmeters _ _).mpr rfl, hcalls, hpeak⟩

variable (hlawful : pairing.Lawful setup other)
  (hspend : pairing.bond.Keeps (fun _ => True) spend spend)
include hlawful hspend

theorem advance_keeps (frame : Frame) :
    pairing.bond.Keeps (fun _ => True) (advance setup frame) (advance other frame) := by
  unfold advance
  cases frame.routine.code[frame.ip]? with
  | none => exact leave_keeps hlawful
  | some instruction =>
    apply Bond.Keeps.bind (onCalls_keeps _)
    intro _ _
    exact .bind hspend fun _ _ => execute_keeps hlawful frame.routine instruction

/-- A step from a lost machine. -/
theorem step_strays {machine : Machine} (hlost : pairing.bond.Lost machine) :
    pairing.Strays (step setup machine) := by
  unfold step
  cases machine.calls.top? with
  | none => exact hlost
  | some frame =>
    have hadvance := (advance_keeps hlawful hspend frame).strays hlost
    simp only
    split
    · rename_i next hadvanced
      rw [hadvanced] at hadvance
      exact hadvance.2
    · rename_i result last hadvanced
      rw [hadvanced] at hadvance
      exact hadvance.2
    · rename_i fault last hadvanced
      rw [hadvanced] at hadvance
      exact hadvance

/-- One step of both machines. -/
theorem step_follows {machine second : Machine} (htied : pairing.bond.Tied machine second) :
    pairing.Strays (step setup machine) ∨
      pairing.Matches (step setup machine) (step other second) := by
  unfold step
  rw [htied.2.calls_eq]
  cases machine.calls.top? with
  | none => exact .inr (.returned htied)
  | some frame =>
    have hadvance := (advance_keeps hlawful hspend frame).agrees htied
    simp only
    generalize advance setup frame machine = found, advance other frame second = expected
      at hadvance
    rcases hadvance with hstrays | hagrees
    · left
      match found with
      | .ok .proceed next => exact hstrays.2
      | .ok (.finished result) last => exact hstrays.2
      | .error fault last => exact hstrays
    · right
      cases hagrees with
      | @ok flow state other hknown hafter =>
        cases flow with
        | proceed => exact .running hafter
        | finished result => exact .returned hafter
      | error hfailed => exact .trapped hfailed

theorem runFor_strays {bound : Nat} {machine : Machine} (hlost : pairing.bond.Lost machine) :
    pairing.Strays (runFor setup bound machine) := by
  induction bound generalizing machine with
  | zero => exact hlost
  | succ bound ih =>
    have hstep := step_strays hlawful hspend hlost
    cases htaken : step setup machine with
    | running next =>
      rw [htaken] at hstep
      rw [runFor_succ_of_running bound htaken]
      exact ih hstep
    | returned result last =>
      rw [htaken] at hstep
      simpa only [runFor, htaken] using hstep
    | trapped trap last =>
      rw [htaken] at hstep
      simpa only [runFor, htaken] using hstep

theorem runFor_follows (bound : Nat) {machine second : Machine}
    (htied : pairing.bond.Tied machine second) :
    pairing.Strays (runFor setup bound machine) ∨
      pairing.Matches (runFor setup bound machine) (runFor other bound second) := by
  induction bound generalizing machine second with
  | zero => exact .inr (.running htied)
  | succ bound ih =>
    have hstep := step_follows hlawful hspend htied
    unfold runFor
    generalize step setup machine = found, step other second = expected at hstep
    rcases hstep with hstrays | hmatches
    · left
      cases found with
      | running next => exact runFor_strays hlawful hspend hstrays
      | returned result last => exact hstrays
      | trapped trap last => exact hstrays
    · cases hmatches with
      | running hnext => exact ih hnext
      | returned hlast => exact .inr (.returned hlast)
      | trapped hlast => exact .inr (.trapped hlast)

omit hspend in
/-- The start of both runs, from machines that are tied once they are reset. -/
theorem start_follows {machine second : Machine}
    (htied : pairing.bond.Tied (machine.reset setup.limits) (second.reset other.limits)) :
    pairing.Strays (start setup machine) ∨
      pairing.Matches (start setup machine) (start other second) := by
  unfold start
  rw [hlawful.module_eq]
  cases setup.module.entry with
  | error cause => exact .inr (.trapped ⟨hlawful.fails nofun htied.1, htied.2⟩)
  | ok main =>
    have henter := (enter_keeps hlawful main).agrees htied
    simp only
    generalize enter setup.limits main (machine.reset setup.limits) = found,
      enter other.limits main (second.reset other.limits) = expected at henter
    rcases henter with hstrays | hagrees
    · left
      match found with
      | .ok () first => exact hstrays.2
      | .error fault last => exact hstrays
    · right
      cases hagrees with
      | ok hknown hafter => exact .running hafter
      | error hfailed => exact .trapped hfailed

/-- Whole runs: after any number of steps the second one has come as far as the first one,
unless that need not be followed. -/
theorem runUpTo_follows (bound : Nat) {machine second : Machine}
    (htied : pairing.bond.Tied (machine.reset setup.limits) (second.reset other.limits)) :
    pairing.Strays (runUpTo setup bound machine) ∨
      pairing.Matches (runUpTo setup bound machine) (runUpTo other bound second) := by
  have hstart := start_follows hlawful htied
  unfold runUpTo
  generalize start setup machine = found, start other second = expected at hstart
  rcases hstart with hstrays | hmatches
  · left
    match found with
    | .running first => exact runFor_strays hlawful hspend hstrays
    | .returned result last => exact hstrays
    | .trapped trap last => exact hstrays
  · cases hmatches with
    | running hfirst => exact runFor_follows hlawful hspend bound hfirst
    | returned hlast => exact .inr (.returned hlast)
    | trapped hlast => exact .inr (.trapped hlast)

end Pairing

end StackCode
