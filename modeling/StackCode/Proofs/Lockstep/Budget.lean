import Mathlib.Data.Nat.Find
import StackCode.Proofs.Lockstep.Fuel

/-!
# How long a budget lasts

A run with a budget of fuel takes a bounded number of steps.  Not every step is paid for:
running past the end of a routine returns from it at no cost, and a program can send its own
callers past their ends by overwriting the positions that it saved.  Each such return closes
an activation that a paid call has opened, so a budget of `n` allows at most `n` calls and
`n + 1` returns that cost nothing.

Main definition:

- `Machine.Lasts`: the number of steps that a run takes before it ends.

Main results:

- Theorem `Machine.exists_lasts`: a run that ends lasts some number of steps.
- Theorem `Machine.lasts_of_budget`: a budget of `n` lasts at most `2 * n + 2` steps.
-/

namespace StackCode.Machine

/-- A run of the module from a machine takes exactly `steps` steps: it is still going after
fewer, and has ended after as many. -/
def Lasts (setup : Setup) (machine : Machine) (steps : Nat) : Prop :=
  ∀ bound, (runUpTo setup bound machine).account.verdict = .running ↔ bound < steps

/-- A run that has ended after some number of steps lasts at most that long. -/
theorem exists_lasts {setup : Setup} {machine : Machine} {bound : Nat}
    (hended : (runUpTo setup bound machine).account.verdict ≠ .running) :
    ∃ steps ≤ bound, Lasts setup machine steps := by
  have hends : ∃ steps, (runUpTo setup steps machine).account.verdict ≠ .running := ⟨bound, hended⟩
  refine ⟨Nat.find hends, Nat.find_min' hends hended, fun other => ?_⟩
  constructor
  · intro hrunning
    by_contra hlater
    rw [runUpTo_eq_of_ended (Nat.find_spec hends) (Nat.not_lt.mp hlater)] at hrunning
    exact Nat.find_spec hends hrunning
  · intro hearlier
    exact not_not.mp (Nat.find_min hends hearlier)

/-- A budget of fuel stops every run, of any module with any limits, host and console, on a
machine that may have run before.  The loop goes round at most twice for each unit of the
budget and twice more. -/
theorem lasts_of_budget {setup : Setup} {machine : Machine} {n : Nat}
    (hbudget : setup.limits.fuel = some n) (hreachable : Reachable setup machine) :
    ∃ steps ≤ 2 * n + 2, Lasts setup machine steps := by
  have hended : (runUpTo setup (2 * n + 1) machine).account.verdict ≠ .running :=
    runUpTo_ends hbudget hreachable.sound (Nat.le_refl _)
  rcases exists_lasts hended with ⟨steps, hle, hlasts⟩
  exact ⟨steps, by omega, hlasts⟩

/-- A machine for a routine that overwrites its saved position, which lies four bytes below
its local, so that its caller goes on past its own end.  The budget pays for exactly the
instructions that are fetched. -/
def redirecting : Setup :=
  let main : Routine :=
    { Routine.empty 0 entryName with
      code := #[.callDefinition 1, .pushConst (.zero .i32), .typed .print .i32] }
  let redirect : Routine :=
    { Routine.empty 1 "redirect" with
      locals := #[.i32]
      code := #[
        .pushLocalAddress 0,
        .pushConst (.pointer 4),
        .typed .subtract .pointer,
        .pushConst ⟨.u32, 999⟩,
        .typed .store .u32] }
  ⟨⟨"redirect", [.routine main, .routine redirect], .empty⟩, ⟨1024, 4, some 6⟩, .empty⟩

/-- The run returns without printing after six instructions and two returns that cost
nothing. -/
theorem lasts_of_budget_redirecting :
    (∃ steps ≤ 14, Lasts redirecting (.new redirecting.limits (.new [])) steps) ∧
      (runUpTo redirecting 7 (.new redirecting.limits (.new []))).account.verdict = .running ∧
      (runUpTo redirecting 8 (.new redirecting.limits (.new []))).account =
        ⟨.returned none, .new [], 6, 2⟩ :=
  ⟨@lasts_of_budget redirecting _ 6 rfl (.new (.new [])), by decide +kernel, by decide +kernel⟩

end StackCode.Machine
