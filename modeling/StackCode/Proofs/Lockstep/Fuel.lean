import StackCode.Proofs.Lockstep.Metering
import StackCode.Proofs.Lockstep.Runs
import StackCode.Proofs.Machine.CallSpan

/-!
# Runs with more or less fuel

A budget of fuel ends every run, although returning past the end of a routine costs
nothing: each fetched instruction opens one activation at most, and each return closes one.
Until its budget is spent, a run does what it would do with any larger one.

Main definitions:

- `Machine.fetchesUpTo`: the places of the instructions that a run fetches.
- `Account.OutOfFuel`: a run that ended because its budget was spent.

Main results:

- Theorem `Machine.runUpTo_ends`: every run with a budget ends.
- Theorem `Machine.runUpTo_paces`: a run with a larger budget.
- Theorem `Machine.fuel_transparent`: what a run with a budget says about every run with a
  larger one.
-/

namespace StackCode

@[simp]
theorem Outcome.account_withFuel (outcome : Outcome) (fuel : Option Nat) :
    (outcome.withFuel fuel).account = outcome.account := by
  cases outcome <;> rfl

/-- The run ended because its fuel was spent. -/
def Account.OutOfFuel (account : Account) : Prop :=
  ∃ trap, account.verdict = .trapped trap ∧ trap.fault = .outOfFuel

namespace Machine

/-! ## Steps of a run -/

section Steps

variable {setup : Setup} {machine next : Machine}

/-- A machine that goes on could pay for the step. -/
theorem canPay_of_running (hstep : step setup machine = .running next) : machine.CanPay := by
  by_contra hpoor
  rcases step_exhausted hpoor setup with ⟨routine, ip, last, -, -, htrapped, -⟩
  simp [htrapped] at hstep

/-- A machine that can pay has fuel for what it fetches. -/
theorem CanPay.fetchCount_le {left : Nat} (hpaid : machine.CanPay)
    (hfuel : machine.fuel = some left) : machine.fetchCount ≤ left := by
  unfold fetchCount
  cases hfetch : machine.fetch? with
  | none => simp
  | some place =>
    have hrich : left ≠ 0 := by simpa [CanPay, hfetch, hfuel] using hpaid
    simp
    omega

/-- A step that was paid for, on its own. -/
theorem step_paces_self (setup : Setup) (hpaid : machine.CanPay) :
    Paces machine machine.fuel (step setup machine) (step setup machine) :=
  step_paces hpaid hpaid setup setup.limits.fuel

/-- A step only adds to what was printed. -/
theorem step_printed (setup : Setup) (machine : Machine) :
    machine.console.output.toList <+: (step setup machine).machine.console.output.toList := by
  by_cases hpaid : machine.CanPay
  · exact (step_paces_self setup hpaid).printed
  · rcases step_exhausted hpaid setup with ⟨routine, ip, last, -, -, htrapped, -, hconsole⟩
    rw [htrapped]
    have hsame : machine.console.output.toList = last.console.output.toList := by rw [hconsole]
    exact hsame ▸ List.prefix_rfl

/-- A step that goes on counts what it fetches. -/
theorem executed_of_running (hstep : step setup machine = .running next) :
    next.executed = machine.executed + machine.fetchCount := by
  have hpaces := step_paces_self setup (canPay_of_running hstep)
  simpa [hstep, Outcome.machine] using hpaces.executed_eq

/-- A step that goes on takes fuel for what it fetches. -/
theorem fuel_of_running (hstep : step setup machine = .running next) {left : Nat}
    (hfuel : machine.fuel = some left) :
    ∃ rest, next.fuel = some rest ∧ rest + machine.fetchCount = left := by
  have hpaid := canPay_of_running hstep
  have hpaces := step_paces_self setup hpaid
  have hafter : next.fuel = some (left - machine.fetchCount) := by
    simpa [hstep, Outcome.machine, hfuel] using hpaces.fuel_eq
  have hcount := hpaid.fetchCount_le hfuel
  exact ⟨_, hafter, by omega⟩

end Steps

/-! ## The instructions that a run fetches -/

/-- The places of the instructions that at most `bound` steps fetch, in order. -/
def fetchesFor (setup : Setup) : Nat → Machine → List (String × Nat)
  | 0, _ => []
  | bound + 1, machine =>
    machine.fetch?.toList ++
      match step setup machine with
      | .running next => fetchesFor setup bound next
      | _ => []

/-- The places of the instructions that at most `bound` steps from the entry of a module
fetch, in order. -/
def fetchesUpTo (setup : Setup) (bound : Nat) (machine : Machine) : List (String × Nat) :=
  match start setup machine with
  | .running first => fetchesFor setup bound first
  | _ => []

section Fetches

variable {setup : Setup} {machine current : Machine}

/-- What is fetched can be cut where the run is still going. -/
theorem fetchesFor_add {steps : Nat} (hrun : runFor setup steps machine = .running current)
    (more : Nat) :
    fetchesFor setup (steps + more) machine =
      fetchesFor setup steps machine ++ fetchesFor setup more current := by
  induction steps generalizing machine with
  | zero =>
    cases hrun
    simp [fetchesFor]
  | succ steps ih =>
    rw [Nat.succ_add]
    cases htaken : step setup machine with
    | running next =>
      rw [runFor_succ_of_running steps htaken] at hrun
      simp only [fetchesFor, htaken]
      rw [ih hrun, List.append_assoc]
    | returned result last => simp [runFor, htaken] at hrun
    | trapped trap last => simp [runFor, htaken] at hrun

/-- A run counts the instructions that it fetches. -/
theorem length_fetchesFor {steps : Nat} (hrun : runFor setup steps machine = .running current) :
    current.executed = machine.executed + (fetchesFor setup steps machine).length := by
  induction steps generalizing machine with
  | zero =>
    cases hrun
    rfl
  | succ steps ih =>
    cases htaken : step setup machine with
    | running next =>
      rw [runFor_succ_of_running steps htaken] at hrun
      have hcount := executed_of_running htaken
      have hrest := ih hrun
      simp only [fetchesFor, htaken, List.length_append]
      unfold fetchCount at hcount
      omega
    | returned result last => simp [runFor, htaken] at hrun
    | trapped trap last => simp [runFor, htaken] at hrun

/-- What is fetched next stands after all that was fetched before. -/
theorem getElem?_fetchesFor {steps : Nat} {place : String × Nat}
    (hrun : runFor setup steps machine = .running current) (hfetch : current.fetch? = some place)
    (hfresh : machine.executed = 0) (more : Nat) :
    (fetchesFor setup (steps + (more + 1)) machine)[current.executed]? = some place := by
  have hlength := length_fetchesFor hrun
  rw [hfresh, Nat.zero_add] at hlength
  rw [fetchesFor_add hrun, hlength, List.getElem?_append_right (Nat.le_refl _), Nat.sub_self]
  simp [fetchesFor, hfetch]

/-- A run only adds to what was printed. -/
theorem runFor_printed (setup : Setup) (bound : Nat) (machine : Machine) :
    machine.console.output.toList <+:
      (runFor setup bound machine).machine.console.output.toList := by
  induction bound generalizing machine with
  | zero => exact List.prefix_rfl
  | succ bound ih =>
    have hstep := step_printed setup machine
    cases htaken : step setup machine with
    | running next =>
      rw [htaken] at hstep
      rw [runFor_succ_of_running bound htaken]
      exact hstep.trans (ih next)
    | returned result last =>
      rw [htaken] at hstep
      simpa only [runFor, htaken] using hstep
    | trapped trap last =>
      rw [htaken] at hstep
      simpa only [runFor, htaken] using hstep

end Fetches

/-! ## Every run with a budget ends -/

section Ending

variable {setup : Setup} {machine next : Machine} {peak : Nat}

/-- A step opens one activation at most. -/
theorem depth_le_of_running (hframed : machine.Framed setup.limits peak)
    (hstep : step setup machine = .running next) :
    next.calls.depth ≤ machine.calls.depth + 1 := by
  rcases hframed with ⟨layers, hpiled⟩
  have hensues := step_moves hpiled
  rw [hstep] at hensues
  rcases hensues with ⟨after, hmoves, hnext⟩
  rw [hnext.depth_eq, hpiled.depth_eq]
  cases hmoves <;> simp

/-- A step that fetches nothing closes an activation. -/
theorem depth_of_fetch?_none (hframed : machine.Framed setup.limits peak)
    (hfetch : machine.fetch? = none) (hstep : step setup machine = .running next) :
    next.calls.depth + 1 = machine.calls.depth := by
  rcases hframed with ⟨layers, hpiled⟩
  rcases List.exists_cons_of_ne_nil hpiled.active with ⟨layer, lower, rfl⟩
  have htop := hpiled.top?_eq
  have hleave : advance setup (.placed layer.routine layer.ip (totalSize (layerTypes lower))) =
      leave := by
    have hcode : layer.routine.code[layer.ip]? = none := by
      simpa [fetch?, htop, Frame.placed] using hfetch
    unfold advance
    simp only [Frame.placed, hcode]
  rw [step_eq_conclude htop, hleave] at hstep
  have hcloses := leave_closes setup.limits layer layer.ip machine hpiled.layered
  cases hresult : leave machine with
  | error fault last => simp [hresult, conclude] at hstep
  | ok flow after =>
    rw [hresult] at hstep hcloses
    cases flow with
    | finished result => simp [conclude] at hstep
    | proceed =>
      cases hstep
      rcases hcloses with ⟨caller, rest, ip, rfl, hresumed⟩
      rw [hpiled.depth_eq, next.calls.depth_eq, hresumed.frames_eq, length_layerFrames]
      rfl

/-- A budget bounds the number of steps: twice the fuel that is left and the number of open
activations go down with every step. -/
theorem runFor_ends {bound left : Nat} (hframed : machine.Framed setup.limits peak)
    (hfuel : machine.fuel = some left) (hbound : 2 * left + machine.calls.depth ≤ bound) :
    (runFor setup bound machine).account.verdict ≠ .running := by
  induction bound generalizing machine peak left with
  | zero =>
    exfalso
    rcases hframed with ⟨layers, hpiled⟩
    have hsome := List.length_pos_iff.mpr hpiled.active
    rw [hpiled.depth_eq] at hbound
    omega
  | succ bound ih =>
    have hnext := step_framed hframed
    cases htaken : step setup machine with
    | returned result last =>
      simp only [runFor, htaken]
      rintro ⟨⟩
    | trapped trap last =>
      simp only [runFor, htaken]
      rintro ⟨⟩
    | running next =>
      rw [htaken] at hnext
      rw [runFor_succ_of_running bound htaken]
      rcases fuel_of_running htaken hfuel with ⟨rest, hrest, hpaid⟩
      apply ih hnext hrest
      cases hfetch : machine.fetch? with
      | none =>
        have hdepth := depth_of_fetch?_none hframed hfetch htaken
        simp [fetchCount, hfetch] at hpaid
        omega
      | some place =>
        have hdepth := depth_le_of_running hframed htaken
        simp [fetchCount, hfetch] at hpaid
        omega

end Ending

/-! ## Other budgets -/

/-- An amount of fuel that is at least as large as another one, or unlimited. -/
def Affords (left : Nat) (fuel : Option Nat) : Prop := ∀ limit, fuel = some limit → left ≤ limit

section Budgets

variable {setup : Setup} {machine : Machine} {fuel : Option Nat} {left : Nat}

/-- The start of a run: it takes no fuel, and does the same with every budget. -/
structure StartsFree (setup : Setup) (budget : Option Nat) (outcome second : Outcome) : Prop where
  fuel_eq : outcome.machine.fuel = setup.limits.fuel
  executed_eq : outcome.machine.executed = 0
  spares : ¬ outcome.account.OutOfFuel
  second_eq : second = outcome.withFuel budget

theorem start_free (setup : Setup) (budget fuel : Option Nat) (machine : Machine) :
    StartsFree setup budget (start setup machine)
      (start (setup.withFuel budget) (machine.withFuel fuel)) := by
  have hmodule : (setup.withFuel budget).module = setup.module := rfl
  unfold start
  rw [hmodule]
  cases setup.module.entry with
  | error cause =>
    refine ⟨rfl, rfl, ?_, rfl⟩
    intro hspent
    rcases hspent with ⟨trap, hverdict, hfault⟩
    cases hverdict
    cases hfault
  | ok main =>
    have henter := enter_unmetered (machine.reset setup.limits) budget setup budget main
    have hreset : (machine.withFuel fuel).reset (setup.withFuel budget).limits =
        (machine.reset setup.limits).withFuel budget := rfl
    rw [hreset]
    simp only
    generalize enter setup.limits main (machine.reset setup.limits) = found,
      enter (setup.withFuel budget).limits main ((machine.reset setup.limits).withFuel budget) =
        expected at henter
    cases henter with
    | ok hextends =>
      refine ⟨hextends.fuel_eq, hextends.executed_eq, ?_, rfl⟩
      intro hspent
      rcases hspent with ⟨trap, hverdict, -⟩
      cases hverdict
    | error hfault hextends =>
      refine ⟨hextends.fuel_eq, hextends.executed_eq, ?_, rfl⟩
      intro hspent
      rcases hspent with ⟨trap, hverdict, hspent⟩
      cases hverdict
      exact hfault hspent

/-- A machine that can pay can do so with more fuel. -/
theorem CanPay.of_affords (hpaid : machine.CanPay) (hfuel : machine.fuel = some left)
    (hmore : Affords left fuel) : (machine.withFuel fuel).CanPay := by
  rcases hpaid with hfetch | hrich
  · exact .inl hfetch
  · right
    change fuel ≠ some 0
    intro hempty
    have hnone := hmore 0 hempty
    rw [hfuel] at hrich
    simp at hrich
    omega

/-- Steps with more fuel lead to the same, unless the fuel is spent. -/
theorem runFor_paces (bound : Nat) (hfuel : machine.fuel = some left) (hmore : Affords left fuel)
    (setup : Setup) (budget : Option Nat) :
    (runFor setup bound machine).account.OutOfFuel ∨ ∃ rest,
      runFor (setup.withFuel budget) bound (machine.withFuel fuel) =
        (runFor setup bound machine).withFuel rest := by
  induction bound generalizing machine left fuel with
  | zero => exact .inr ⟨fuel, rfl⟩
  | succ bound ih =>
    by_cases hpaid : machine.CanPay
    · have hpaces := step_paces hpaid (hpaid.of_affords hfuel hmore) setup budget
      have hcount := hpaid.fetchCount_le hfuel
      rcases hpaces with ⟨hafter, -, -, -, hsecond⟩
      unfold runFor
      rw [hsecond]
      generalize step setup machine = found at hafter
      cases found with
      | returned result last => exact .inr ⟨_, rfl⟩
      | trapped trap last => exact .inr ⟨_, rfl⟩
      | running next =>
        rw [hfuel, Option.map_some] at hafter
        apply ih hafter
        intro limit hlimit
        rcases Option.map_eq_some_iff.mp hlimit with ⟨whole, hwhole, rfl⟩
        have hle := hmore whole hwhole
        omega
    · rcases step_exhausted hpaid setup with ⟨routine, ip, last, -, -, htrapped, -⟩
      left
      simp only [runFor, htrapped]
      exact ⟨_, rfl, rfl⟩

variable {budget : Option Nat}

/-- A run with a larger budget leads to the same, unless the smaller one is spent. -/
theorem runUpTo_paces (bound : Nat) (hbudget : setup.limits.fuel = some left)
    (hmore : Affords left budget) (fuel : Option Nat) (machine : Machine) :
    (runUpTo setup bound machine).account.OutOfFuel ∨ ∃ rest,
      runUpTo (setup.withFuel budget) bound (machine.withFuel fuel) =
        (runUpTo setup bound machine).withFuel rest := by
  rcases start_free setup budget fuel machine with ⟨hfuel, -, -, hsecond⟩
  unfold runUpTo
  rw [hsecond]
  generalize start setup machine = found at hfuel
  cases found with
  | running first => exact runFor_paces bound (hfuel.trans hbudget) hmore setup budget
  | returned result last => exact .inr ⟨_, rfl⟩
  | trapped trap last => exact .inr ⟨_, rfl⟩

/-- A run with a budget ends: a return past the end of a routine costs nothing, but there
are no more of them than activations. -/
theorem runUpTo_ends (hbudget : setup.limits.fuel = some left)
    (hsound : machine.Sound setup.limits.capacity) {bound : Nat} (hbound : 2 * left + 1 ≤ bound) :
    (runUpTo setup bound machine).account.verdict ≠ .running := by
  have hframed := start_framed setup hsound
  rcases start_free setup none none machine with ⟨hfuel, -⟩
  unfold runUpTo
  cases hstart : start setup machine with
  | running first =>
    rw [hstart] at hframed hfuel
    apply runFor_ends hframed.1 (hfuel.trans hbudget)
    rw [hframed.2]
    exact hbound
  | returned result last => exact nofun
  | trapped trap last => exact nofun

/-- What is left of a budget and what was counted make up the whole. -/
theorem runFor_budget {steps : Nat} {current : Machine} (hfuel : machine.fuel = some left)
    (hrun : runFor setup steps machine = .running current) :
    ∃ rest, current.fuel = some rest ∧ rest + current.executed = left + machine.executed := by
  induction steps generalizing machine left with
  | zero =>
    cases hrun
    exact ⟨left, hfuel, rfl⟩
  | succ steps ih =>
    cases htaken : step setup machine with
    | running next =>
      rw [runFor_succ_of_running steps htaken] at hrun
      rcases fuel_of_running htaken hfuel with ⟨rest, hrest, hpaid⟩
      rcases ih hrest hrun with ⟨last, hlast, htotal⟩
      have hcount := executed_of_running htaken
      exact ⟨last, hlast, by omega⟩
    | returned result last => simp [runFor, htaken] at hrun
    | trapped trap last => simp [runFor, htaken] at hrun

/-- The end of a run whose budget is spent: after some steps the machine has executed as many
instructions as it could pay for, and it traps where it fetches one more. -/
structure Exhausts (setup : Setup) (bound left : Nat) (machine : Machine) (trap : Trap)
    (last current : Machine) (steps : Nat) : Prop where
  steps_lt : steps < bound
  running : runUpTo setup steps machine = .running current
  executed_eq : current.executed = left
  fetch_eq : current.fetch? = some (trap.routine, trap.instruction)
  last_executed_eq : last.executed = left + 1
  last_console_eq : last.console = current.console

theorem exists_exhausts {bound : Nat} {trap : Trap} {last : Machine}
    (hbudget : setup.limits.fuel = some left)
    (hrun : runUpTo setup bound machine = .trapped trap last) (hspent : trap.fault = .outOfFuel) :
    ∃ current steps, Exhausts setup bound left machine trap last current steps := by
  rcases start_free setup none none machine with ⟨hfuel, hfresh, hspares, -⟩
  rcases exists_last_step hrun nofun with hstart | ⟨steps, current, hrunning, hstep⟩
  · rw [hstart] at hspares
    exact absurd ⟨trap, rfl, hspent⟩ hspares
  · -- A step that can be paid for never lacks fuel.
    have hpoor : ¬ current.CanPay :=
      fun hpaid => (step_paces_self setup hpaid).spares hstep hspent
    rcases step_exhausted hpoor setup with
      ⟨routine, ip, found, hfetch, hempty, htrapped, hexecuted, hconsole⟩
    rw [hstep] at htrapped
    cases htrapped
    have hbefore : steps < bound := by
      by_contra hlater
      have hended : (runUpTo setup bound machine).account.verdict ≠ .running := by
        rw [hrun]
        exact nofun
      have hsame := runUpTo_eq_of_ended hended (Nat.not_lt.mp hlater)
      simp [hrunning, hrun] at hsame
    have htotal : current.executed = left := by
      unfold runUpTo at hrunning
      cases hfirst : start setup machine with
      | returned result last => simp [hfirst] at hrunning
      | trapped trap last => simp [hfirst] at hrunning
      | running first =>
        simp only [hfirst, Outcome.machine] at hrunning hfuel hfresh
        rcases runFor_budget (hfuel.trans hbudget) hrunning with ⟨rest, hrest, hsum⟩
        rw [hempty] at hrest
        cases hrest
        omega
    exact ⟨current, steps, hbefore, hrunning, htotal, hfetch, by omega, hconsole⟩

end Budgets

/-! ## Fuel is transparent -/

/-- Where a run with a larger budget passes, when the run with the smaller one has ended for
lack of fuel. -/
theorem Exhausts.passes {setup : Setup} {bound left steps : Nat} {machine last current : Machine}
    {trap : Trap} {budget : Option Nat} (fuel : Option Nat)
    (hexhausts : Exhausts setup bound left machine trap last current steps)
    (hbudget : setup.limits.fuel = some left) (hmore : Affords left budget) :
    (fetchesUpTo (setup.withFuel budget) bound (machine.withFuel fuel))[left]? =
        some (trap.routine, trap.instruction) ∧
      last.console.output.toList <+: (runUpTo (setup.withFuel budget) bound
        (machine.withFuel fuel)).machine.console.output.toList := by
  rcases hexhausts with ⟨hbefore, hrunning, hexecuted, hfetch, -, hconsole⟩
  rcases Nat.exists_eq_add_of_lt hbefore with ⟨more, rfl⟩
  have hpaces := runUpTo_paces steps hbudget hmore fuel machine
  rw [hrunning] at hpaces
  rcases hpaces with ⟨spent, hverdict, -⟩ | ⟨rest, hsecond⟩
  · cases hverdict
  · rcases start_free setup budget fuel machine with ⟨-, hfresh, -, hstart⟩
    unfold runUpTo fetchesUpTo at *
    rw [hstart] at hsecond ⊢
    cases hfirst : start setup machine with
    | returned result last => simp [hfirst] at hrunning
    | trapped trap last => simp [hfirst] at hrunning
    | running first =>
      rw [hfirst] at hsecond hfresh
      simp only [Outcome.withFuel] at hsecond ⊢
      constructor
      · have hplace := getElem?_fetchesFor hsecond hfetch hfresh more
        rw [← hexecuted]
        exact hplace
      · rw [Nat.add_assoc, runFor_add_of_running hsecond, hconsole]
        exact runFor_printed _ (more + 1) (current.withFuel rest)

/-- What a run with a budget of `n` says about every run with a larger or an unlimited one, on
a new machine with any host and any console.  It ends.  If it ends for another reason than a
lack of fuel, the other run has the same result or trap, console and counters.  Otherwise it
has counted one instruction more than its budget, it has trapped where the other run fetches
that instruction, and all that it printed is printed by the other run as well. -/
theorem fuel_transparent (setup : Setup) (console : Console) {n : Nat} {more : Option Nat}
    (hmore : ∀ limit, more = some limit → n ≤ limit) {bound : Nat} (hbound : 2 * n + 1 ≤ bound) :
    let scarce := setup.withFuel (some n)
    let ample := setup.withFuel more
    let account := (runUpTo scarce bound (.new scarce.limits console)).account
    let other := (runUpTo ample bound (.new ample.limits console)).account
    account.verdict ≠ .running ∧
      (¬ account.OutOfFuel → other = account) ∧
      ∀ trap, account.verdict = .trapped trap → trap.fault = .outOfFuel →
        account.executed = n + 1 ∧
        (fetchesUpTo ample bound (.new ample.limits console))[n]? =
          some (trap.routine, trap.instruction) ∧
        account.console.output.toList <+: other.console.output.toList := by
  intro scarce ample account other
  have hbudget : scarce.limits.fuel = some n := rfl
  have hsound : (Machine.new scarce.limits console).Sound scarce.limits.capacity :=
    (Reachable.new console).sound
  have hended := runUpTo_ends hbudget hsound hbound
  refine ⟨hended, ?_, ?_⟩
  · intro hspares
    rcases runUpTo_paces bound hbudget hmore more (.new scarce.limits console) with
      hspent | ⟨rest, hsecond⟩
    · exact absurd hspent hspares
    · change (runUpTo (scarce.withFuel more) bound
        ((Machine.new scarce.limits console).withFuel more)).account = account
      rw [hsecond, Outcome.account_withFuel]
  · intro trap hverdict hspent
    cases hrun : runUpTo scarce bound (.new scarce.limits console) with
    | running current => exact absurd (congrArg (·.account.verdict) hrun) hended
    | returned result last =>
      simp only [account, hrun] at hverdict
      cases hverdict
    | trapped found last =>
      simp only [account, hrun] at hverdict ⊢
      cases hverdict
      rcases exists_exhausts hbudget hrun hspent with ⟨current, steps, hexhausts⟩
      exact ⟨hexhausts.last_executed_eq, hexhausts.passes more hbudget hmore⟩

/-- A budget of twelve is spent in the loop that prints numbers, where the thirteenth
instruction is fetched.  One of forty is enough, and an unlimited one makes no difference. -/
theorem fuel_transparent_counting :
    let scarce := counting.withFuel (some 12)
    let enough := counting.withFuel (some 40)
    let ample := counting.withFuel none
    (runUpTo scarce 25 (.new scarce.limits (.new []))).account.executed = 13 ∧
      (fetchesUpTo ample 25 (.new ample.limits (.new [])))[12]? = some ("count", 6) ∧
      (runUpTo ample 81 (.new ample.limits (.new []))).account =
        (runUpTo enough 81 (.new enough.limits (.new []))).account := by
  intro scarce enough ample
  have hspent := (@fuel_transparent counting (.new []) 12 none nofun 25 (by decide)).2.2
    ⟨.outOfFuel, "count", 6⟩ (by decide +kernel) rfl
  have hsame := (@fuel_transparent counting (.new []) 40 none nofun 81 (by decide)).2.1
  refine ⟨hspent.1, hspent.2.1, hsame ?_⟩
  have hverdict : (runUpTo enough 81 (.new enough.limits (.new []))).account.verdict =
      .returned none := by decide +kernel
  intro houtOfFuel
  rcases houtOfFuel with ⟨trap, htrapped, -⟩
  rw [hverdict] at htrapped
  cases htrapped

end Machine

end StackCode
