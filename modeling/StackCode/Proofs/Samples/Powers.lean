import StackCode.Proofs.Numeric.Wrapping
import StackCode.Proofs.Samples.Construction
import StackCode.Proofs.Structured.Execution

/-!
# The recursion sample

The routine calls itself with an exponent that is one less, until the exponent is one.
Every waiting activation keeps the base among its operands, and multiplies with it on the
way back.  A run therefore descends as many levels as the exponent says, wrapped around
below zero; where these are more than calls may be nested, it fails at the last call that
is left, long before the arena is full.

Main definitions:

- `Samples.raising`: an activation of the routine.
- `Samples.Low`: activations that leave enough of the arena to those above them.

Main results:

- Theorem `Samples.steps_descend`: one call.
- Theorem `Samples.steps_raise`: a power, from its call to its return.
- Theorem `Samples.runFor_descend`: a descent that is too deep.
- Theorem `Samples.account_run_pow`: the whole run.
-/

namespace StackCode.Samples

open Structured (Activation Surface State Steps usedBytes packedSize)

/-! ## States of the run -/

/-- The routine that starts the computation. -/
def powMain (base exponent : Int) : Routine := ((pow base exponent).routine? 0).getD default

/-- The routine that computes a power. -/
def power : Routine := ((pow 0 0).routine? 1).getD default

/-- A call of the routine that computes a power. -/
def raising (base exponent : Int) (resume : Nat) : Activation :=
  .opened power [.ofInt .i32 base, .ofInt .i32 exponent] resume

/-- An activation that has called the routine for the next lower exponent. -/
def waiting (base exponent : Int) (resume : Nat) : Activation :=
  (raising base exponent resume).after 11 [.ofInt .i32 base]

/-- What a computation shows before its result is printed. -/
def powShown (console : Console) (executed peak : Nat) : Surface :=
  ⟨console, ⟨0, []⟩, none, executed, peak⟩

/-- The activations take up at most 24 bytes for each of them. -/
def Low (callers : List Activation) : Prop := usedBytes callers ≤ 24 * callers.length

theorem low_waiting {callers : List Activation} (hlow : Low callers) (base exponent : Int)
    (resume : Nat) : Low (waiting base exponent resume :: callers) := by
  have hsize : (waiting base exponent resume).size = 24 := rfl
  unfold Low at *
  rw [Structured.usedBytes_cons, hsize, List.length_cons]
  omega

/-- However deep the calls are nested, a level has room for three operands. -/
theorem level_room {callers : List Activation} (hlow : Low callers)
    (hdepth : callers.length < Limits.default.maxCallDepth) (base exponent : Int)
    (resume ip : Nat) {operands : List Value} (hfew : packedSize operands ≤ 12) :
    usedBytes ((raising base exponent resume).after ip operands :: callers) ≤
      Limits.default.capacity := by
  have hsize : ((raising base exponent resume).after ip operands).size =
      20 + packedSize operands := rfl
  have hcapacity : Limits.default.capacity = 1048576 := rfl
  have hmost : Limits.default.maxCallDepth = 16384 := rfl
  unfold Low at hlow
  rw [Structured.usedBytes_cons, hsize]
  omega

/-! ## The descent -/

section Levels

variable {base exponent : Int} {callers : List Activation} {resume : Nat}

/-- The test, which leads to the recursive case or past it. -/
theorem steps_compare (hlow : Low callers) (hdepth : callers.length < Limits.default.maxCallDepth)
    (n : Int) (console : Console) (executed peak : Nat) :
    Steps (pow base exponent) .default 3
      ⟨raising base n resume, callers, powShown console executed peak⟩
      ⟨(raising base n resume).after (if n.bmod (2 ^ 32) ≠ 1 then 3 else 4) [], callers,
        powShown console (executed + 3) peak⟩ := by
  have hcompare := @Numeric.compare_notEqual .i32 (by decide) n 1
  have hexponent := @Structured.step_push (pow base exponent) .default (raising base n resume)
    callers (powShown console executed peak) 0 [] (.argument 1) (.ofInt .i32 n) rfl rfl rfl
    (Value.kept_i32 n) (level_room hlow hdepth _ _ _ _ (by simp [DataType.size]))
  refine .cons hexponent ?_
  refine .cons (Structured.step_push rfl rfl rfl (Value.kept_i32 1)
    (level_room hlow hdepth _ _ _ _ (by simp [DataType.size]))) ?_
  refine .cons (Structured.step_guard rfl rfl rfl rfl rfl hcompare) ?_
  simp only [decide_eq_true_eq]
  exact .refl _ _ _

/-- The recursive case, up to the call for the next lower exponent. -/
theorem steps_prepare (hlow : Low callers) (hdepth : callers.length < Limits.default.maxCallDepth)
    {n : Int} (hn : n.bmod (2 ^ 32) ≠ 1) (console : Console) (executed peak : Nat) :
    Steps (pow base exponent) .default 8
      ⟨raising base n resume, callers, powShown console executed peak⟩
      ⟨(raising base n resume).after 10
          ([.ofInt .i32 base, .ofInt .i32 (n - 1)].reverse ++ [.ofInt .i32 base]), callers,
        powShown console (executed + 8) peak⟩ := by
  have hless := @Numeric.unary_decrement .i32 (by decide) n
  have hrecurse : power.target? 0 = some 6 := rfl
  have hinside : 6 ≤ power.code.size := Nat.le_of_ble_eq_true rfl
  have htest := @steps_compare base exponent callers resume hlow hdepth n console executed peak
  rw [if_pos hn] at htest
  refine @Steps.trans _ _ _ _ _ 3 5 htest ?_
  refine .cons (Structured.step_jump rfl rfl hrecurse hinside) ?_
  refine .cons (Structured.step_push rfl rfl rfl (Value.kept_i32 base)
    (level_room hlow hdepth _ _ _ _ (by simp [DataType.size]))) ?_
  refine .cons (Structured.step_push rfl rfl rfl (Value.kept_i32 base)
    (level_room hlow hdepth _ _ _ _ (by simp [DataType.size]))) ?_
  refine .cons (Structured.step_push rfl rfl rfl (Value.kept_i32 n)
    (level_room hlow hdepth _ _ _ _ (by simp [DataType.size]))) ?_
  refine .cons (Structured.step_typed rfl rfl rfl (Structured.typed_unary rfl (by decide) rfl hless
    (Value.kept_i32 (n - 1)) (level_room hlow hdepth _ _ _ _ (by simp [DataType.size])))) ?_
  exact .refl _ _ _

/-- One level down, where calls may be nested deeper. -/
theorem steps_descend (hlow : Low callers)
    (hdepth : callers.length + 1 < Limits.default.maxCallDepth) {n : Int}
    (hn : n.bmod (2 ^ 32) ≠ 1) (console : Console) (executed : Nat) :
    Steps (pow base exponent) .default 9
      ⟨raising base n resume, callers, powShown console executed (callers.length + 1)⟩
      ⟨raising base (n - 1) 11, waiting base n resume :: callers,
        powShown console (executed + 9) (callers.length + 2)⟩ := by
  have hpower : (pow base exponent).find? 1 = some (.routine power) := rfl
  have hbelow : callers.length < Limits.default.maxCallDepth := by omega
  have hroom := @level_room _ (low_waiting hlow base n resume) hdepth base (n - 1) 11 0 []
    (Nat.zero_le 12)
  have hpeak : max (callers.length + 1) (callers.length + 2) = callers.length + 2 := by omega
  refine @Steps.trans _ _ _ _ _ 8 1 (steps_prepare hlow hbelow hn console executed _) ?_
  refine .cons (Structured.step_call rfl rfl hpower rfl hdepth hroom) ?_
  simp only [powShown, hpeak]
  exact .refl _ _ _

/-- The next level down, where calls are nested as deeply as they may be. -/
theorem runFor_last (hlow : Low callers)
    (hdepth : callers.length + 1 = Limits.default.maxCallDepth) {n : Int}
    (hn : n.bmod (2 ^ 32) ≠ 1) (console : Console) (executed peak : Nat) :
    Structured.runFor (pow base exponent) .default 9
        ⟨raising base n resume, callers, powShown console executed peak⟩ =
      .trapped ⟨.stackOverflow, "pow", 10⟩ (powShown console (executed + 9) peak) := by
  have hpower : (pow base exponent).find? 1 = some (.routine power) := rfl
  have hbelow : callers.length < Limits.default.maxCallDepth := by omega
  exact (steps_prepare hlow hbelow hn console executed peak).trapped
    (Structured.step_call_overflow rfl rfl hpower hdepth.ge)

/-- A descent of more levels than calls may be nested. -/
theorem runFor_descend (left : Nat) (hlow : Low callers)
    (hdepth : callers.length + 1 + left = Limits.default.maxCallDepth) {n : Int}
    (hn : ∀ level : Nat, level ≤ left → (n - level).bmod (2 ^ 32) ≠ 1) (console : Console)
    (executed : Nat) :
    Structured.runFor (pow base exponent) .default (9 * (left + 1))
        ⟨raising base n resume, callers, powShown console executed (callers.length + 1)⟩ =
      .trapped ⟨.stackOverflow, "pow", 10⟩
        (powShown console (executed + 9 * (left + 1)) Limits.default.maxCallDepth) := by
  -- on the calls that can still be nested; each one leaves a waiting activation behind
  induction left generalizing callers n executed resume with
  | zero =>
    have hfirst : n.bmod (2 ^ 32) ≠ 1 := by simpa using hn 0 le_rfl
    rw [← hdepth]
    exact runFor_last hlow hdepth hfirst console executed _
  | succ left ih =>
    have hfirst : n.bmod (2 ^ 32) ≠ 1 := by simpa using hn 0 (Nat.zero_le _)
    have hnext : ∀ level : Nat, level ≤ left → (n - 1 - level).bmod (2 ^ 32) ≠ 1 := by
      intro level hlevel
      have hsame : n - 1 - level = n - (level + 1 : Nat) := by omega
      rw [hsame]
      exact hn (level + 1) (by omega)
    have hcalled := @steps_descend base exponent callers resume hlow (by omega) n hfirst console
      executed
    have hdeeper : (waiting base n resume :: callers).length + 1 + left =
        Limits.default.maxCallDepth := by
      rw [List.length_cons]
      omega
    rw [Nat.mul_succ, Nat.add_comm (9 * (left + 1)), hcalled.runFor_add]
    have hrest := @ih (waiting base n resume :: callers) 11 (low_waiting hlow base n resume)
      hdeeper (n - 1) hnext (executed + 9)
    rw [Nat.add_assoc executed] at hrest
    exact hrest

/-! ## The way back -/

/-- The simple case: the first power is the base. -/
theorem steps_base {caller : Activation} (hlow : Low (caller :: callers))
    (hdepth : callers.length + 1 < Limits.default.maxCallDepth) (console : Console)
    (executed peak : Nat) :
    Steps (pow base exponent) .default 5
      ⟨raising base 1 resume, caller :: callers, powShown console executed peak⟩
      ⟨caller.after resume (.ofInt .i32 base :: caller.operands), callers,
        powShown console (executed + 5) peak⟩ := by
  have htest := @steps_compare base exponent (caller :: callers) resume hlow hdepth 1 console
    executed peak
  rw [if_neg (by decide)] at htest
  refine @Steps.trans _ _ _ _ _ 3 2 htest ?_
  refine .cons (Structured.step_push rfl rfl rfl (Value.kept_i32 base)
    (level_room hlow hdepth _ _ _ _ (by simp [DataType.size]))) ?_
  refine .cons (@Structured.step_return _ _ _ _ _ _ _ _ (some (.ofInt .i32 base)) rfl rfl rfl) ?_
  exact .refl _ _ _

/-- The end of a recursive case, which multiplies the base with the power from the level
below. -/
theorem steps_climb {caller : Activation} (hlow : Low (caller :: callers))
    (hdepth : callers.length + 1 < Limits.default.maxCallDepth) (n result : Int)
    (console : Console) (executed peak : Nat) :
    Steps (pow base exponent) .default 2
      ⟨(waiting base n resume).after 11 (.ofInt .i32 result :: (waiting base n resume).operands),
        caller :: callers, powShown console executed peak⟩
      ⟨caller.after resume (.ofInt .i32 (base * result) :: caller.operands), callers,
        powShown console (executed + 2) peak⟩ := by
  have hproduct := @Numeric.binary_multiply .i32 (by decide) base result
  have hmultiply := @Structured.typed_binary (raising base n resume) (caller :: callers)
    (powShown console executed peak) 12 [] Limits.default.capacity .multiply .i32
    (.ofInt .i32 base) (.ofInt .i32 result) _ rfl (by decide) rfl rfl hproduct
    (Value.kept_i32 (base * result)) (level_room hlow hdepth _ _ _ _ (by simp [DataType.size]))
  refine .cons (@Structured.step_typed _ _ (raising base n resume) _ _ _ _ _ _ _ rfl rfl rfl
    hmultiply) ?_
  refine .cons (@Structured.step_return _ _ (raising base n resume) _ _ _ _ _
    (some (.ofInt .i32 (base * result))) rfl rfl rfl) ?_
  exact .refl _ _ _

/-- A power, from the call that asks for it to the return with it. -/
theorem steps_raise (n : Nat) {caller : Activation} (hlow : Low (caller :: callers))
    (hdepth : callers.length + 1 + n < Limits.default.maxCallDepth) (console : Console)
    (executed : Nat) :
    Steps (pow base exponent) .default (11 * n + 5)
      ⟨raising base (n + 1 : Nat) resume, caller :: callers,
        powShown console executed (callers.length + 2)⟩
      ⟨caller.after resume (.ofInt .i32 (base ^ (n + 1)) :: caller.operands), callers,
        powShown console (executed + (11 * n + 5)) (callers.length + 2 + n)⟩ := by
  -- the callers are general, because the level below returns to a waiting activation
  induction n generalizing callers caller resume executed with
  | zero =>
    rw [pow_one]
    exact steps_base hlow hdepth console executed _
  | succ n ih =>
    have hmost : Limits.default.maxCallDepth = 16384 := rfl
    have hmore : ((n + 1 + 1 : Nat) : Int).bmod (2 ^ 32) ≠ 1 := by
      rw [Int.bmod_eq_of_le (by omega) (by omega)]
      omega
    have hless : ((n + 1 + 1 : Nat) : Int) - 1 = (n + 1 : Nat) := by omega
    have hcalled := @steps_descend base exponent (caller :: callers) resume hlow
      (by rw [List.length_cons]; omega) (n + 1 + 1 : Nat) hmore console executed
    rw [hless] at hcalled
    have hraised := @ih (caller :: callers) 11 (waiting base (n + 1 + 1 : Nat) resume)
      (low_waiting hlow base _ resume) (by rw [List.length_cons]; omega) (executed + 9)
    have hclimbed := @steps_climb base exponent callers resume caller hlow (by omega)
      (n + 1 + 1 : Nat) (base ^ (n + 1)) console (executed + 9 + (11 * n + 5))
      (callers.length + 1 + 2 + n)
    have hall := (hcalled.trans hraised).trans hclimbed
    have hsteps : 9 + (11 * n + 5) + 2 = 11 * (n + 1) + 5 := by omega
    have hcount : executed + 9 + (11 * n + 5) + 2 = executed + (11 * (n + 1) + 5) := by omega
    have hpeak : callers.length + 1 + 2 + n = callers.length + 2 + (n + 1) := by omega
    rw [hsteps, hcount, hpeak, ← pow_succ'] at hall
    exact hall

end Levels

/-! ## The whole run -/

/-- The activation that has called for the power. -/
def powStarted (base exponent : Int) : Activation := ⟨powMain base exponent, 3, [], [], [], 0⟩

theorem low_started (base exponent : Int) : Low [powStarted base exponent] :=
  Nat.le_of_ble_eq_true rfl

/-- The first state of the run. -/
def powFirst (base exponent : Int) (console : Console) : State :=
  ⟨(powStarted base exponent).after 0 [], [], powShown console 0 1⟩

/-- The start of the run, up to the call for the power. -/
theorem steps_ask (base exponent : Int) (console : Console) :
    Steps (pow base exponent) .default 3 (powFirst base exponent console)
      ⟨raising base exponent 3, [powStarted base exponent], powShown console 3 2⟩ := by
  have hpower : (pow base exponent).find? 1 = some (.routine power) := rfl
  refine .cons (Structured.step_push rfl rfl rfl (Value.kept_i32 base)
    (Nat.le_of_ble_eq_true rfl)) ?_
  refine .cons (Structured.step_push rfl rfl rfl (Value.kept_i32 exponent)
    (Nat.le_of_ble_eq_true rfl)) ?_
  refine .cons (@Structured.step_call _ _ (powStarted base exponent) _ _ 2 [] 1 power
    [.ofInt .i32 base, .ofInt .i32 exponent] rfl rfl hpower rfl (by decide)
    (Nat.le_of_ble_eq_true rfl)) ?_
  exact .refl _ _ _

/-- The end of the run, which prints the power. -/
theorem runFor_answer (base exponent result : Int) (console : Console) (executed peak : Nat) :
    Structured.runFor (pow base exponent) .default 2
        ⟨(powStarted base exponent).after 3 [.ofInt .i32 result], [],
          powShown console executed peak⟩ =
      .returned none (powShown
        (console.write (Text.utf8 (toString (result.bmod (2 ^ 32)) ++ "\n"))) (executed + 2)
        peak) := by
  rw [← Value.text_ofInt_i32]
  have hprint := @Structured.step_print (pow base exponent) .default (powStarted base exponent)
    [] (powShown console executed peak) 3 [] .i32 (.ofInt .i32 result) rfl rfl (by decide) rfl
  exact (Steps.cons hprint (.refl _ _ _)).returned (Structured.step_finish rfl rfl rfl)

theorem plain_pow (base exponent : Int) : (pow base exponent).Plain := by
  have hmain : (powMain base exponent).Plain :=
    Routine.plain_of_all rfl (Nat.le_of_ble_eq_true rfl) rfl
  have hpower : power.Plain := Routine.plain_of_all rfl (Nat.le_of_ble_eq_true rfl) rfl
  exact @Module.plain_of_routines _ [powMain base exponent, power] rfl (by simp [hmain, hpower])

/-- A run for an exponent that calls can be nested for. -/
theorem runFor_power (base : Int) (n : Nat) (hn : n + 1 < Limits.default.maxCallDepth)
    (console : Console) :
    Structured.runFor (pow base (n + 1 : Nat)) .default (11 * n + 10)
        (powFirst base (n + 1 : Nat) console) =
      .returned none (powShown
        (console.write (Text.utf8 (toString ((base ^ (n + 1)).bmod (2 ^ 32)) ++ "\n")))
        (11 * n + 10) (n + 2)) := by
  have hraised := @steps_raise base (n + 1 : Nat) [] 3 n (powStarted base (n + 1 : Nat))
    (low_started _ _) (by simp only [List.length_nil]; omega) console 3
  have hall := (steps_ask base (n + 1 : Nat) console).trans hraised
  have hanswer := runFor_answer base (n + 1 : Nat) (base ^ (n + 1)) console (3 + (11 * n + 5))
    (2 + n)
  have hsteps : 11 * n + 10 = 3 + (11 * n + 5) + 2 := by omega
  rw [hsteps, Nat.add_comm n 2]
  exact (hall.runFor_add 2).trans hanswer

/-- A run for an exponent from which no level within reach gets to one. -/
theorem runFor_tooDeep (base : Int) {exponent : Int} {left : Nat}
    (hleft : 2 + left = Limits.default.maxCallDepth)
    (hnever : ∀ level : Nat, level ≤ left → (exponent - level).bmod (2 ^ 32) ≠ 1)
    (console : Console) :
    Structured.runFor (pow base exponent) .default (3 + 9 * (left + 1))
        (powFirst base exponent console) =
      .trapped ⟨.stackOverflow, "pow", 10⟩
        (powShown console (3 + 9 * (left + 1)) Limits.default.maxCallDepth) := by
  rw [(steps_ask base exponent console).runFor_add]
  exact runFor_descend left (low_started base exponent) hleft hnever console 3

/-- The recursion sample, as it is built, prints the power of its base to its exponent,
wrapped around to 32 bits, on a line.  It nests one call for each level, besides its entry.
For an exponent that is not positive, or has more levels than calls may be nested, it prints
nothing and overflows the stack at the call in the routine. -/
theorem account_run_pow (base exponent : Int32) (host : Host) (console : Console) :
    buildPow base.toInt exponent.toInt = .ok (pow base.toInt exponent.toInt) ∧
      (Machine.run ⟨pow base.toInt exponent.toInt, .default, host⟩
          (.new .default console)).account.Shows console
        (if 1 ≤ exponent.toInt ∧ exponent.toInt ≤ 16383 then
          { verdict := .returned none
            printed := Text.utf8
              (toString ((base.toInt ^ exponent.toInt.toNat).bmod (2 ^ 32)) ++ "\n")
            executed := 11 * exponent.toInt.toNat - 1
            peak := exponent.toInt.toNat + 1 }
        else
          { verdict := .trapped ⟨.stackOverflow, "pow", 10⟩
            printed := []
            executed := 147450
            peak := 16384 }) := by
  refine ⟨buildPow_eq _ _, ?_⟩
  have hlow := exponent.le_toInt
  have hhigh := exponent.toInt_lt
  generalize exponent.toInt = exponent at hlow hhigh
  generalize base.toInt = base
  have hplain := plain_pow base exponent
  by_cases hreach : 1 ≤ exponent ∧ exponent ≤ 16383
  · obtain ⟨n, rfl⟩ : ∃ n : Nat, exponent = (n + 1 : Nat) := ⟨exponent.toNat - 1, by omega⟩
    have hmost : Limits.default.maxCallDepth = 16384 := rfl
    have hrun := runFor_power base n (by omega) console
    have hsteps : 11 * n + 10 ≤ Machine.stepBound := by
      have hbound : Machine.stepBound = 2 ^ 62 := rfl
      omega
    rw [if_pos hreach, @Machine.account_run ⟨pow base (n + 1 : Nat), .default, host⟩ hplain
      console _ _ _ rfl hsteps hrun Verdict.noConfusion]
    exact Account.shows_write console ⟨.returned none,
      Text.utf8 (toString ((base ^ (n + 1)).bmod (2 ^ 32)) ++ "\n"), 11 * n + 10, n + 2⟩
  · have hnever : ∀ level : Nat, level ≤ 16382 → (exponent - level).bmod (2 ^ 32) ≠ 1 := by
      -- it would take 2 ^ 32 levels to come to one by wrapping around
      intro level hlevel hone
      have hdvd : (4294967296 : Int) ∣ exponent - level - (exponent - level).bmod (2 ^ 32) :=
        Int.dvd_self_sub_bmod
      omega
    have hrun := runFor_tooDeep base rfl hnever console
    rw [if_neg hreach, @Machine.account_run ⟨pow base exponent, .default, host⟩ hplain
      console _ _ _ rfl (by decide) hrun Verdict.noConfusion]
    exact Account.shows_nothing console _ _ _

end StackCode.Samples
