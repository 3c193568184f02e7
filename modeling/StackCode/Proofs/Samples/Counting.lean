import StackCode.Proofs.Numeric.Wrapping
import StackCode.Proofs.Samples.Construction
import StackCode.Proofs.Structured.Execution

/-!
# The loop sample

The loop keeps its number in a local, tests it against its argument and prints every number
that it reaches.  A round from one test to the next takes nine steps; that so many rounds
have been made is all that the loop remembers, so the whole run follows by induction on
their number.

Main definitions:

- `Samples.loopAt`: a state of the run before the test.
- `Samples.numberLines`: the numbers from one on, each on a line.

Main results:

- Theorem `Samples.steps_round`: one round.
- Theorem `Samples.steps_rounds`: any number of rounds.
- Theorem `Samples.account_run_count`: the whole run.
-/

namespace StackCode.Samples

open Structured (Activation Surface State Steps usedBytes packedSize)

/-! ## States of the run -/

/-- The routine that starts the count. -/
def countMain (limit : Int) : Routine := ((count limit).routine? 0).getD default

/-- The routine that counts. -/
def counter (limit : Int) : Routine := ((count limit).routine? 1).getD default

/-- An activation of the routine that counts, with its number in the local. -/
def counting (limit number : Int) : Activation :=
  ⟨counter limit, 0, [.ofInt .i32 limit], [.ofInt .i32 number], [], 2⟩

/-- The activation that has started the count. -/
def countStarted (limit : Int) : Activation := ⟨countMain limit, 2, [], [], [], 0⟩

/-- What a count shows: both routines were called. -/
def countShown (console : Console) (executed : Nat) : Surface :=
  ⟨console, ⟨0, []⟩, none, executed, 2⟩

/-- The count at a position, with given operands. -/
def loopAt (limit number : Int) (ip : Nat) (operands : List Value) (console : Console)
    (executed : Nat) : State :=
  ⟨(counting limit number).after ip operands, [countStarted limit], countShown console executed⟩

/-- The loop never needs more than a few bytes. -/
theorem loop_room (limit number : Int) (ip : Nat) {operands : List Value}
    (hfew : packedSize operands ≤ 8) :
    usedBytes ((counting limit number).after ip operands :: [countStarted limit]) ≤
      Limits.default.capacity := by
  have hused : usedBytes ((counting limit number).after ip operands :: [countStarted limit]) =
      20 + packedSize operands + 12 := rfl
  have hcapacity : Limits.default.capacity = 1048576 := rfl
  omega

/-! ## Rounds -/

/-- Bytes written one after another are written together. -/
theorem write_write (console : Console) (first second : List UInt8) :
    (console.write first).write second = console.write (first ++ second) := by
  simp [Console.write, List.foldl_append]

/-- The numbers from one on, each on a line. -/
def numberLines (count : Nat) : List UInt8 :=
  (List.range' 1 count).flatMap fun number => Text.utf8 (toString number ++ "\n")

theorem numberLines_succ (count : Nat) :
    numberLines (count + 1) = numberLines count ++ Text.utf8 (toString (count + 1) ++ "\n") := by
  simp [numberLines, List.range'_1_concat, Nat.add_comm]

section Rounds

variable {limit : Int} {number : Nat}

/-- The test, which leads into the body of the loop or past it. -/
theorem steps_test (limit number : Int) (console : Console) (executed : Nat) :
    Steps (count limit) .default 3 (loopAt limit number 8 [] console executed)
      (loopAt limit number
        (if number.bmod (2 ^ 32) < limit.bmod (2 ^ 32) then 11 else 12) [] console
        (executed + 3)) := by
  have hcompare := @Numeric.compare_lessThan .i32 rfl number limit
  refine .cons (Structured.step_push rfl rfl rfl (Value.kept_i32 number)
    (loop_room _ _ _ (by simp [DataType.size]))) ?_
  refine .cons (Structured.step_push rfl rfl rfl (Value.kept_i32 limit)
    (loop_room _ _ _ (by simp [DataType.size]))) ?_
  refine .cons (Structured.step_guard rfl rfl rfl rfl rfl hcompare) ?_
  simp only [decide_eq_true_eq]
  exact .refl _ _ _

/-- The body of the loop, which prints the next number. -/
theorem steps_body (limit number : Int) (console : Console) (executed : Nat) :
    Steps (count limit) .default 6 (loopAt limit number 11 [] console executed)
      (loopAt limit (number + 1) 8 []
        (console.write (Text.utf8 ((Value.ofInt .i32 (number + 1)).text ++ "\n")))
        (executed + 6)) := by
  have hnext := @Numeric.unary_increment .i32 (by decide) number
  have hbody : (counter limit).target? 0 = some 3 := rfl
  have hinside : 3 ≤ (counter limit).code.size := Nat.le_of_ble_eq_true rfl
  refine .cons (Structured.step_jump rfl rfl hbody hinside) ?_
  refine .cons (Structured.step_push rfl rfl rfl (Value.kept_i32 number)
    (loop_room _ _ _ (by simp [DataType.size]))) ?_
  refine .cons (Structured.step_typed rfl rfl rfl (Structured.typed_unary rfl (by decide) rfl hnext
    (Value.kept_i32 (number + 1)) (loop_room _ _ _ (by simp [DataType.size])))) ?_
  refine .cons (Structured.step_popLocal rfl rfl rfl rfl) ?_
  refine .cons (Structured.step_push rfl rfl rfl (Value.kept_i32 (number + 1))
    (loop_room limit (number + 1) _ (by simp [DataType.size]))) ?_
  refine .cons (Structured.step_print rfl rfl (by decide) rfl) ?_
  exact .refl _ _ _

/-- A round of the loop, from one test to the next. -/
theorem steps_round (hlimit : limit.bmod (2 ^ 32) = limit) (hless : number < limit)
    (console : Console) (executed : Nat) :
    Steps (count limit) .default 9 (loopAt limit number 8 [] console executed)
      (loopAt limit (number + 1 : Nat) 8 []
        (console.write (Text.utf8 (toString (number + 1) ++ "\n"))) (executed + 9)) := by
  have hrange : limit < 2 ^ 31 := by
    rw [← hlimit]
    exact Int.bmod_lt (by decide)
  have hsmall : (number : Int).bmod (2 ^ 32) = number :=
    Int.bmod_eq_of_le (by omega) (by omega)
  have hnext : ((number : Int) + 1).bmod (2 ^ 32) = number + 1 :=
    Int.bmod_eq_of_le (by omega) (by omega)
  have htext : (Value.ofInt .i32 ((number : Int) + 1)).text = toString (number + 1) := by
    rw [Value.text_ofInt_i32, hnext]
    rfl
  have htest := steps_test limit number console executed
  have hbody := steps_body limit number console (executed + 3)
  rw [hsmall, hlimit, if_pos hless] at htest
  rw [htext] at hbody
  exact htest.trans hbody

/-- Any number of rounds up to the limit. -/
theorem steps_rounds (hlimit : limit.bmod (2 ^ 32) = limit) (rounds : Nat)
    (hrounds : rounds ≤ limit.toNat) (console : Console) (executed : Nat) :
    Steps (count limit) .default (9 * rounds) (loopAt limit 0 8 [] console executed)
      (loopAt limit rounds 8 [] (console.write (numberLines rounds)) (executed + 9 * rounds)) := by
  induction rounds with
  | zero => exact .refl _ _ _
  | succ rounds ih =>
    have hless : (rounds : Int) < limit := by omega
    have hround := steps_round hlimit hless (console.write (numberLines rounds))
      (executed + 9 * rounds)
    rw [write_write, ← numberLines_succ] at hround
    exact (ih (by omega)).trans hround

end Rounds

/-! ## The whole run -/

/-- The first state of the run. -/
def countFirst (limit : Int) (console : Console) : State :=
  ⟨(countStarted limit).after 0 [], [], ⟨console, ⟨0, []⟩, none, 0, 1⟩⟩

/-- The start of the run, up to the first test. -/
theorem steps_start (limit : Int) (console : Console) :
    Steps (count limit) .default 5 (countFirst limit console) (loopAt limit 0 8 [] console 5) := by
  have hcounter : (count limit).find? 1 = some (.routine (counter limit)) := rfl
  have htest : (counter limit).target? 1 = some 8 := rfl
  have hinside : 8 ≤ (counter limit).code.size := Nat.le_of_ble_eq_true rfl
  refine .cons (Structured.step_push rfl rfl rfl (Value.kept_i32 limit)
    (Nat.le_of_ble_eq_true rfl)) ?_
  have hcall := @Structured.step_call (count limit) .default (countStarted limit) []
    ⟨console, ⟨0, []⟩, none, 1, 1⟩ 1 [] 1 (counter limit) [.ofInt .i32 limit] rfl rfl hcounter rfl
    (by decide) (Nat.le_of_ble_eq_true rfl)
  refine .cons hcall ?_
  have hpush := @Structured.step_push (count limit) .default (counting limit 0)
    [countStarted limit] (countShown console 2) 0 [] (.const (.ofInt .i32 0)) (.ofInt .i32 0) rfl
    rfl rfl (Value.kept_i32 0) (loop_room _ _ _ (by simp [DataType.size]))
  refine .cons hpush ?_
  refine .cons (Structured.step_popLocal rfl rfl rfl rfl) ?_
  refine .cons (Structured.step_jump rfl rfl htest hinside) ?_
  exact .refl _ _ _

/-- The end of the run, from a test that fails. -/
theorem runFor_end {limit number : Int}
    (hdone : ¬ number.bmod (2 ^ 32) < limit.bmod (2 ^ 32)) (console : Console) (executed : Nat) :
    Structured.runFor (count limit) .default 5 (loopAt limit number 8 [] console executed) =
      .returned none (countShown console (executed + 5)) := by
  have htest := steps_test limit number console executed
  rw [if_neg hdone] at htest
  have hreturn := htest.trans (.cons (Structured.step_return rfl rfl rfl) (.refl _ _ _))
  exact hreturn.returned (Structured.step_finish rfl rfl rfl)

theorem plain_count (limit : Int) : (count limit).Plain := by
  have hmain : (countMain limit).Plain :=
    Routine.plain_of_all rfl (Nat.le_of_ble_eq_true rfl) rfl
  have hcounter : (counter limit).Plain :=
    Routine.plain_of_all rfl (Nat.le_of_ble_eq_true rfl) rfl
  exact @Module.plain_of_routines _ [countMain limit, counter limit] rfl (by simp [hmain, hcounter])

/-- The loop sample, as it is built, prints the numbers from one to its limit in order, each
on a line, and nothing when the limit is not positive.  It returns without a value, after ten
instructions and nine more for every number, and never nests deeper than its one call. -/
theorem account_run_count (limit : Int32) (host : Host) (console : Console) :
    buildCount limit.toInt = .ok (count limit.toInt) ∧
      (Machine.run ⟨count limit.toInt, .default, host⟩
          (.new .default console)).account.Shows console
        { verdict := .returned none
          printed := numberLines limit.toInt.toNat
          executed := 10 + 9 * limit.toInt.toNat
          peak := 2 } := by
  refine ⟨buildCount_eq _, ?_⟩
  have hlimit : limit.toInt.bmod (2 ^ 32) = limit.toInt := limit.toInt_bmod
  have hlt := limit.toInt_lt
  generalize limit.toInt = limit at hlimit hlt
  have hrounds := (steps_start limit console).trans
    (steps_rounds hlimit limit.toNat le_rfl console 5)
  -- the number is now at the limit, or still zero where the limit is not positive
  have hdone : ¬ (limit.toNat : Int).bmod (2 ^ 32) < limit.bmod (2 ^ 32) := by
    have hreached : (limit.toNat : Int).bmod (2 ^ 32) = limit.toNat :=
      Int.bmod_eq_of_le (by omega) (by omega)
    rw [hreached, hlimit]
    omega
  have hrun := (hrounds.runFor_add 5).trans (runFor_end hdone _ _)
  have hsteps : 5 + 9 * limit.toNat + 5 ≤ Machine.stepBound := by
    have hbound : Machine.stepBound = 2 ^ 62 := rfl
    omega
  rw [@Machine.account_run ⟨count limit, .default, host⟩ (plain_count limit) console _ _ _ rfl
    hsteps hrun Verdict.noConfusion]
  have hexecuted : 5 + 9 * limit.toNat + 5 = 10 + 9 * limit.toNat := by omega
  rw [hexecuted]
  exact Account.shows_write console
    ⟨.returned none, numberLines limit.toNat, 10 + 9 * limit.toNat, 2⟩

end StackCode.Samples
