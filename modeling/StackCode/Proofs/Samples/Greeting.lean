import StackCode.Proofs.Lockstep.Storage
import StackCode.Proofs.Machine.CallSpan
import StackCode.Proofs.Memory.Strings
import StackCode.Proofs.Samples.Construction

/-!
# The host call sample

The sample has its text placed in memory, hands the address to a function of the host and
drops what that returns.  The text can be of any length, but it lies among the resources and
never in the arena, so the arena is known at every step; all that is left is what the
function reads at the address.

Main definitions:

- `Samples.greetAt`: a state of the run.
- `Samples.shelved`: memory after the text was placed.

Main results:

- Theorem `Machine.callExternal_of_runHost`: a call of a host function that returns.
- Theorem `Machine.runHost_puts`: what the function prints.
- Theorem `Samples.account_run_hello`: the whole run.
-/

namespace StackCode

/-! ## Calls of the host -/

namespace Machine

/-- A value for which there is room is pushed. -/
theorem push_of_room {value : Value} {machine : Machine} (hstorable : value.type ≠ .void)
    (hroom : machine.memory.arena.sp + value.size ≤ machine.memory.arena.capacity) :
    push value machine = .ok () (machine.withArena (machine.memory.arena.pushed value)) := by
  have hpush : onArena (Arena.push value) machine =
      .ok machine.memory.arena.sp (machine.withArena (machine.memory.arena.pushed value)) := by
    rw [onArena_eq, Arena.push_eq, if_neg hstorable, if_neg (Nat.not_lt.mpr hroom)]
  exact bind_eq_of_ok hpush

/-- A host function takes its arguments from the operands and leaves its result there. -/
theorem callExternal_of_runHost {host : Host} {function : External} {program : HostFunction}
    {machine popped final : Machine} {arguments : List Value} {value : Value}
    (hcheck : checkTop function.parameters machine = .ok () machine)
    (hfind : host.find? function.library function.name = some program)
    (hpop : popMany function.parameters machine = .ok arguments popped)
    (hrun : runHost (program arguments) popped = .ok (some value) final)
    (htype : value.type = function.returnType) :
    callExternal host function machine = push value final := by
  unfold callExternal
  rw [bind_eq_of_ok hcheck]
  simp only [hfind]
  rw [bind_eq_of_ok hpop, bind_eq_of_ok hrun]
  exact congrFun (if_pos htype) final

/-- The function that prints a string prints the one at its address, and ends the line. -/
theorem runHost_puts {machine : Machine} {address : UInt64} {text : List UInt8}
    (htext : machine.memory.readCString address = .ok text) :
    runHost (Host.puts [.pointer address]) machine =
      .ok (some (.zero .i32))
        { machine with console := machine.console.write (text ++ [0x0A]) } := by
  have hputs : Host.puts [.pointer address] = .readCString address (.orFail fun text =>
      .print (text ++ [0x0A]) (.done (some (.zero .i32)))) := rfl
  have hread : inspect (fun machine => textOrFailure address machine.memory) machine =
      .ok text machine := by
    simp only [inspect, textOrFailure, htext]
  rw [hputs, runHost_readCString, bind_eq_of_ok hread]
  rfl

end Machine

namespace Samples

/-! ## States of the run -/

/-- The module with the text, run with the console functions of the host. -/
def greeting (text : String) : Setup := ⟨hello text, .default, .stdio⟩

/-- The routine that prints the text. -/
def greeter (text : String) : Routine := ((hello text).routine? 0).getD default

/-- The function of the host that it calls. -/
def putsExternal : External := ⟨1, "puts", .i32, [.pointer], "c", .cdecl⟩

/-- The run before an instruction of its only activation. -/
def greetAt (text : String) (ip : Nat) (memory : Memory) (console : Console) : Machine :=
  ⟨memory, console, [], ⟨[⟨greeter text, ip, 12, 12, 0, [], []⟩], 1, rfl⟩, none, ip, 1⟩

/-- The arena with the header of the activation. -/
def headed : Arena :=
  ((Arena.new Limits.default.stackSize).pushed (.pointer 0)).pushed ⟨.u32, 0⟩

/-- The arena with the address of the text. -/
def addressed : Arena := headed.pushed (.pointer resourceBase.toUInt64)

/-- The arena after all operands were popped. -/
def emptied (arena : Arena) : Arena := arena.restrict [.u32, .pointer]

/-- The arena with the result of the call. -/
def answered : Arena := (emptied addressed).pushed (.zero .i32)

/-- The resource of the module. -/
def helloResource (text : String) : Resource := ⟨.utf8, Text.utf8 text⟩

/-- Memory after the text was placed there. -/
def shelved (text : String) (arena : Arena) : Memory :=
  ⟨arena, (helloResource text).terminated.toByteArray, [(0, 0)]⟩

/-- The machine after the run. -/
def greeted (text : String) (console : Console) : Machine :=
  ⟨shelved text ((emptied answered).truncate 0), console, [], .empty, none, 4, 1⟩

/-- What is printed: the text up to the first null character, or all of it, on a line. -/
def firstLine (text : String) : List UInt8 :=
  Text.utf8 (String.ofList (text.toList.takeWhile (· ≠ '\x00'))) ++ [0x0A]

/-- The text is found at the first address of the resources, as far as it has no null
character. -/
theorem readCString_shelved (text : String) {arena : Arena}
    (hcapacity : arena.capacity ≤ maxArenaSize) :
    (shelved text arena).readCString resourceBase.toUInt64 =
      .ok (Text.utf8 (String.ofList (text.toList.takeWhile (· ≠ '\x00')))) := by
  have hresources : (shelved text arena).resources =
      ByteArray.empty ++ (helloResource text).terminated.toByteArray ++ ByteArray.empty := by
    simp [shelved]
  rw [← Text.takeWhile_utf8]
  exact Memory.readCString_resource hresources hcapacity (by decide)

/-! ## Steps -/

theorem start_hello (text : String) (console : Console) :
    Machine.start (greeting text) (.new .default console) =
      .running (greetAt text 0 ⟨headed, .empty, []⟩ console) :=
  rfl

/-- The text is placed and its address pushed. -/
theorem step_place (text : String) (console : Console) :
    Machine.step (greeting text) (greetAt text 0 ⟨headed, .empty, []⟩ console) =
      .running (greetAt text 1 (shelved text addressed) console) := by
  -- nothing was placed before, so the text lies behind no other bytes
  have hstep : Machine.step (greeting text) (greetAt text 0 ⟨headed, .empty, []⟩ console) =
      .running (greetAt text 1 ⟨addressed, Memory.appended .empty (helloResource text), [(0, 0)]⟩
        console) :=
    rfl
  rw [hstep, Memory.appended_eq, ByteArray.empty_append]
  rfl

/-- The host prints the text. -/
theorem callExternal_puts (text : String) (console : Console) :
    Machine.callExternal .stdio putsExternal (greetAt text 2 (shelved text addressed) console) =
      .ok () (greetAt text 2 (shelved text answered) (console.write (firstLine text))) := by
  have hcheck : Machine.checkTop [.pointer] (greetAt text 2 (shelved text addressed) console) =
      .ok () (greetAt text 2 (shelved text addressed) console) := rfl
  have hfind : Host.stdio.find? "c" "puts" = some Host.puts := rfl
  have hpop : Machine.popMany [.pointer] (greetAt text 2 (shelved text addressed) console) =
      .ok [.pointer resourceBase.toUInt64]
        (greetAt text 2 (shelved text (emptied addressed)) console) := rfl
  have hread := readCString_shelved text (by decide : (emptied addressed).capacity ≤ maxArenaSize)
  have hrun : Machine.runHost (Host.puts [.pointer resourceBase.toUInt64])
      (greetAt text 2 (shelved text (emptied addressed)) console) =
        .ok (some (.zero .i32)) (greetAt text 2 (shelved text (emptied addressed))
          (console.write (firstLine text))) := Machine.runHost_puts hread
  have hpush : Machine.push (.zero .i32) (greetAt text 2 (shelved text (emptied addressed))
      (console.write (firstLine text))) =
        .ok () (greetAt text 2 (shelved text answered) (console.write (firstLine text))) :=
    Machine.push_of_room (by decide) (Nat.le_of_ble_eq_true rfl)
  rw [Machine.callExternal_of_runHost hcheck hfind hpop hrun rfl, hpush]

theorem step_puts (text : String) (console : Console) :
    Machine.step (greeting text) (greetAt text 1 (shelved text addressed) console) =
      .running (greetAt text 2 (shelved text answered) (console.write (firstLine text))) := by
  -- the position moves on before the call, so the host finds the activation past it
  have hadvance : Machine.advance (greeting text) ⟨greeter text, 1, 12, 12, 0, [], []⟩
      (greetAt text 1 (shelved text addressed) console) =
        (Machine.callExternal .stdio putsExternal >>= fun _ => pure .proceed)
          (greetAt text 2 (shelved text addressed) console) :=
    rfl
  rw [Machine.bind_eq_of_ok (callExternal_puts text console)] at hadvance
  have htop : (greetAt text 1 (shelved text addressed) console).calls.top? =
      some ⟨greeter text, 1, 12, 12, 0, [], []⟩ := rfl
  unfold Machine.step
  simp only [htop, hadvance]
  rfl

/-- The result is dropped. -/
theorem step_discard (text : String) (console : Console) :
    Machine.step (greeting text) (greetAt text 2 (shelved text answered) console) =
      .running (greetAt text 3 (shelved text (emptied answered)) console) :=
  rfl

/-- The routine returns. -/
theorem step_end (text : String) (console : Console) :
    Machine.step (greeting text) (greetAt text 3 (shelved text (emptied answered)) console) =
      .returned none (greeted text console) :=
  rfl

/-! ## The whole run -/

/-- The host call sample, as it is built, prints its text up to the first null character, or
all of it, and ends the line; whatever the text is, it returns without a value after its
four instructions. -/
theorem account_run_hello (text : String) (console : Console) :
    buildHello text = .ok (hello text) ∧
      (Machine.run ⟨hello text, .default, .stdio⟩ (.new .default console)).account.Shows console
        { verdict := .returned none
          printed := Text.utf8 (String.ofList (text.toList.takeWhile (· ≠ '\x00'))) ++ [0x0A]
          executed := 4
          peak := 1 } := by
  refine ⟨buildHello_eq text, ?_⟩
  have hrun : Machine.runUpTo (greeting text) 4 (.new .default console) = .returned none
      (greeted text (console.write (firstLine text))) := by
    simp only [Machine.runUpTo, start_hello]
    rw [Machine.runFor_succ_of_running 3 (step_place text console),
      Machine.runFor_succ_of_running 2 (step_puts text console),
      Machine.runFor_succ_of_running 1 (step_discard text _), Machine.runFor, step_end]
  have hended : (Machine.runUpTo (greeting text) 4 (.new .default console)).account.verdict ≠
      .running := by
    rw [hrun]
    exact Verdict.noConfusion
  have hwhole : Machine.run (greeting text) (.new .default console) = _ :=
    (Machine.runUpTo_eq_of_ended hended (by decide)).trans hrun
  rw [greeting] at hwhole
  rw [hwhole]
  exact Account.shows_write console ⟨.returned none, firstLine text, 4, 1⟩

end Samples

end StackCode
