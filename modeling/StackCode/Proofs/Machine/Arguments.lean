import StackCode.Proofs.Machine.FrameLayout
import StackCode.Proofs.Memory.ValueList

/-!
# Arguments on top of the arena

Three walks look at the arguments of a call.  The check compares tags with types from the
lowest argument up, the pops take values off from the topmost argument down, and laying out
an activation subtracts sizes from the top.  All three find the same slots, whatever the
types and wherever the floor is, so a call whose check succeeded has its arguments.

Main definitions:

- `Arena.Gapless`: the tags tile the arena up to its top.
- `Arena.Suits`: a slot that the check and the pop of a type both accept.
- `Arena.popAll`: the pops of a list of types.
- `Arena.topSlots`: the topmost slots.
- `Arena.ArgumentsAgree`, `Machine.Collects`: what the walks have in common.

Main results:

- Theorems `Arena.checkTop_eq_ok_iff`, `Arena.popOnto_eq_ok_iff`: when the check and the pops
  succeed, said of tags.
- Theorem `Arena.Gapless.offsetsBelow_eq`: what the walk down from the top finds.
- Theorem `Machine.popMany_eq`: the pops of a machine.
- Theorem `Arena.argumentsAgree_of_gapless`: check, pops and walk agree.
-/

namespace StackCode

namespace Arena

/-! ## Slots -/

/-- The tags tile the arena: each value starts where the one below it ends, the lowest at
zero, and the topmost ends at the top. -/
def Gapless (arena : Arena) : Prop :=
  ∃ types, arena.tags = packedTags types ∧ arena.sp = totalSize types

/-- A slot at or above the floor with a value of the type. -/
def Suits (floor : Nat) (slot : Nat × DataType) (type : DataType) : Prop :=
  floor ≤ slot.1 ∧ slot.2 = type

/-- The value in a slot. -/
def valueIn (arena : Arena) (slot : Nat × DataType) : Value := arena.valueAt slot.2 slot.1

/-- The slots of the topmost values, the lowest first. -/
def topSlots (arena : Arena) (count : Nat) : List (Nat × DataType) :=
  (arena.tags.take count).reverse

/-- Where the lowest of some slots starts, which are given topmost first; where they end when
there are none. -/
def bottom (top : Nat) : List (Nat × DataType) → Nat
  | [] => top
  | slot :: lower => bottom slot.1 lower

/-- Suitable slots have the types. -/
theorem map_snd_of_suits {floor : Nat} {slots : List (Nat × DataType)} {types : List DataType}
    (hsuits : List.Forall₂ (Suits floor) slots types) : slots.map Prod.snd = types := by
  induction hsuits with
  | nil => rfl
  | cons hfirst _ ih => rw [List.map_cons, ih, hfirst.2]

/-! ## The check -/

/-- Slots pass the check when they all suit their types. -/
theorem checkTags_eq_ok_iff {floor : Nat} {slots : List (Nat × DataType)} {types : List DataType}
    (hlength : slots.length = types.length) :
    checkTags floor slots types = .ok () ↔ List.Forall₂ (Suits floor) slots types := by
  induction slots generalizing types with
  | nil =>
    rw [List.eq_nil_of_length_eq_zero hlength.symm]
    exact ⟨fun _ => .nil, fun _ => rfl⟩
  | cons slot slots ih =>
    cases types with
    | nil => cases hlength
    | cons type types =>
      rw [checkTags, List.forall₂_cons, ← ih (Nat.succ.inj hlength)]
      unfold Suits
      split_ifs with hfloor htype
      · simp [Nat.not_le.mpr hfloor]
      · simp [htype]
      · simp [Nat.not_lt.mp hfloor, not_not.mp htype]

/-- The check succeeds when there are enough slots and the topmost suit the types. -/
theorem checkTop_eq_ok_iff {arena : Arena} {types : List DataType} {floor : Nat} :
    arena.checkTop types floor = .ok () ↔
      List.Forall₂ (Suits floor) (arena.topSlots types.length) types := by
  unfold checkTop topSlots
  dsimp only
  split_ifs with hshort
  · refine ⟨nofun, fun hsuits => ?_⟩
    have hlength := hsuits.length_eq
    rw [List.length_reverse] at hlength
    omega
  · apply checkTags_eq_ok_iff
    rw [List.length_take] at hshort
    rw [List.length_reverse, List.length_take]
    omega

/-! ## The pops -/

/-- Pops values whose types are given topmost first, in front of values that were popped
before. -/
def popOnto (floor : Nat) (found : List Value) : List DataType → EStateM Fault Arena (List Value)
  | [] => return found
  | type :: rest => do
    let value ← pop type floor
    popOnto floor (value :: found) rest

/-- Pops values of the given types from the last to the first, and returns them in the order
of the types. -/
def popAll (types : List DataType) (floor : Nat) : EStateM Fault Arena (List Value) :=
  popOnto floor [] types.reverse

/-- The arena when the topmost slots, given topmost first, are gone and others are left. -/
def without (arena : Arena) (slots rest : List (Nat × DataType)) : Arena :=
  { arena with sp := bottom arena.sp slots, tags := rest }

section Pops

variable {arena : Arena} {floor : Nat}

/-- A pop succeeds when the topmost slot suits the type. -/
theorem pop_eq_ok_iff {type : DataType} {value : Value} {next : Arena} :
    pop type floor arena = .ok value next ↔
      ∃ slot rest, arena.tags = slot :: rest ∧ Suits floor slot type ∧
        value = arena.valueIn slot ∧ next = arena.without [slot] rest := by
  unfold pop
  cases htags : arena.tags with
  | nil => simp
  | cons slot rest =>
    obtain ⟨offset, found⟩ := slot
    dsimp only
    unfold Suits
    split_ifs with hfloor htype
    · simp [Nat.not_le.mpr hfloor]
    · simp [htype]
    · simp [Nat.not_lt.mp hfloor, not_not.mp htype, valueIn, without, bottom, eq_comm]

/-- The first pop comes before the others. -/
theorem popOnto_cons (found : List Value) (type : DataType) (types : List DataType) :
    popOnto floor found (type :: types) arena =
      match pop type floor arena with
      | .ok value next => popOnto floor (value :: found) types next
      | .error fault next => .error fault next := by
  change EStateM.bind (pop type floor) (fun value => popOnto floor (value :: found) types) arena = _
  unfold EStateM.bind
  cases pop type floor arena <;> rfl

/-- The pops succeed when the topmost slots suit the types, and take what these hold. -/
theorem popOnto_eq_ok_iff {found values : List Value} {types : List DataType} {final : Arena} :
    popOnto floor found types arena = .ok values final ↔
      ∃ slots rest, arena.tags = slots ++ rest ∧ List.Forall₂ (Suits floor) slots types ∧
        values = (slots.map arena.valueIn).reverse ++ found ∧
          final = arena.without slots rest := by
  induction types generalizing found arena with
  | nil =>
    constructor
    · intro hok
      cases hok
      exact ⟨[], final.tags, rfl, .nil, rfl, rfl⟩
    · rintro ⟨slots, rest, htags, ⟨⟩, rfl, rfl⟩
      rw [List.nil_append] at htags
      subst htags
      rfl
  | cons type types ih =>
    rw [popOnto_cons]
    constructor
    · intro hok
      cases hpop : pop type floor arena with
      | error fault next => rw [hpop] at hok; cases hok
      | ok value next =>
        rw [hpop] at hok
        obtain ⟨slot, others, htags, hsuits, rfl, rfl⟩ := pop_eq_ok_iff.mp hpop
        obtain ⟨slots, rest, hothers, hlower, rfl, rfl⟩ := ih.mp hok
        refine ⟨slot :: slots, rest, ?_, .cons hsuits hlower, ?_, rfl⟩
        · rw [htags, List.cons_append]
          exact congrArg _ hothers
        · rw [List.map_cons, List.reverse_cons, List.append_assoc]
          rfl
    · rintro ⟨slots, rest, htags, hall, rfl, rfl⟩
      cases hall with
      | @cons slot _ slots _ hsuits hlower =>
        have hpop := pop_eq_ok_iff.mpr ⟨slot, slots ++ rest, htags, hsuits, rfl, rfl⟩
        rw [hpop]
        refine ih.mpr ⟨slots, rest, rfl, hlower, ?_, rfl⟩
        rw [List.map_cons, List.reverse_cons, List.append_assoc]
        rfl

/-- The pops of a list of types succeed when the topmost slots suit them, and return what
these hold from the lowest up. -/
theorem popAll_eq_ok_iff {types : List DataType} {values : List Value} {final : Arena} :
    popAll types floor arena = .ok values final ↔
      List.Forall₂ (Suits floor) (arena.topSlots types.length) types ∧
        values = (arena.topSlots types.length).map arena.valueIn ∧
          final = arena.without (arena.tags.take types.length) (arena.tags.drop types.length) := by
  unfold popAll topSlots
  rw [popOnto_eq_ok_iff]
  constructor
  · rintro ⟨slots, rest, htags, hsuits, rfl, rfl⟩
    have hlength : slots.length = types.length := by
      rw [hsuits.length_eq, List.length_reverse]
    rw [htags, ← hlength, List.take_left, List.drop_left, List.append_nil, List.map_reverse]
    refine ⟨?_, rfl, rfl⟩
    rw [← List.reverse_reverse types]
    exact List.forall₂_reverse_iff.mpr hsuits
  · rintro ⟨hsuits, rfl, rfl⟩
    refine ⟨_, _, (List.take_append_drop types.length arena.tags).symm, ?_, ?_, rfl⟩
    · rw [← List.reverse_reverse (arena.tags.take types.length)]
      exact List.forall₂_reverse_iff.mpr hsuits
    · rw [List.append_nil, List.map_reverse]

/-- Popped values stood on top of the values that are left. -/
theorem values_popAll {types : List DataType} {values : List Value} {final : Arena}
    (hpopped : popAll types floor arena = .ok values final) :
    arena.values = final.values ++ values := by
  obtain ⟨-, rfl, rfl⟩ := popAll_eq_ok_iff.mp hpopped
  unfold Arena.values topSlots
  conv_lhs => rw [← List.take_append_drop types.length arena.tags]
  rw [List.reverse_append, List.map_append]
  rfl

end Pops

/-! ## The walk down from the top -/

section Walk

variable {types : List DataType} {slots rest : List (Nat × DataType)}

/-- Below the topmost of packed tags stand packed tags, which end where the lowest of these
starts. -/
theorem exists_packedTags_below (htags : packedTags types = slots ++ rest) :
    ∃ below, rest = packedTags below ∧ bottom (totalSize types) slots = totalSize below := by
  induction slots generalizing types with
  | nil => exact ⟨types, htags.symm, rfl⟩
  | cons slot slots ih =>
    cases types with
    | nil => cases htags
    | cons type below =>
      rw [packedTags, List.cons_append, List.cons.injEq] at htags
      obtain ⟨rfl, hbelow⟩ := htags
      exact ih hbelow

/-- Subtracting the sizes of the topmost of packed values from the top leads from one to the
next. -/
theorem offsetsBelow_packedTags (htags : packedTags types = slots ++ rest) (found : List Nat) :
    Machine.offsetsBelow (totalSize types) found (slots.map Prod.snd) =
      some ((slots.map Prod.fst).reverse ++ found, bottom (totalSize types) slots) := by
  induction slots generalizing types found with
  | nil => rfl
  | cons slot slots ih =>
    cases types with
    | nil => cases htags
    | cons type below =>
      rw [packedTags, List.cons_append, List.cons.injEq] at htags
      obtain ⟨rfl, hbelow⟩ := htags
      have hfits : ¬ totalSize (type :: below) < type.size := by
        rw [totalSize_cons]
        omega
      have hnext : totalSize (type :: below) - type.size = totalSize below := by
        rw [totalSize_cons, Nat.add_sub_cancel_left]
      rw [List.map_cons, Machine.offsetsBelow, if_neg hfits, hnext, ih hbelow, List.map_cons,
        List.reverse_cons, List.append_assoc]
      rfl

/-- An arena stays without gaps when its topmost values are gone. -/
theorem Gapless.without {arena : Arena} (hgapless : arena.Gapless)
    (htags : arena.tags = slots ++ rest) : (arena.without slots rest).Gapless := by
  obtain ⟨types, hpacked, htop⟩ := hgapless
  obtain ⟨below, hrest, hbottom⟩ := exists_packedTags_below (hpacked ▸ htags)
  exact ⟨below, hrest, by rw [Arena.without, htop, hbottom]⟩

/-- The walk down from the top finds the topmost slots when these have the types. -/
theorem Gapless.offsetsBelow_eq {arena : Arena} (hgapless : arena.Gapless) {expected : List DataType}
    (htypes : (arena.topSlots expected.length).map Prod.snd = expected) :
    Machine.offsetsBelow arena.sp [] expected.reverse =
      some ((arena.topSlots expected.length).map Prod.fst,
        bottom arena.sp (arena.tags.take expected.length)) := by
  obtain ⟨types, hpacked, htop⟩ := hgapless
  have hsplit := List.take_append_drop expected.length arena.tags
  have hdown : expected.reverse = (arena.tags.take expected.length).map Prod.snd := by
    rw [List.reverse_eq_iff, ← List.map_reverse]
    exact htypes.symm
  have hwalk := offsetsBelow_packedTags (hpacked.symm.trans hsplit.symm) []
  rw [List.append_nil, ← htop, ← hdown] at hwalk
  rw [hwalk, topSlots, List.map_reverse]

end Walk

end Arena

/-! ## The pops of a machine -/

namespace Machine

/-- A machine pops operands of given types from its arena, above the floor of its running
activation. -/
theorem popInto_eq (values : List Value) (types : List DataType) (machine : Machine) :
    popInto values types machine =
      onArena (Arena.popOnto machine.calls.floor values types) machine := by
  induction types generalizing values machine with
  | nil => rfl
  | cons type types ih =>
    change EStateM.bind (pop type) (fun value => popInto (value :: values) types) machine = _
    have hpop : pop type machine = onArena (Arena.pop type machine.calls.floor) machine := rfl
    unfold EStateM.bind
    rw [hpop, onArena_eq, onArena_eq, Arena.popOnto_cons]
    cases Arena.pop type machine.calls.floor machine.memory.arena with
    | error fault next => rfl
    | ok value next =>
      dsimp only
      rw [ih, onArena_eq]
      rfl

theorem popMany_eq (types : List DataType) (machine : Machine) :
    popMany types machine = onArena (Arena.popAll types machine.calls.floor) machine :=
  popInto_eq [] types.reverse machine

/-! ## What comes after the arguments -/

/-- What a tail call does when it has its arguments. -/
def replaceRunning (routine : Routine) (arguments : List Value) : Exec Unit := do
  let old ← frame
  onCalls CallStack.pop
  let (savedFp, savedIp) ← savedRegisters old.fp
  truncate old.base
  pushMany arguments
  layOut routine savedFp savedIp

/-- What a call of a host function does when it has its arguments. -/
def answer (function : External) (program : HostProgram) : Exec Unit := do
  match ← runHost program with
  | some value =>
    if value.type = function.returnType then push value
    else throw (.typeMismatch function.returnType value.type)
  | none =>
    if function.returnType = .void then return ()
    else throw (.typeMismatch function.returnType .void)

/-- What laying out an activation does when it has the offsets of its arguments. -/
def placeFrame (routine : Routine) (savedFp : UInt64) (savedIp : UInt32) (arguments : List Nat)
    (base : Nat) : Exec Unit := do
  push (.pointer savedFp)
  push ⟨.u32, savedIp.toUInt64⟩
  let fp ← sp
  let locals ← pushLocals [] routine.locals.toList
  let floor ← sp
  pushFrame ⟨routine, 0, fp, floor, base, arguments, locals⟩

section Calls

variable {machine : Machine} {values : List Value} {rest : Arena}

/-- What checks and pops its arguments goes on with the values of the pops. -/
theorem collect_of_popAll {types : List DataType}
    (hcheck : machine.memory.arena.checkTop types machine.calls.floor = .ok ())
    (hpopped : Arena.popAll types machine.calls.floor machine.memory.arena = .ok values rest)
    (next : List Value → Exec Unit) :
    (do checkTop types; let arguments ← popMany types; next arguments) machine =
      next values (machine.withArena rest) := by
  have hchecked : checkTop types machine = .ok () machine := by
    rw [checkTop, inspect, hcheck]
  have hpop : popMany types machine = .ok values (machine.withArena rest) := by
    rw [popMany_eq, onArena_eq, hpopped]
  change EStateM.bind (checkTop types) (fun _ => EStateM.bind (popMany types) next) machine = _
  simp only [EStateM.bind, hchecked, hpop]

/-- A tail call whose check succeeds and whose arguments are popped goes on with these. -/
theorem tailEnter_of_popAll {routine : Routine}
    (hcheck : machine.memory.arena.checkTop routine.parameters machine.calls.floor = .ok ())
    (hpopped : Arena.popAll routine.parameters machine.calls.floor machine.memory.arena =
      .ok values rest) :
    tailEnter routine machine = replaceRunning routine values (machine.withArena rest) :=
  collect_of_popAll hcheck hpopped (replaceRunning routine)

/-- So does a call of a host function, if the host has it. -/
theorem callExternal_of_popAll {host : Host} {function : External} {program : HostFunction}
    (hcheck : machine.memory.arena.checkTop function.parameters machine.calls.floor = .ok ())
    (hpopped : Arena.popAll function.parameters machine.calls.floor machine.memory.arena =
      .ok values rest)
    (hfound : host.find? function.library function.name = some program) :
    callExternal host function machine =
      answer function (program values) (machine.withArena rest) := by
  unfold callExternal
  rw [hfound]
  exact collect_of_popAll hcheck hpopped fun arguments => answer function (program arguments)

/-- An activation is laid out with the offsets that the walk finds. -/
theorem layOut_of_offsetsBelow {routine : Routine} {arguments : List Nat} {base : Nat}
    (hwalk : offsetsBelow machine.memory.arena.sp [] routine.parameters.reverse =
      some (arguments, base)) (savedFp : UInt64) (savedIp : UInt32) :
    layOut routine savedFp savedIp machine =
      placeFrame routine savedFp savedIp arguments base machine := by
  have hsp : sp machine = .ok machine.memory.arena.sp machine := rfl
  unfold layOut
  simp only [bind, EStateM.bind, hsp, hwalk]
  rfl

end Calls

/-- The calls of functions with parameters of the given types have their arguments. -/
structure Collects (machine : Machine) (types : List DataType) (values : List Value)
    (rest : Arena) : Prop where
  /-- A tail call goes on with the values. -/
  tail_call : ∀ routine : Routine, routine.parameters = types →
    tailEnter routine machine = replaceRunning routine values (machine.withArena rest)
  /-- A call of a host function goes on with the values. -/
  host_call : ∀ (host : Host) (function : External) (program : HostFunction),
    function.parameters = types → host.find? function.library function.name = some program →
      callExternal host function machine =
        answer function (program values) (machine.withArena rest)
  /-- An activation is laid out on the topmost slots. -/
  laid_out : ∀ (routine : Routine) (savedFp : UInt64) (savedIp : UInt32),
    routine.parameters = types →
      layOut routine savedFp savedIp machine =
        placeFrame routine savedFp savedIp
          ((machine.memory.arena.topSlots types.length).map Prod.fst) rest.sp machine

end Machine

/-! ## Agreement -/

namespace Arena

/-- The check, the pops and the walk down from the top look at the same slots. -/
structure ArgumentsAgree (arena : Arena) (types : List DataType) (floor : Nat) : Prop where
  /-- The check succeeds exactly when every pop does. -/
  check_iff : arena.checkTop types floor = .ok () ↔
    ∃ values rest, popAll types floor arena = .ok values rest
  /-- What is popped are the values in the topmost slots, from the lowest up, and the values
  below them stay. -/
  popped : ∀ values rest, popAll types floor arena = .ok values rest →
    values = (arena.topSlots types.length).map arena.valueIn ∧ values.map Value.type = types ∧
      arena.values = rest.values ++ values ∧ rest.Gapless
  /-- After a successful check the walk finds the offsets of these slots. -/
  offsets : arena.checkTop types floor = .ok () → ∃ base,
    Machine.offsetsBelow arena.sp [] types.reverse =
      some ((arena.topSlots types.length).map Prod.fst, base)
  /-- After a successful check no call faults before it has its arguments. -/
  collects : ∀ machine : Machine, machine.memory.arena = arena → machine.calls.floor = floor →
    arena.checkTop types floor = .ok () →
      ∃ values rest, popAll types floor arena = .ok values rest ∧
        machine.Collects types values rest

/-- In an arena without gaps the check, the pops and the walk agree on the arguments, whatever
their types and wherever the floor is. -/
theorem argumentsAgree_of_gapless {arena : Arena} (hgapless : arena.Gapless)
    (types : List DataType) (floor : Nat) : arena.ArgumentsAgree types floor := by
  have hcheck : arena.checkTop types floor = .ok () ↔
      ∃ values rest, popAll types floor arena = .ok values rest := by
    rw [checkTop_eq_ok_iff]
    constructor
    · exact fun hsuits => ⟨_, _, popAll_eq_ok_iff.mpr ⟨hsuits, rfl, rfl⟩⟩
    · rintro ⟨values, rest, hpopped⟩
      exact (popAll_eq_ok_iff.mp hpopped).1
  have hwalk (hok : arena.checkTop types floor = .ok ()) :=
    hgapless.offsetsBelow_eq (map_snd_of_suits (checkTop_eq_ok_iff.mp hok))
  refine
    { check_iff := hcheck
      popped := ?_
      offsets := fun hok => ⟨_, hwalk hok⟩
      collects := ?_ }
  · intro values rest hpopped
    have hvalues := values_popAll hpopped
    obtain ⟨hsuits, rfl, rfl⟩ := popAll_eq_ok_iff.mp hpopped
    refine ⟨rfl, ?_, hvalues, hgapless.without (List.take_append_drop _ _).symm⟩
    rw [List.map_map]
    exact map_snd_of_suits hsuits
  · rintro machine rfl rfl hok
    obtain ⟨values, rest, hpopped⟩ := hcheck.mp hok
    refine ⟨values, rest, hpopped, ?_, ?_, ?_⟩
    · rintro routine rfl
      exact Machine.tailEnter_of_popAll hok hpopped
    · rintro host function program rfl hfound
      exact Machine.callExternal_of_popAll hok hpopped hfound
    · rintro routine savedFp savedIp rfl
      obtain ⟨-, -, rfl⟩ := popAll_eq_ok_iff.mp hpopped
      exact Machine.layOut_of_offsetsBelow (hwalk hok) savedFp savedIp

/-- An arena with values of three widths side by side. -/
def threeWide : Arena :=
  ⟨16, #[0, 0, 0, 7, 1, 2, 255], 7, [(6, .u8), (4, .u16), (0, .i32)]⟩

/-- A floor at the lower argument lets both through, and one byte higher it cuts off only
that one. -/
theorem argumentsAgree_of_gapless_threeWide :
    threeWide.Gapless ∧ threeWide.checkTop [.u16, .u8] 4 = .ok () ∧
      threeWide.checkTop [.u16, .u8] 5 = .error .stackUnderflow ∧
        threeWide.ArgumentsAgree [.u16, .u8] 4 ∧ threeWide.ArgumentsAgree [.u16, .u8] 5 :=
  have hgapless : threeWide.Gapless := ⟨[.u8, .u16, .i32], by decide, by decide⟩
  ⟨hgapless, by decide, by decide, argumentsAgree_of_gapless hgapless _ _,
    argumentsAgree_of_gapless hgapless _ _⟩

end Arena

end StackCode
