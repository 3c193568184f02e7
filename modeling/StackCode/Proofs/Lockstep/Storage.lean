import StackCode.Host.Stdio
import StackCode.Proofs.Lockstep.Runs
import StackCode.Proofs.Memory.Resemblance

/-!
# Machines whose memories resemble each other

Two machines are compared whose arenas hold the same values, but may differ in room and in
the bytes that are not live, and of which the second one may have placed more resources.
How their resources belong together is left open here; the console functions of the host
are among the operations that respect every such comparison.

Main definitions:

- `Shelf`: the resources of a memory.
- `Bond.Supplies`: what a bond of resources has to respect.
- `Bond.storage`, `Pairing.storage`: memories and machines that are compared in this way.

Main result: theorem `Pairing.storage_lawful`.
-/

namespace StackCode

/-! ## Resources -/

/-- The resources of a memory, and where each of them was placed. -/
structure Shelf where
  resources : ByteArray
  placed : List (ResourceIndex × Nat)

namespace Shelf

/-- The shelf with one more resource. -/
def extended (shelf : Shelf) (index : ResourceIndex) (resource : Resource) : Shelf where
  resources := Memory.appended shelf.resources resource
  placed := (index, shelf.resources.size) :: shelf.placed

/-- The address of a resource, which is placed when it is first asked for. -/
def place (index : ResourceIndex) (resource : Resource) : EStateM Fault Shelf UInt64 :=
  fun shelf =>
    match shelf.placed.lookup index with
    | some offset => .ok (resourceBase + offset).toUInt64 shelf
    | none =>
      .ok (resourceBase + shelf.resources.size).toUInt64 (shelf.extended index resource)

end Shelf

namespace Memory

/-- The resources of a memory. -/
def shelf (memory : Memory) : Shelf := ⟨memory.resources, memory.placed⟩

/-- An operation on the resources as an operation on memory. -/
def onShelf {α : Type} (operation : EStateM Fault Shelf α) : EStateM Fault Memory α :=
  fun memory =>
    match operation memory.shelf with
    | .ok result shelf => .ok result ⟨memory.arena, shelf.resources, shelf.placed⟩
    | .error fault shelf => .error fault ⟨memory.arena, shelf.resources, shelf.placed⟩

/-- The three outcomes of writing by address. -/
theorem writeBytes_eq (address : UInt64) (bytes : List UInt8) (memory : Memory) :
    writeBytes address bytes memory =
      match memory.resolve address bytes.length with
      | .error fault => .error fault memory
      | .ok (.resource _) => .error (.invalidAddress address) memory
      | .ok (.arena offset) =>
        .ok () { memory with arena := memory.arena.overwritten offset bytes } := by
  rfl

end Memory

/-- Placing a resource is an operation on the resources. -/
theorem Machine.placeResource_eq (index : ResourceIndex) (resource : Resource) :
    Machine.placeResource index resource =
      Machine.onMemory (Memory.onShelf (Shelf.place index resource)) := by
  funext machine
  unfold Machine.placeResource Machine.onMemory Memory.onShelf Memory.placeResource Shelf.place
  cases hlookup : machine.memory.placed.lookup index <;>
    simp [hlookup, Memory.shelf, Shelf.extended]

namespace Bond

/-- What a bond of resources has to respect.  The second shelf holds what the first one holds,
and if it holds more, then every fault of the first one is excused.  With `roomy`, a lack of
room is excused as well. -/
structure Supplies (shelves : Bond Fault Shelf) (roomy : Prop) : Prop where
  fails : ∀ {fault : Fault} {shelf other : Shelf}, shelves.Tied shelf other →
    shelves.Failed fault shelf other
  contains : ∀ {shelf other : Shelf}, shelves.Tied shelf other →
    shelf.resources.data.toList <+: other.resources.data.toList
  misses : ∀ {shelf other : Shelf}, shelves.Tied shelf other →
    other.resources ≠ shelf.resources → ∀ fault, shelves.Excused fault shelf
  places : ∀ index resource,
    shelves.Keeps (fun _ => True) (Shelf.place index resource) (Shelf.place index resource)
  overflows : roomy → ∀ shelf, shelves.Excused .stackOverflow shelf

/-! ## Arenas -/

/-- Arenas that resemble each other.  With `roomy`, the second one may have more room, and a
lack of it in the first one is excused. -/
def arenas (roomy : Prop) : Bond Fault Arena where
  Tied arena other := (∃ mark, Arena.Resembles mark arena other) ∧
    (roomy ∨ other.capacity = arena.capacity)
  Failed _ arena other := (∃ mark, Arena.Resembles mark arena other) ∧
    (roomy ∨ other.capacity = arena.capacity)
  Lost _ := False
  Excused fault _ := roomy ∧ fault = .stackOverflow
  excused_of_lost _ hlost := hlost.elim

section Arenas

variable {roomy : Prop}

theorem arenas_push_keeps (value : Value) :
    (arenas roomy).Keeps (fun _ => True) (Arena.push value) (Arena.push value) := by
  apply Keeps.of_agrees fun _ hlost => hlost
  intro arena other htied
  rcases htied with ⟨⟨mark, hresembles⟩, hroomy⟩
  have hcapacity := hresembles.capacity_le
  rw [Arena.push_eq, Arena.push_eq, hresembles.sp_eq]
  by_cases hvoid : value.type = .void
  · rw [if_pos hvoid, if_pos hvoid]
    exact .inr (.error ⟨⟨mark, hresembles⟩, hroomy⟩)
  · rw [if_neg hvoid, if_neg hvoid]
    by_cases hfull : arena.capacity < arena.sp + value.size
    · rw [if_pos hfull]
      rcases hroomy with hroomy | hsame
      · exact .inl ⟨hroomy, rfl⟩
      · rw [hsame, if_pos hfull]
        exact .inr (.error ⟨⟨mark, hresembles⟩, .inr hsame⟩)
    · rw [if_neg hfull, if_neg (by omega)]
      have hpushed := hresembles.pushed (Nat.le_of_not_lt hfull)
      exact .inr (.ok .intro ⟨⟨_, hpushed⟩, hroomy⟩)

theorem arenas_pop_keeps (type : DataType) (floor : Nat) :
    (arenas roomy).Keeps (fun value => value.type = type) (Arena.pop type floor)
      (Arena.pop type floor) := by
  apply Keeps.of_agrees fun _ hlost => hlost
  intro arena other htied
  rcases htied with ⟨⟨mark, hresembles⟩, hroomy⟩
  right
  unfold Arena.pop
  rw [hresembles.tags_eq]
  cases htags : arena.tags with
  | nil => exact .error ⟨⟨mark, hresembles⟩, hroomy⟩
  | cons tag tags =>
    rcases tag with ⟨offset, found⟩
    simp only
    by_cases hdeep : offset < floor
    · rw [if_pos hdeep, if_pos hdeep]
      exact .error ⟨⟨mark, hresembles⟩, hroomy⟩
    · rw [if_neg hdeep, if_neg hdeep]
      by_cases htype : found = type
      · have hbelow := hresembles.tags_le (offset, found) (by simp [htags])
        rw [if_neg (not_not_intro htype), if_neg (not_not_intro htype),
          hresembles.valueAt_eq hbelow]
        exact .ok htype ⟨⟨mark, hresembles.popped htags⟩, hroomy⟩
      · rw [if_pos htype, if_pos htype]
        exact .error ⟨⟨mark, hresembles⟩, hroomy⟩

theorem arenas_write_keeps (offset : Nat) (value : Value) :
    (arenas roomy).Keeps (fun _ => True) (Arena.write offset value)
      (Arena.write offset value) := by
  apply Keeps.of_agrees fun _ hlost => hlost
  intro arena other htied
  rcases htied with ⟨⟨mark, hresembles⟩, hroomy⟩
  right
  rw [Arena.write_eq, Arena.write_eq, hresembles.sp_eq]
  by_cases hlive : offset + value.size ≤ arena.sp
  · rw [if_pos hlive, if_pos hlive]
    exact .ok .intro ⟨⟨mark, hresembles.overwritten offset value.bytes⟩, hroomy⟩
  · rw [if_neg hlive, if_neg hlive]
    exact .error ⟨⟨mark, hresembles⟩, hroomy⟩

theorem arenas_truncate_keeps (offset : Nat) :
    (arenas roomy).Keeps (fun _ => True) (fun arena => .ok () (arena.truncate offset))
      (fun arena => .ok () (arena.truncate offset)) := by
  apply Keeps.of_agrees fun _ hlost => hlost
  intro arena other htied
  rcases htied with ⟨⟨mark, hresembles⟩, hroomy⟩
  exact .inr (.ok .intro ⟨⟨mark, hresembles.truncate offset⟩, hroomy⟩)

end Arenas

/-! ## Memories -/

/-- Memories with arenas that resemble each other, and with bonded resources. -/
def storage (roomy : Prop) (shelves : Bond Fault Shelf) : Bond Fault Memory where
  Tied memory other :=
    (arenas roomy).Tied memory.arena other.arena ∧ shelves.Tied memory.shelf other.shelf
  Failed fault memory other :=
    (arenas roomy).Tied memory.arena other.arena ∧ shelves.Failed fault memory.shelf other.shelf
  Lost memory := shelves.Lost memory.shelf
  Excused fault memory := shelves.Excused fault memory.shelf
  excused_of_lost fault hlost := shelves.excused_of_lost fault hlost

section Storage

variable {α : Type} {known : α → Prop} {roomy : Prop} {shelves : Bond Fault Shelf}

/-- An operation on the resources that keeps their bond. -/
theorem storage_onShelf_keeps {operation : EStateM Fault Shelf α}
    (hkeeps : shelves.Keeps known operation operation) :
    (storage roomy shelves).Keeps known (Memory.onShelf operation) (Memory.onShelf operation) := by
  have hstrays : ∀ {memory : Memory}, shelves.Strays known (operation memory.shelf) →
      (storage roomy shelves).Strays known (Memory.onShelf operation memory) := by
    intro memory hlost
    unfold Memory.onShelf
    cases hresult : operation memory.shelf with
    | ok result shelf =>
      rw [hresult] at hlost
      exact hlost
    | error fault shelf =>
      rw [hresult] at hlost
      exact hlost
  constructor
  · intro memory hlost
    exact hstrays (hkeeps.strays hlost)
  · intro memory other htied
    rcases hkeeps.agrees htied.2 with hlost | hagrees
    · exact .inl (hstrays hlost)
    · right
      unfold Memory.onShelf
      generalize operation memory.shelf = found, operation other.shelf = expected at hagrees
      cases hagrees with
      | ok hknown hafter => exact .ok hknown ⟨htied.1, hafter⟩
      | error hfailed => exact .error ⟨htied.1, hfailed⟩

variable (hsupplies : shelves.Supplies roomy)
include hsupplies

/-- Tied memories resemble each other. -/
theorem storage_resembles {memory other : Memory}
    (htied : (storage roomy shelves).Tied memory other) : memory.Resembles other :=
  ⟨htied.1.1, hsupplies.contains htied.2⟩

/-- An operation on the arenas that keeps their bond. -/
theorem storage_onArena_keeps {operation : EStateM Fault Arena α}
    (hkeeps : (arenas roomy).Keeps known operation operation)
    (hknown : ∀ arena result after, operation arena = .ok result after → known result) :
    (storage roomy shelves).Keeps known (Memory.onArena operation) (Memory.onArena operation) := by
  constructor
  · intro memory hlost
    unfold Memory.onArena
    cases hresult : operation memory.arena with
    | ok result arena =>
      simp only [hresult]
      exact ⟨hknown _ _ _ hresult, hlost⟩
    | error fault arena =>
      simp only [hresult]
      exact shelves.excused_of_lost fault hlost
  · intro memory other htied
    rcases htied with ⟨harenas, hshelves⟩
    unfold Memory.onArena
    rcases hkeeps.agrees harenas with hstrays | hagrees
    · left
      cases hresult : operation memory.arena with
      | ok result arena =>
        rw [hresult] at hstrays
        exact hstrays.2.elim
      | error fault arena =>
        rw [hresult] at hstrays
        simp only [hresult]
        rcases hstrays with ⟨hroomy, rfl⟩
        exact hsupplies.overflows hroomy _
    · right
      generalize hfirst : operation memory.arena = found,
        hsecond : operation other.arena = expected at hagrees
      cases hagrees with
      | ok hresult hafter =>
        simp only [hfirst, hsecond]
        exact .ok hresult ⟨hafter, hshelves⟩
      | error hfailed =>
        simp only [hfirst, hsecond]
        exact .error ⟨hfailed, hsupplies.fails hshelves⟩

/-- A fault of the first memory that the second one need not find when it holds more. -/
theorem storage_excused {memory other : Memory}
    (htied : (storage roomy shelves).Tied memory other)
    (hmore : other.resources ≠ memory.resources) (fault : Fault) :
    (storage roomy shelves).Excused fault memory :=
  hsupplies.misses htied.2 hmore fault

/-- Writing a value by address. -/
theorem storage_write_keeps (address : UInt64) {value : Value} (hstorable : value.type ≠ .void) :
    (storage roomy shelves).Keeps (fun _ => True) (Memory.write address value)
      (Memory.write address value) := by
  unfold Memory.write
  constructor
  · intro memory hlost
    rw [Memory.writeBytes_eq]
    cases memory.resolve address value.bytes.length with
    | error fault => exact shelves.excused_of_lost fault hlost
    | ok region =>
      cases region with
      | arena offset => exact ⟨.intro, hlost⟩
      | resource offset => exact shelves.excused_of_lost _ hlost
  · intro memory other htied
    have hresembles := storage_resembles hsupplies htied
    have hlength : 0 < value.bytes.length := by
      rw [Value.length_bytes]
      exact DataType.size_pos hstorable
    rw [Memory.writeBytes_eq, Memory.writeBytes_eq]
    rcases hresembles.resolve_eq address hlength with hsame | ⟨hnowhere, hmore⟩
    · right
      rw [hsame]
      rcases htied with ⟨⟨⟨mark, harenas⟩, hroomy⟩, hshelves⟩
      cases memory.resolve address value.bytes.length with
      | error fault => exact .error ⟨⟨⟨mark, harenas⟩, hroomy⟩, hsupplies.fails hshelves⟩
      | ok region =>
        cases region with
        | arena offset =>
          exact .ok .intro
            ⟨⟨⟨mark, harenas.overwritten offset value.bytes⟩, hroomy⟩, hshelves⟩
        | resource offset =>
          exact .error ⟨⟨⟨mark, harenas⟩, hroomy⟩, hsupplies.fails hshelves⟩
    · left
      rw [hnowhere]
      exact storage_excused hsupplies htied hmore _

end Storage

end Bond

/-! ## Machines -/

/-- Consoles that print the same and read the same. -/
structure Echoes (Consoles : Console → Console → Prop) : Prop where
  prints : ∀ {console second : Console} (bytes : List UInt8), Consoles console second →
    Consoles (console.write bytes) (second.write bytes)
  reads : ∀ {console second : Console}, Consoles console second →
    second.readByte.1 = console.readByte.1 ∧ Consoles console.readByte.2 second.readByte.2

/-! ### Host functions -/

/-- The functions of the console host. -/
theorem Host.eq_of_find?_stdio {library name : String} {function : HostFunction}
    (hfound : stdio.find? library name = some function) : function = putchar ∨ function = puts := by
  rcases List.lookup_eq_some_iff.mp hfound with ⟨before, after, hfunctions, -⟩
  have hmember : ((library, name), function) ∈ stdio.functions := by simp [hfunctions]
  simp only [stdio, register, empty, List.filter_nil, List.mem_cons, List.mem_filter] at hmember
  rcases hmember with hputs | ⟨hputchar | hnone, -⟩
  · cases hputs
    exact .inr rfl
  · cases hputchar
    exact .inl rfl
  · cases hnone

namespace Machine

/-- The string at an address, or the failure of a host function that asks for it. -/
def textOrFailure (address : UInt64) (memory : Memory) : Except Fault (List UInt8) :=
  match memory.readCString address with
  | .ok text => .ok text
  | .error fault => .error (.hostFunction fault.message)

theorem runHost_done (result : Option Value) : runHost (.done result) = pure result := rfl

theorem runHost_fail (message : String) :
    runHost (.fail message) = throw (.hostFunction message) := rfl

theorem runHost_print (bytes : List UInt8) (next : HostProgram) :
    runHost (.print bytes next) = (do print bytes; runHost next) := rfl

theorem runHost_readCString (address : UInt64) (next : List UInt8 → HostProgram) :
    runHost (.readCString address (.orFail next)) =
      (do
        let text ← inspect fun machine => textOrFailure address machine.memory
        runHost (next text)) := by
  funext machine
  change _ = EStateM.bind _ _ machine
  unfold EStateM.bind inspect textOrFailure
  unfold runHost
  simp only [HostProgram.run]
  cases machine.memory.readCString address with
  | ok text => rfl
  | error fault => rfl

end Machine

namespace Pairing

open Machine

/-- Machines whose memories resemble each other, with the same meters and with consoles that
are related in a given way.  The notes of their hosts may differ: the console functions make
no use of them. -/
def storage (roomy : Prop) (shelves : Bond Fault Shelf) (Consoles : Console → Console → Prop) :
    Pairing where
  memory := Bond.storage roomy shelves
  Consoles := Consoles
  Notes _ _ := True
  Meters meters second := second = meters

section Storage

variable {α : Type} {roomy : Prop} {shelves : Bond Fault Shelf}
  {Consoles : Console → Console → Prop} (hsupplies : shelves.Supplies roomy)
include hsupplies

/-- Looking at memory in a way that tells tied memories apart only by a fault which is
excused. -/
theorem storage_inspect_keeps (view : Memory → Except Fault α)
    (hviews : ∀ memory other, memory.Resembles other → view other = view memory ∨
      (∃ fault, view memory = .error fault) ∧ other.resources ≠ memory.resources) :
    (storage roomy shelves Consoles).bond.Keeps (fun _ => True)
      (inspect fun machine => view machine.memory)
      (inspect fun machine => view machine.memory) := by
  constructor
  · intro machine hlost
    simp only [inspect]
    cases view machine.memory with
    | ok result => exact ⟨.intro, hlost⟩
    | error fault => exact shelves.excused_of_lost fault hlost
  · intro machine second htied
    simp only [inspect]
    have hresembles := Bond.storage_resembles hsupplies htied.1
    rcases hviews _ _ hresembles with hsame | ⟨⟨fault, hfault⟩, hmore⟩
    · right
      rw [hsame]
      cases view machine.memory with
      | ok result => exact .ok .intro htied
      | error fault => exact .error ⟨⟨htied.1.1, hsupplies.fails htied.1.2⟩, htied.2⟩
    · left
      rw [hfault]
      exact Bond.storage_excused hsupplies htied.1 hmore fault

/-- Every operation of the machine respects machines whose memories resemble each other, if
the functions of the host do. -/
theorem storage_lawful_of_hosts (hechoes : Echoes Consoles) {setup other : Setup}
    (hmodule : other.module = setup.module) (hhost : other.host = setup.host)
    (hdepths : other.limits.maxCallDepth = setup.limits.maxCallDepth ∨
      roomy ∧ setup.limits.maxCallDepth ≤ other.limits.maxCallDepth)
    (hhosts : ∀ {library name : String} {function : HostFunction},
      setup.host.find? library name = some function → ∀ arguments,
        (storage roomy shelves Consoles).bond.Keeps (fun _ => True)
          (runHost (function arguments)) (runHost (function arguments))) :
    (storage roomy shelves Consoles).Lawful setup other where
  module_eq := hmodule
  host_eq := hhost
  depths := by
    rcases hdepths with hsame | ⟨hroomy, hdeeper⟩
    · exact .inl hsame
    · exact .inr ⟨hdeeper, fun memory => hsupplies.overflows hroomy memory.shelf⟩
  fails _ htied := ⟨htied.1, hsupplies.fails htied.2⟩
  sp_eq htied := by
    rcases htied.1.1 with ⟨mark, hresembles⟩
    exact hresembles.sp_eq
  tags_eq htied := by
    rcases htied.1.1 with ⟨mark, hresembles⟩
    exact hresembles.tags_eq
  read_eq htied := by
    rcases htied.1.1 with ⟨mark, hresembles⟩
    exact hresembles.read_eq
  pushes value :=
    Bond.storage_onArena_keeps hsupplies (Bond.arenas_push_keeps value) fun _ _ _ _ => .intro
  pops type floor := by
    apply Bond.storage_onArena_keeps hsupplies (Bond.arenas_pop_keeps type floor)
    intro arena value after hpop
    unfold Arena.pop at hpop
    split at hpop
    · cases hpop
    · split at hpop
      · cases hpop
      · split at hpop
        · cases hpop
        · rename_i hfound
          cases hpop
          exact not_not.mp hfound
  writes offset value :=
    Bond.storage_onArena_keeps hsupplies (Bond.arenas_write_keeps offset value)
      fun _ _ _ _ => .intro
  truncates offset :=
    Bond.storage_onArena_keeps hsupplies (Bond.arenas_truncate_keeps offset)
      fun _ _ _ _ => .intro
  loads address type hstorable := by
    apply storage_inspect_keeps hsupplies fun memory => memory.read address type
    intro memory second hresembles
    rcases hresembles.read_eq address hstorable with hsame | ⟨hnowhere, hmore⟩
    · exact .inl hsame
    · exact .inr ⟨⟨_, hnowhere⟩, hmore⟩
  stores address value hstorable := Bond.storage_write_keeps hsupplies address hstorable
  places index resource := by
    rw [placeResource_eq]
    exact onMemory_keeps (Bond.storage_onShelf_keeps (hsupplies.places index resource))
  prints bytes hconsoles := hechoes.prints bytes hconsoles
  reads hconsoles := hechoes.reads hconsoles
  hosts := hhosts

/-- The console functions of the host. -/
theorem storage_runHost_keeps (hechoes : Echoes Consoles) {library name : String}
    {function : HostFunction} (hfound : Host.stdio.find? library name = some function)
    (arguments : List Value) :
    (storage roomy shelves Consoles).bond.Keeps (fun _ => True) (runHost (function arguments))
      (runHost (function arguments)) := by
  -- Printing and failing are respected, whatever the host.
  let hostless : Setup := ⟨⟨"", [], .empty⟩, .default, .empty⟩
  have hlawful : (storage roomy shelves Consoles).Lawful hostless hostless :=
    storage_lawful_of_hosts hsupplies hechoes rfl rfl (.inl rfl) nofun
  have hprints : ∀ bytes result, (storage roomy shelves Consoles).bond.Keeps (fun _ => True)
      (runHost (.print bytes (.done result))) (runHost (.print bytes (.done result))) := by
    intro bytes result
    rw [runHost_print, runHost_done]
    exact .bind (print_keeps hlawful bytes) fun _ _ => .pure .intro
  have hfails : ∀ message, (storage roomy shelves Consoles).bond.Keeps (fun _ => True)
      (runHost (.fail message)) (runHost (.fail message)) := by
    intro message
    rw [runHost_fail]
    exact throw_keeps hlawful nofun
  rcases Host.eq_of_find?_stdio hfound with rfl | rfl
  · unfold Host.putchar HostProgram.withArgument
    cases arguments[0]? with
    | none => exact hfails _
    | some value => exact hprints _ _
  · unfold Host.puts HostProgram.withArgument
    cases arguments[0]? with
    | none => exact hfails _
    | some value =>
      simp only [runHost_readCString]
      apply Bond.Keeps.bind (storage_inspect_keeps hsupplies (textOrFailure value.raw) _)
      · exact fun text _ => hprints _ _
      · intro memory second hresembles
        unfold textOrFailure
        rcases hresembles.readCString_eq value.raw with hsame | ⟨hnowhere, hmore⟩
        · rw [hsame]
          exact .inl rfl
        · rw [hnowhere]
          exact .inr ⟨⟨_, rfl⟩, hmore⟩

/-- Every operation of a machine with the console functions as its host respects machines
whose memories resemble each other. -/
theorem storage_lawful (hechoes : Echoes Consoles) (module : Module) {limits more : Limits}
    (hdepths : more.maxCallDepth = limits.maxCallDepth ∨
      roomy ∧ limits.maxCallDepth ≤ more.maxCallDepth) :
    (storage roomy shelves Consoles).Lawful ⟨module, limits, .stdio⟩ ⟨module, more, .stdio⟩ :=
  storage_lawful_of_hosts hsupplies hechoes rfl rfl hdepths
    (storage_runHost_keeps hsupplies hechoes)

/-- Whole runs of machines whose memories resemble each other, with the console functions as
their host. -/
theorem storage_runUpTo_follows (hechoes : Echoes Consoles) (module : Module)
    {limits more : Limits}
    (hdepths : more.maxCallDepth = limits.maxCallDepth ∨
      roomy ∧ limits.maxCallDepth ≤ more.maxCallDepth) (bound : Nat) {machine second : Machine}
    (htied : (storage roomy shelves Consoles).bond.Tied (machine.reset limits)
      (second.reset more)) :
    (storage roomy shelves Consoles).Strays (runUpTo ⟨module, limits, .stdio⟩ bound machine) ∨
      (storage roomy shelves Consoles).Matches (runUpTo ⟨module, limits, .stdio⟩ bound machine)
        (runUpTo ⟨module, more, .stdio⟩ bound second) := by
  apply runUpTo_follows (storage_lawful hsupplies hechoes module hdepths) _ bound htied
  exact spend_keeps (fun _ _ => Iff.rfl) fun hmemory => ⟨hmemory.1, hsupplies.fails hmemory.2⟩

end Storage

/-- Accounts of runs that have come equally far. -/
theorem Matches.accounts {roomy : Prop} {shelves : Bond Fault Shelf}
    {Consoles : Console → Console → Prop} {outcome second : Outcome}
    (hmatches : (storage roomy shelves Consoles).Matches outcome second) :
    second.account.verdict = outcome.account.verdict ∧
      second.account.executed = outcome.account.executed ∧
      second.account.peak = outcome.account.peak ∧
      Consoles outcome.account.console second.account.console := by
  have halike := hmatches.alike
  exact ⟨hmatches.verdict_eq, congrArg Prod.snd halike.meters, halike.peak_eq, halike.consoles⟩

end Pairing

end StackCode
