import StackCode.Proofs.Building.Operations

/-!
# What a sequence of operations builds

Operations on many definitions may be interleaved in any way.  Each definition comes out as
its own operations say: those about the others, those that fail and those after its closing
leave no trace in it.

Main definitions:

- `Builder.Numbered`: slots have consecutive identifiers, and the position map knows them.
- `Slot.follow`: a slot while any operation is performed.
- `routineChanges`, `externalChanges`: the changes among the operations about one definition.
- `Builder.Faithful`: the module that a sequence of operations has to build.

Main results:

- Theorem `Builder.Numbered.slot?_eq_some_iff`: the position map finds exactly the slots.
- Theorem `Builder.Numbered.getElem?_perform`: an operation reaches only its slot.
- Theorem `Builder.Numbered.perform`: the position map stays consistent with the slots.
- Theorem `Builder.Numbered.getElem?_run`: a slot follows the operations about it.
- Theorem `Builder.run_faithful`: every sequence of operations builds what it has to.
-/

namespace StackCode

/-! ## One slot among others -/

/-- The slot of a definition after an operation on its builder. -/
def Slot.follow (id : DefinitionId) (slot : Slot) (operation : Operation) : Slot :=
  if operation.target? = some id then slot.perform operation else slot

namespace Slot

/-- A slot keeps the identifier of its definition. -/
theorem finish_perform {slot : Slot} {definition : Definition}
    (hfinish : slot.finish = some definition) (operation : Operation) :
    ∃ after, (slot.perform operation).finish = some after ∧ after.id = definition.id := by
  rcases slot.perform_cases operation with
    hkept | ⟨_, change, draft, -, rfl, hperform⟩ | ⟨_, change, draft, -, rfl, hperform⟩
  · exact ⟨definition, hkept.trans hfinish, rfl⟩
  · cases hfinish
    rw [hperform]
    exact ⟨_, rfl, draft.id_perform change⟩
  · cases hfinish
    rw [hperform]
    exact ⟨_, rfl, draft.id_perform change⟩

theorem finish_follow {slot : Slot} {definition : Definition}
    (hfinish : slot.finish = some definition) (id : DefinitionId) (operation : Operation) :
    ∃ after, (slot.follow id operation).finish = some after ∧ after.id = definition.id := by
  unfold follow
  split_ifs
  · exact finish_perform hfinish operation
  · exact ⟨definition, hfinish, rfl⟩

theorem perform_close {slot : Slot} {definition : Definition}
    (hfinish : slot.finish = some definition) (id : DefinitionId) :
    slot.perform (.close id) = closed definition := by
  cases slot with
  | closing => cases hfinish
  | _ =>
    cases hfinish
    rfl

/-- A slot goes through the operations about it and no others. -/
theorem foldl_follow (id : DefinitionId) (slot : Slot) (operations : List Operation) :
    operations.foldl (follow id) slot =
      (operations.filter (·.addresses id)).foldl perform slot := by
  induction operations generalizing slot with
  | nil => rfl
  | cons operation operations ih =>
    rw [List.foldl_cons, ih]
    by_cases haddressed : operation.target? = some id
    · simp [follow, Operation.addresses, haddressed]
    · simp [follow, Operation.addresses, haddressed]

theorem foldl_perform_closed (definition : Definition) (operations : List Operation) :
    operations.foldl perform (closed definition) = closed definition := by
  induction operations with
  | nil => rfl
  | cons operation operations ih => exact ih

end Slot

/-! ## Histories of routines and external functions -/

/-- The changes of a routine among the operations about it: those before its closing. -/
def routineChanges : List Operation → List RoutineChange
  | .changeRoutine _ change :: operations => change :: routineChanges operations
  | .close _ :: _ => []
  | _ :: operations => routineChanges operations
  | [] => []

/-- The changes of an external function among the operations about it: those before its
closing. -/
def externalChanges : List Operation → List ExternalChange
  | .changeExternal _ change :: operations => change :: externalChanges operations
  | .close _ :: _ => []
  | _ :: operations => externalChanges operations
  | [] => []

theorem finish_foldl_routine (draft : Routine.Draft) (operations : List Operation) :
    (operations.foldl Slot.perform (.routine draft)).finish =
      some (.routine ((routineChanges operations).foldl Routine.Draft.perform draft).finish) := by
  induction operations generalizing draft with
  | nil => rfl
  | cons operation operations ih =>
    cases operation with
    | changeRoutine id change => exact ih (draft.perform change)
    | close id =>
      rw [List.foldl_cons, Slot.perform_close rfl, Slot.foldl_perform_closed]
      rfl
    | _ => exact ih draft

theorem finish_foldl_external (draft : External.Draft) (operations : List Operation) :
    (operations.foldl Slot.perform (.external draft)).finish =
      some (.external
        ((externalChanges operations).foldl External.Draft.perform draft).finish) := by
  induction operations generalizing draft with
  | nil => rfl
  | cons operation operations ih =>
    cases operation with
    | changeExternal id change => exact ih (draft.perform change)
    | close id =>
      rw [List.foldl_cons, Slot.perform_close rfl, Slot.foldl_perform_closed]
      rfl
    | _ => exact ih draft

/-! ## Numbered definitions -/

namespace Builder

/-- A filter that keeps everything keeps every place. -/
theorem getElem?_filterMap {α β : Type} {f : α → Option β} {list : List α}
    (hkept : ∀ a ∈ list, f a ≠ none) (index : Nat) :
    (list.filterMap f)[index]? = list[index]?.bind f := by
  induction list generalizing index with
  | nil => simp
  | cons first rest ih =>
    rcases List.forall_mem_cons.mp hkept with ⟨hfirst, hrest⟩
    rcases Option.ne_none_iff_exists'.mp hfirst with ⟨b, hb⟩
    rw [List.filterMap_cons_some hb]
    cases index with
    | zero => simp [hb]
    | succ index => simpa using ih hrest index

/-- The definitions of a builder have consecutive identifiers, the next one follows, and the
position map tells where each of them stands. -/
structure Numbered (start : DefinitionId) (builder : Builder) : Prop where
  next : builder.ids.next.toNat = start.toNat + builder.slots.length
  ids : ∀ index slot, builder.slots[index]? = some slot →
    ∃ definition, slot.finish = some definition ∧ definition.id.toNat = start.toNat + index
  positions : ∀ id index, builder.position? id = some index ↔
    index < builder.slots.length ∧ id.toNat = start.toNat + index

theorem numbered_new (name : String) (start : DefinitionId) : (new name start).Numbered start :=
  ⟨rfl, by simp [new], by simp [new, position?]⟩

/-- An operation about a definition registers none. -/
theorem perform_kept (builder : Builder) {operation : Operation} {id : DefinitionId}
    (htarget : operation.target? = some id) :
    operation.registers = false ∧ (builder.perform operation).1.ids = builder.ids ∧
      (builder.perform operation).1.positions = builder.positions ∧
      (builder.perform operation).1.slots.length = builder.slots.length := by
  constructor
  · cases operation with
    | addRoutine | addExternal => cases htarget
    | _ => rfl
  · cases hslot : builder.slot? id with
    | none =>
      rcases perform_unknown htarget hslot with ⟨kind, hunknown⟩
      simp [hunknown]
    | some found => simp [perform_addressed htarget hslot, setSlot]

/-- What an operation registers stands last and has the next identifier. -/
theorem perform_registering (builder : Builder) {operation : Operation}
    (hregisters : operation.registers = true) :
    ∃ slot definition, slot.finish = some definition ∧ definition.id = builder.ids.next ∧
      (builder.perform operation).1.slots = builder.slots ++ [slot] ∧
      (builder.perform operation).1.positions =
        (builder.ids.next, builder.slots.length) :: builder.positions := by
  cases operation with
  | addRoutine name => exact ⟨.routine (.new builder.ids.next name), _, rfl, rfl, rfl, rfl⟩
  | addExternal name => exact ⟨.external (.new builder.ids.next name), _, rfl, rfl, rfl, rfl⟩
  | _ => cases hregisters

/-- An operation that registers no definition leaves the position map alone. -/
theorem position?_perform (builder : Builder) {operation : Operation}
    (hregisters : operation.registers = false) (id : DefinitionId) :
    (builder.perform operation).1.position? id = builder.position? id := by
  have hpositions : (builder.perform operation).1.positions = builder.positions := by
    cases htarget : operation.target? with
    | none => simpa [hregisters] using (perform_unaddressed builder htarget).2.2.1
    | some id => exact (perform_kept builder htarget).2.2.1
  rw [position?, position?, hpositions]

theorem length_slots_perform (builder : Builder) (operation : Operation) :
    (builder.perform operation).1.slots.length =
      builder.slots.length + if operation.registers then 1 else 0 := by
  cases htarget : operation.target? with
  | none =>
    rw [(perform_unaddressed builder htarget).2.1]
    cases operation <;> simp [Operation.registered, Operation.registers]
  | some id =>
    rcases perform_kept builder htarget with ⟨hregisters, -, -, hlength⟩
    simp [hregisters, hlength]

theorem length_slots_run (builder : Builder) (operations : List Operation) :
    (builder.run operations).slots.length =
      builder.slots.length + operations.countP Operation.registers := by
  induction operations generalizing builder with
  | nil => rfl
  | cons operation operations ih =>
    rw [run_cons, ih, length_slots_perform, List.countP_cons]
    omega

theorem next_perform (builder : Builder) (operation : Operation) :
    (builder.perform operation).1.ids.next =
      builder.ids.next + if operation.registers then 1 else 0 := by
  cases htarget : operation.target? with
  | none => exact (perform_unaddressed builder htarget).2.2.2
  | some id =>
    rcases perform_kept builder htarget with ⟨hregisters, hids, -, -⟩
    simp [hregisters, hids]

namespace Numbered

variable {start id : DefinitionId} {builder : Builder} {slot : Slot} {index : Nat}

/-- The position map finds the slots, each under its identifier. -/
theorem slot?_eq_some_iff (hnumbered : builder.Numbered start) :
    builder.slot? id = some (index, slot) ↔
      builder.slots[index]? = some slot ∧ id.toNat = start.toNat + index := by
  constructor
  · intro hslot
    refine ⟨getElem?_of_slot? hslot, ?_⟩
    rcases Option.bind_eq_some_iff.mp hslot with ⟨position, hposition, hfound⟩
    rcases Option.map_eq_some_iff.mp hfound with ⟨_, -, hsame⟩
    cases hsame
    exact ((hnumbered.positions id index).mp hposition).2
  · rintro ⟨hslot, hid⟩
    have hlt := (List.getElem?_eq_some_iff.mp hslot).1
    simp [slot?, (hnumbered.positions id index).mpr ⟨hlt, hid⟩, hslot]

/-- An operation reaches only the slot of the definition that it is about. -/
theorem getElem?_perform (hnumbered : builder.Numbered start)
    (hslot : builder.slots[index]? = some slot) (hid : id.toNat = start.toNat + index)
    (operation : Operation) :
    (builder.perform operation).1.slots[index]? = some (slot.follow id operation) := by
  have hlt : index < builder.slots.length := (List.getElem?_eq_some_iff.mp hslot).1
  cases htarget : operation.target? with
  | none =>
    rw [(perform_unaddressed builder htarget).2.1, List.getElem?_append_left hlt, hslot,
      Slot.follow, htarget, if_neg (by simp)]
  | some other =>
    by_cases hsame : other = id
    · rw [hsame] at htarget
      have hfound := hnumbered.slot?_eq_some_iff.mpr ⟨hslot, hid⟩
      rw [perform_addressed htarget hfound, Slot.follow, if_pos htarget]
      exact List.getElem?_set_self hlt
    · have hother : operation.target? ≠ some id := by
        rw [htarget]
        exact fun heq => hsame (Option.some.inj heq)
      rw [Slot.follow, if_neg hother]
      cases hfound : builder.slot? other with
      | none =>
        rcases perform_unknown htarget hfound with ⟨kind, hunknown⟩
        rw [hunknown, hslot]
      | some found =>
        -- Another identifier stands at another position.
        have helsewhere : found.1 ≠ index := by
          rintro rfl
          have hposition := (hnumbered.slot?_eq_some_iff.mp hfound).2
          exact hsame (UInt32.toNat.inj (hposition.trans hid.symm))
        rw [perform_addressed htarget hfound, ← hslot]
        exact List.getElem?_set_ne helsewhere

section Steps

variable {operation : Operation}

theorem next_perform (hnumbered : builder.Numbered start)
    (hroom : start.toNat + (builder.perform operation).1.slots.length < 2 ^ 32) :
    (builder.perform operation).1.ids.next.toNat =
      start.toNat + (builder.perform operation).1.slots.length := by
  rw [length_slots_perform] at hroom ⊢
  rw [Builder.next_perform, UInt32.toNat_add, hnumbered.next]
  cases hregisters : operation.registers with
  | true =>
    simp only [hregisters, if_true, UInt32.toNat_one] at hroom ⊢
    omega
  | false =>
    simp only [hregisters, Bool.false_eq_true, if_false, UInt32.toNat_zero] at hroom ⊢
    omega

/-- What stood at an index keeps its identifier; what is new has the next one. -/
theorem ids_perform (hnumbered : builder.Numbered start)
    (hslot : (builder.perform operation).1.slots[index]? = some slot) :
    ∃ definition, slot.finish = some definition ∧
      definition.id.toNat = start.toNat + index := by
  have hlength := length_slots_perform builder operation
  have hlt : index < (builder.perform operation).1.slots.length :=
    (List.getElem?_eq_some_iff.mp hslot).1
  by_cases hold : index < builder.slots.length
  · rcases hnumbered.ids index _ (List.getElem?_eq_getElem hold) with ⟨definition, hfinish, hid⟩
    have hfollows := hnumbered.getElem?_perform (List.getElem?_eq_getElem hold) hid operation
    rw [hslot] at hfollows
    rw [Option.some.inj hfollows]
    rcases Slot.finish_follow hfinish definition.id operation with ⟨after, hafter, hsame⟩
    exact ⟨after, hafter, hsame ▸ hid⟩
  · cases hregisters : operation.registers with
    | true =>
      rcases perform_registering builder hregisters with
        ⟨added, definition, hfinish, hid, hslots, -⟩
      have hindex : index = builder.slots.length := by
        simp only [hregisters, if_true] at hlength
        omega
      rw [hslots, hindex, List.getElem?_concat_length] at hslot
      cases hslot
      exact ⟨definition, hfinish, by rw [hid, hnumbered.next, hindex]⟩
    | false =>
      simp only [hregisters, Bool.false_eq_true, if_false] at hlength
      omega

/-- The position map learns what is registered and keeps the rest. -/
theorem positions_perform (hnumbered : builder.Numbered start) (id : DefinitionId) (index : Nat) :
    (builder.perform operation).1.position? id = some index ↔
      index < (builder.perform operation).1.slots.length ∧
        id.toNat = start.toNat + index := by
  have hlength := length_slots_perform builder operation
  have hold := hnumbered.positions id index
  cases hregisters : operation.registers with
  | true =>
    rcases perform_registering builder hregisters with ⟨_, _, -, -, -, hpositions⟩
    rw [position?] at hold
    rw [position?, hpositions, List.find?_cons]
    simp only [hregisters, if_true] at hlength
    by_cases hnew : id = builder.ids.next
    · have hid : id.toNat = start.toNat + builder.slots.length := by
        rw [hnew, hnumbered.next]
      simp only [beq_iff_eq.mpr hnew.symm, Option.map_some, Option.some.injEq]
      omega
    · have hdifferent : id.toNat ≠ start.toNat + builder.slots.length := by
        rw [← hnumbered.next]
        exact fun heq => hnew (UInt32.toNat.inj heq)
      simp only [beq_eq_false_iff_ne.mpr (Ne.symm hnew), hold]
      omega
  | false =>
    rw [position?_perform builder hregisters, hold, hlength]
    simp [hregisters]

end Steps

/-- Definitions stay numbered as long as there are identifiers, and the position map stays
consistent with the slots. -/
theorem perform (hnumbered : builder.Numbered start) {operation : Operation}
    (hroom : start.toNat + (builder.perform operation).1.slots.length < 2 ^ 32) :
    (builder.perform operation).1.Numbered start :=
  ⟨hnumbered.next_perform hroom, fun _ _ => hnumbered.ids_perform, hnumbered.positions_perform⟩

theorem room_perform {operation : Operation} {operations : List Operation}
    (hroom : start.toNat + (builder.run (operation :: operations)).slots.length < 2 ^ 32) :
    start.toNat + (builder.perform operation).1.slots.length < 2 ^ 32 := by
  rw [run_cons, length_slots_run] at hroom
  omega

theorem run (hnumbered : builder.Numbered start) (operations : List Operation)
    (hroom : start.toNat + (builder.run operations).slots.length < 2 ^ 32) :
    (builder.run operations).Numbered start := by
  induction operations generalizing builder with
  | nil => exact hnumbered
  | cons operation operations ih => exact ih (hnumbered.perform (room_perform hroom)) hroom

/-- A slot follows the operations about it, whatever they are interleaved with. -/
theorem getElem?_run (hnumbered : builder.Numbered start)
    (hslot : builder.slots[index]? = some slot) (hid : id.toNat = start.toNat + index)
    (operations : List Operation)
    (hroom : start.toNat + (builder.run operations).slots.length < 2 ^ 32) :
    (builder.run operations).slots[index]? = some (operations.foldl (Slot.follow id) slot) := by
  induction operations generalizing builder slot with
  | nil => exact hslot
  | cons operation operations ih =>
    have hnext := hnumbered.getElem?_perform hslot hid operation
    exact ih (hnumbered.perform (room_perform hroom)) hnext hroom

/-- A definition stays as it is after its closing. -/
theorem getElem?_run_close (hnumbered : builder.Numbered start) {definition : Definition}
    (hslot : builder.slots[index]? = some slot) (hfinish : slot.finish = some definition)
    (hid : id.toNat = start.toNat + index) (operations : List Operation)
    (hroom : start.toNat + (builder.run (.close id :: operations)).slots.length < 2 ^ 32) :
    (builder.run (.close id :: operations)).slots[index]? = some (.closed definition) := by
  have hclosed : slot.follow id (.close id) = .closed definition := by
    rw [Slot.follow, Operation.target?, if_pos rfl, Slot.perform_close hfinish]
  rw [hnumbered.getElem?_run hslot hid _ hroom, List.foldl_cons, hclosed, Slot.foldl_follow,
    Slot.foldl_perform_closed]

/-! ### Modules of numbered builders -/

/-- The definitions of the module are those of the slots, place by place. -/
theorem getElem?_build (hnumbered : builder.Numbered start) (index : Nat) :
    builder.build.definitions[index]? = builder.slots[index]?.bind Slot.finish := by
  have hfinished : ∀ slot ∈ builder.slots, slot.finish ≠ none := by
    intro slot hslot
    rcases List.getElem?_of_mem hslot with ⟨place, hplace⟩
    rcases hnumbered.ids place slot hplace with ⟨definition, hfinish, -⟩
    simp [hfinish]
  exact getElem?_filterMap hfinished index

theorem id_of_getElem? (hnumbered : builder.Numbered start) {definition : Definition}
    (hdefinition : builder.build.definitions[index]? = some definition) :
    definition.id.toNat = start.toNat + index := by
  rw [hnumbered.getElem?_build] at hdefinition
  rcases Option.bind_eq_some_iff.mp hdefinition with ⟨slot, hslot, hfinish⟩
  rcases hnumbered.ids index slot hslot with ⟨found, hfound, hid⟩
  rw [hfinish] at hfound
  cases hfound
  exact hid

/-- Every definition is found under its identifier, at its place. -/
theorem position?_eq (hnumbered : builder.Numbered start) {definition : Definition}
    (hdefinition : builder.build.definitions[index]? = some definition) :
    builder.build.position? definition.id = some index ∧
      builder.build.find? definition.id = some definition := by
  rcases List.getElem?_eq_some_iff.mp hdefinition with ⟨hlt, hget⟩
  -- Before its place no definition has its identifier.
  have hearlier : ∀ earlier, (hbefore : earlier < index) →
      builder.build.definitions[earlier].id ≠ definition.id := by
    intro earlier hbefore hsame
    have hfirst := hnumbered.id_of_getElem?
      (List.getElem?_eq_getElem (Nat.lt_trans hbefore hlt))
    have hlast := hnumbered.id_of_getElem? hdefinition
    rw [hsame] at hfirst
    omega
  constructor
  · rw [Module.position?, List.findIdx?_eq_some_iff_getElem]
    refine ⟨hlt, by simp [hget], ?_⟩
    intro earlier hbefore
    simpa using hearlier earlier hbefore
  · rw [Module.find?, List.find?_eq_some_iff_getElem]
    refine ⟨by simp, index, hlt, hget, ?_⟩
    intro earlier hbefore
    simpa using hearlier earlier hbefore

/-- What a module has under an identifier stands in a slot. -/
theorem exists_slot (hnumbered : builder.Numbered start) {definition : Definition}
    (hfind : builder.build.find? id = some definition) :
    ∃ index slot, builder.slots[index]? = some slot ∧ slot.finish = some definition ∧
      id.toNat = start.toNat + index := by
  have hid : definition.id = id := by
    simpa using List.find?_some hfind
  rcases List.getElem?_of_mem (List.mem_of_find?_eq_some hfind) with ⟨index, hindex⟩
  have hplace := hnumbered.id_of_getElem? hindex
  rw [hnumbered.getElem?_build] at hindex
  rcases Option.bind_eq_some_iff.mp hindex with ⟨slot, hslot, hfinish⟩
  exact ⟨index, slot, hslot, hfinish, hid ▸ hplace⟩

end Numbered

/-! ## Modules -/

/-- A module is what operations on a new builder say. -/
structure Faithful (name : String) (start : DefinitionId) (operations : List Operation)
    (module : Module) : Prop where
  /-- Definitions stand in the order of their registration and have consecutive identifiers. -/
  ids : module.definitions.map (fun definition => definition.id.toNat) =
    List.range' start.toNat (operations.countP Operation.registers)
  /-- Each of them is found under its identifier, at its place. -/
  places : ∀ (index : Nat) (definition : Definition),
    module.definitions[index]? = some definition →
    module.position? definition.id = some index ∧
      module.find? definition.id = some definition
  /-- They keep to the limits. -/
  limited : ∀ definition ∈ module.definitions, definition.Limited
  /-- A routine comes out of the changes made by the operations about it, up to its closing,
  and its labels stand where these bind them. -/
  routines : ∀ front title back, operations = front ++ .addRoutine title :: back →
    ∃ id routine, (((new name start).run front).perform (.addRoutine title)).2 =
        .ok (.definition id) ∧
      module.definitions[front.countP Operation.registers]? = some (.routine routine) ∧
      routine = ((routineChanges (back.filter (·.addresses id))).foldl Routine.Draft.perform
        (.new id title)).finish ∧
      routine.LabelsFollow (routineChanges (back.filter (·.addresses id)))
  /-- An external function comes out of the changes made by the operations about it, up to its
  closing. -/
  externals : ∀ front title back, operations = front ++ .addExternal title :: back →
    ∃ id function, (((new name start).run front).perform (.addExternal title)).2 =
        .ok (.definition id) ∧
      module.definitions[front.countP Operation.registers]? = some (.external function) ∧
      function = ((externalChanges (back.filter (·.addresses id))).foldl External.Draft.perform
        (.new id title)).finish
  /-- An operation that fails changes nothing. -/
  failures : ∀ front operation fault,
    (((new name start).run front).perform operation).2 = .error fault →
    (((new name start).run front).perform operation).1 = (new name start).run front
  /-- After its closing, a definition refuses every operation and stays as it was. -/
  closings : ∀ front id back definition, operations = front ++ .close id :: back →
    ((new name start).run front).build.find? id = some definition →
    module.find? id = some definition ∧
      ∀ middle operation, middle <+: back → operation.target? = some id →
        (((new name start).run (front ++ .close id :: middle)).perform operation).2 =
          .error (.closed id)

section Runs

variable {name : String} {start : DefinitionId} {operations : List Operation}

theorem length_slots_run_new (name : String) (start : DefinitionId)
    (operations : List Operation) :
    ((new name start).run operations).slots.length = operations.countP Operation.registers := by
  rw [length_slots_run]
  exact Nat.zero_add _

/-- A new builder numbers its definitions as long as there are identifiers. -/
theorem numbered_run_new (name : String)
    (hroom : start.toNat + operations.countP Operation.registers < 2 ^ 32) :
    ((new name start).run operations).Numbered start :=
  (numbered_new name start).run operations (by rwa [length_slots_run_new])

theorem map_ids_eq (hroom : start.toNat + operations.countP Operation.registers < 2 ^ 32) :
    ((new name start).run operations).build.definitions.map
        (fun definition => definition.id.toNat) =
      List.range' start.toNat (operations.countP Operation.registers) := by
  have hnumbered := numbered_run_new name hroom
  apply List.ext_getElem?
  intro index
  rw [List.getElem?_map, ← length_slots_run_new name start]
  cases hdefinition : ((new name start).run operations).build.definitions[index]? with
  | some definition =>
    have hid := hnumbered.id_of_getElem? hdefinition
    rw [hnumbered.getElem?_build] at hdefinition
    rcases Option.bind_eq_some_iff.mp hdefinition with ⟨slot, hslot, -⟩
    have hlt := (List.getElem?_eq_some_iff.mp hslot).1
    simp [hid, hlt]
  | none =>
    have hpast : ((new name start).run operations).slots.length ≤ index := by
      by_contra hbefore
      have hslot := List.getElem?_eq_getElem (Nat.not_le.mp hbefore)
      rcases hnumbered.ids index _ hslot with ⟨definition, hfinish, -⟩
      rw [hnumbered.getElem?_build, hslot, Option.bind_some, hfinish] at hdefinition
      cases hdefinition
    simp [hpast]

/-- What an operation registers goes through the operations about it that come after. -/
theorem getElem?_definitions_registered {front back : List Operation} {operation : Operation}
    {slot : Slot} {id : DefinitionId}
    (hslots : (((new name start).run front).perform operation).1.slots =
      ((new name start).run front).slots ++ [slot])
    (hid : id = ((new name start).run front).ids.next)
    (hroom : start.toNat + (front ++ operation :: back).countP Operation.registers < 2 ^ 32) :
    ((new name start).run (front ++ operation :: back)).build.definitions[
      front.countP Operation.registers]? =
      ((back.filter (·.addresses id)).foldl Slot.perform slot).finish := by
  have hsize := length_slots_run_new name start (front ++ operation :: back)
  have hfewer : front.countP Operation.registers ≤
      (front ++ operation :: back).countP Operation.registers :=
    List.Sublist.countP_le (by simp)
  have hmore : (front ++ [operation]).countP Operation.registers ≤
      (front ++ operation :: back).countP Operation.registers :=
    List.Sublist.countP_le (by simp)
  have hbefore : ((new name start).run front).Numbered start := numbered_run_new name (by omega)
  have hnumbered : ((new name start).run (front ++ [operation])).Numbered start :=
    numbered_run_new name (by omega)
  have hplace : id.toNat = start.toNat + front.countP Operation.registers := by
    rw [hid, hbefore.next, length_slots_run_new]
  have hlast : ((new name start).run (front ++ [operation])).slots[
      front.countP Operation.registers]? = some slot := by
    rw [run_append, run_cons, ← length_slots_run_new name start front]
    show (((new name start).run front).perform operation).1.slots[_]? = _
    rw [hslots, List.getElem?_concat_length]
  rw [(numbered_run_new name hroom).getElem?_build]
  have hsplit : front ++ operation :: back = (front ++ [operation]) ++ back := by simp
  rw [hsplit, run_append] at hsize ⊢
  rw [hnumbered.getElem?_run hlast hplace back (by rw [hsize, ← hsplit]; exact hroom),
    Slot.foldl_follow]
  rfl

/-- A definition stays in its slot after its closing. -/
theorem slot?_run_close {front : List Operation} (back : List Operation) {id : DefinitionId}
    {definition : Definition}
    (hroom : start.toNat + (front ++ .close id :: back).countP Operation.registers < 2 ^ 32)
    (hfind : ((new name start).run front).build.find? id = some definition) :
    ∃ index, ((new name start).run (front ++ .close id :: back)).slot? id =
      some (index, .closed definition) := by
  have hfewer : front.countP Operation.registers ≤
      (front ++ .close id :: back).countP Operation.registers :=
    List.Sublist.countP_le (by simp)
  have hbefore : ((new name start).run front).Numbered start := numbered_run_new name (by omega)
  rcases hbefore.exists_slot hfind with ⟨index, slot, hslot, hfinish, hid⟩
  refine ⟨index, (numbered_run_new name hroom).slot?_eq_some_iff.mpr ⟨?_, hid⟩⟩
  rw [← length_slots_run_new name start, run_append] at hroom
  rw [run_append]
  exact hbefore.getElem?_run_close hslot hfinish hid back hroom

/-- Operations on a new builder build what they say, whatever their order and whichever of
them fail. -/
theorem run_faithful (name : String) (start : DefinitionId) (operations : List Operation)
    (hroom : start.toNat + operations.countP Operation.registers < 2 ^ 32)
    (hcode : ∀ routine ∈ ((new name start).run operations).build.routines,
      routine.code.size < 2 ^ 32) :
    Faithful name start operations ((new name start).run operations).build where
  ids := map_ids_eq hroom
  places index definition hdefinition := (numbered_run_new name hroom).position?_eq hdefinition
  limited := (maintained_limited operations).run name start
  routines := by
    intro front title back hsplit
    subst hsplit
    have hbuilt := getElem?_definitions_registered
      (show (((new name start).run front).perform (.addRoutine title)).1.slots = _ from rfl)
      rfl hroom
    rw [finish_foldl_routine] at hbuilt
    have hrecords := Code.records_foldl ((new name start).run front).ids.next title
    refine ⟨_, _, rfl, hbuilt, rfl, (hrecords _).labelsFollow (hcode _ ?_)⟩
    exact List.mem_filterMap.mpr ⟨_, List.mem_of_getElem? hbuilt, rfl⟩
  externals := by
    intro front title back hsplit
    subst hsplit
    have hbuilt := getElem?_definitions_registered
      (show (((new name start).run front).perform (.addExternal title)).1.slots = _ from rfl)
      rfl hroom
    rw [finish_foldl_external] at hbuilt
    exact ⟨_, _, rfl, hbuilt, rfl⟩
  failures := fun _ _ _ hfault => perform_of_error hfault
  closings := by
    intro front id back definition hsplit hfind
    subst hsplit
    constructor
    · have hnumbered := numbered_run_new name hroom
      rcases slot?_run_close back hroom hfind with ⟨index, hslot⟩
      have hid : definition.id = id := by simpa using List.find?_some hfind
      have hdefinition :
          ((new name start).run (front ++ .close id :: back)).build.definitions[index]? =
            some definition := by
        rw [hnumbered.getElem?_build, getElem?_of_slot? hslot]
        rfl
      exact hid ▸ (hnumbered.position?_eq hdefinition).2
    · intro middle operation hmiddle htarget
      have hfewer : (front ++ .close id :: middle).countP Operation.registers ≤
          (front ++ .close id :: back).countP Operation.registers :=
        List.Sublist.countP_le (by simpa using hmiddle.sublist)
      rcases slot?_run_close middle (by omega) hfind with ⟨index, hslot⟩
      rw [perform_addressed htarget hslot]
      exact Slot.answer_closed definition htarget

/-- Two routines and an external function whose operations take turns, some of them refused. -/
def interleaving : List Operation :=
  [.addRoutine "main", .changeRoutine 8 (.addLocal .i32), .addExternal "puts",
    .changeRoutine 7 .addLabel, .changeExternal 8 (.addParameter .i64), .addRoutine "helper",
    .changeRoutine 9 (.emit (.simple .nop)), .changeRoutine 7 (.moveLabel 1),
    .changeRoutine 9 .addLabel, .close 9, .changeRoutine 9 (.addParameter .i32),
    .changeRoutine 7 (.emit (.simple .nop)), .changeRoutine 7 (.moveLabel 0), .addString "text",
    .changeExternal 8 (.addParameter .void), .changeExternal 8 (.setLibrary "stdio")]

theorem run_faithful_interleaving :
    Faithful "mixed" 7 interleaving ((new "mixed" 7).run interleaving).build :=
  run_faithful "mixed" 7 interleaving (by decide) (by decide)

end Runs

end Builder

end StackCode
