import StackCode.Proofs.Building.Changes

/-!
# Sequences of building operations

A module is built by operations that come in any order and may fail.

Main definitions:

- `Operation`, `Operation.apply`: what a builder can be asked to do.
- `Builder.perform`: one operation, with its answer or its fault.
- `Builder.run`: operations one after another.
- `Slot.perform`, `Slot.answer`: what an operation does to the slot that it addresses, and what
  it returns.
- `Maintained`: a property of definitions that operations keep up.

Main results:

- Theorems `Builder.perform_unaddressed`, `perform_unknown`, `perform_addressed`: what an
  operation does to a builder.
- Theorem `Builder.perform_of_error`: an operation that fails changes nothing.
- Theorems `Maintained.perform`, `Maintained.run`: such a property holds of what is built.
- Theorem `maintained_limited`: every definition keeps to the limits.
-/

namespace StackCode

/-! ## Operations -/

/-- An operation on a builder. -/
inductive Operation where
  | addRoutine (name : String)
  | addExternal (name : String)
  | changeRoutine (id : DefinitionId) (change : RoutineChange)
  | changeExternal (id : DefinitionId) (change : ExternalChange)
  | addResource (resource : Resource)
  | addString (text : String)
  | addUtf16 (text : String)
  | close (id : DefinitionId)
deriving DecidableEq, Repr

namespace Operation

/-- The step of a builder that an operation asks for. -/
def apply : Operation → Building Builder Answer
  | addRoutine name =>
    modifyGet fun builder => (.definition (builder.addRoutine name).2, (builder.addRoutine name).1)
  | addExternal name =>
    modifyGet fun builder =>
      (.definition (builder.addExternal name).2, (builder.addExternal name).1)
  | changeRoutine id change => Builder.editRoutine id change.apply
  | changeExternal id change => Builder.editExternal id change.apply
  | addResource resource =>
    modifyGet fun builder =>
      (.resource (builder.addResource resource).2, (builder.addResource resource).1)
  | addString text =>
    modifyGet fun builder => (.resource (builder.addString text).2, (builder.addString text).1)
  | addUtf16 text =>
    modifyGet fun builder => (.resource (builder.addUtf16 text).2, (builder.addUtf16 text).1)
  | close id => (fun _ => Answer.done) <$> Builder.finish id

/-- The definition that an operation is about. -/
def target? : Operation → Option DefinitionId
  | changeRoutine id _ | changeExternal id _ | close id => some id
  | _ => none

/-- Whether an operation is about a definition. -/
def addresses (id : DefinitionId) (operation : Operation) : Bool :=
  operation.target? = some id

/-- The slot that an operation registers, given the next identifier. -/
def registered (next : DefinitionId) : Operation → List Slot
  | addRoutine name => [.routine (.new next name)]
  | addExternal name => [.external (.new next name)]
  | _ => []

/-- Whether an operation registers a definition. -/
def registers : Operation → Bool
  | addRoutine _ | addExternal _ => true
  | _ => false

end Operation

namespace Builder

/-- Performs an operation: the builder that it leaves, and its answer or its fault. -/
def perform (builder : Builder) (operation : Operation) : Builder × Except BuildError Answer :=
  match operation.apply builder with
  | .ok answer after => (after, .ok answer)
  | .error fault after => (after, .error fault)

/-- Performs operations one after another, also after one that fails. -/
def run (builder : Builder) (operations : List Operation) : Builder :=
  operations.foldl (fun current operation => (current.perform operation).1) builder

theorem run_cons (builder : Builder) (operation : Operation) (operations : List Operation) :
    builder.run (operation :: operations) = (builder.perform operation).1.run operations :=
  rfl

theorem run_append (builder : Builder) (front back : List Operation) :
    builder.run (front ++ back) = (builder.run front).run back :=
  List.foldl_append

end Builder

/-! ## What an operation does to a slot -/

namespace Slot

/-- A slot after an operation about it. -/
def perform : Slot → Operation → Slot
  | routine draft, .changeRoutine _ change => routine (draft.perform change)
  | external draft, .changeExternal _ change => external (draft.perform change)
  | routine draft, .close _ => closed (.routine draft.finish)
  | external draft, .close _ => closed (.external draft.finish)
  | slot, _ => slot

/-- What an operation about a slot returns. -/
def answer : Slot → Operation → Except BuildError Answer
  | routine draft, .changeRoutine _ change => (change.apply.outcome draft).map Prod.snd
  | external _, .changeRoutine id _ => .error (.unknownDefinition id "routine")
  | external draft, .changeExternal _ change => (change.apply.outcome draft).map Prod.snd
  | routine _, .changeExternal id _ => .error (.unknownDefinition id "extern")
  | closed _, .changeRoutine id _ | closing, .changeRoutine id _ => .error (.closed id)
  | closed _, .changeExternal id _ | closing, .changeExternal id _ => .error (.closed id)
  | closed _, .close id | closing, .close id => .error (.closed id)
  | _, _ => .ok .done

/-- An operation that fails leaves the slot as it was. -/
theorem perform_of_error {slot : Slot} {operation : Operation} {fault : BuildError}
    (hfault : slot.answer operation = .error fault) : slot.perform operation = slot := by
  cases slot with
  | routine draft =>
    cases operation with
    | changeRoutine id change =>
      rcases draft.perform_cases change with ⟨hallowed, -⟩ | ⟨-, hkept⟩
      · rcases RoutineChange.apply_of_allowed hallowed with ⟨result, hresult⟩
        simp [answer, Building.outcome, hresult, Except.map] at hfault
      · exact congrArg routine hkept
    | close id => cases hfault
    | _ => rfl
  | external draft =>
    cases operation with
    | changeExternal id change =>
      rcases draft.perform_cases change with ⟨hallowed, -⟩ | ⟨-, hkept⟩
      · rcases ExternalChange.apply_of_allowed hallowed with ⟨result, hresult⟩
        simp [answer, Building.outcome, hresult, Except.map] at hfault
      · exact congrArg external hkept
    | close id => cases hfault
    | _ => rfl
  | _ => rfl

/-- A closed slot refuses every operation about it. -/
theorem answer_closed (definition : Definition) {operation : Operation} {id : DefinitionId}
    (htarget : operation.target? = some id) :
    (closed definition).answer operation = .error (.closed id) := by
  cases operation with
  | changeRoutine | changeExternal | close =>
    cases htarget
    rfl
  | _ => cases htarget

/-- An operation leaves the definition of a slot as it is, or makes a change of its kind. -/
theorem perform_cases (slot : Slot) (operation : Operation) :
    (slot.perform operation).finish = slot.finish ∨
      (∃ id change draft, operation = .changeRoutine id change ∧ slot = routine draft ∧
        slot.perform operation = routine (draft.perform change)) ∨
      ∃ id change draft, operation = .changeExternal id change ∧ slot = external draft ∧
        slot.perform operation = external (draft.perform change) := by
  cases slot with
  | routine draft =>
    cases operation with
    | changeRoutine id change => exact .inr (.inl ⟨id, change, draft, rfl, rfl, rfl⟩)
    | _ => exact .inl rfl
  | external draft =>
    cases operation with
    | changeExternal id change => exact .inr (.inr ⟨id, change, draft, rfl, rfl, rfl⟩)
    | _ => exact .inl rfl
  | _ => exact .inl rfl

end Slot

/-! ## What an operation does to a builder -/

namespace Builder

variable {builder : Builder} {operation : Operation} {id : DefinitionId} {position : Nat}
  {slot : Slot}

theorem getElem?_of_slot? (hslot : builder.slot? id = some (position, slot)) :
    builder.slots[position]? = some slot := by
  rcases Option.bind_eq_some_iff.mp hslot with ⟨found, -, hfound⟩
  rcases Option.map_eq_some_iff.mp hfound with ⟨_, hget, hsame⟩
  cases hsame
  exact hget

/-- A slot that is put back changes nothing. -/
theorem setSlot_self (hslot : builder.slots[position]? = some slot) :
    builder.setSlot position slot = builder := by
  rcases List.getElem?_eq_some_iff.mp hslot with ⟨hlt, rfl⟩
  simp [setSlot]

theorem setSlot_setSlot (builder : Builder) (position : Nat) (first second : Slot) :
    (builder.setSlot position first).setSlot position second =
      builder.setSlot position second := by
  simp [setSlot]

/-- An operation about no definition cannot fail, and at most registers one. -/
theorem perform_unaddressed (builder : Builder) (htarget : operation.target? = none) :
    (∃ answer, (builder.perform operation).2 = .ok answer) ∧
    (builder.perform operation).1.slots =
      builder.slots ++ operation.registered builder.ids.next ∧
    (builder.perform operation).1.positions =
      (if operation.registers then [(builder.ids.next, builder.slots.length)] else []) ++
        builder.positions ∧
    (builder.perform operation).1.ids.next =
      builder.ids.next + (if operation.registers then 1 else 0) := by
  cases operation with
  | changeRoutine | changeExternal | close => cases htarget
  | addRoutine | addExternal => exact ⟨⟨_, rfl⟩, rfl, rfl, rfl⟩
  | addResource | addString | addUtf16 =>
    exact ⟨⟨_, rfl⟩, (List.append_nil _).symm, rfl, (UInt32.add_zero _).symm⟩

/-- An operation about an unknown definition fails and changes nothing. -/
theorem perform_unknown (htarget : operation.target? = some id)
    (hslot : builder.slot? id = none) :
    ∃ kind, builder.perform operation = (builder, .error (.unknownDefinition id kind)) := by
  have hunknown (kind : String) :
      slotOf id kind builder = .error (.unknownDefinition id kind) builder := by
    simp [slotOf, hslot]
  cases operation with
  | changeRoutine target change =>
    cases htarget
    refine ⟨"routine", ?_⟩
    simp [perform, Operation.apply, editRoutine, bind, EStateM.bind, hunknown]
  | changeExternal target change =>
    cases htarget
    refine ⟨"extern", ?_⟩
    simp [perform, Operation.apply, editExternal, bind, EStateM.bind, hunknown]
  | close target =>
    cases htarget
    refine ⟨"definition", ?_⟩
    simp [perform, Operation.apply, finish, Functor.map, EStateM.map, bind, EStateM.bind, hunknown]
  | _ => cases htarget

/-- An operation about a definition does to its slot what it does to it, and nothing else. -/
theorem perform_addressed (htarget : operation.target? = some id)
    (hslot : builder.slot? id = some (position, slot)) :
    builder.perform operation =
      (builder.setSlot position (slot.perform operation), slot.answer operation) := by
  have hknown (kind : String) : slotOf id kind builder = .ok (position, slot) builder := by
    simp [slotOf, hslot]
  have hsame := setSlot_self (getElem?_of_slot? hslot)
  cases operation with
  | changeRoutine target change =>
    cases htarget
    cases slot with
    | routine draft =>
      simp only [perform, Operation.apply, editRoutine, bind, EStateM.bind, hknown, Building.on,
        Slot.perform, Slot.answer, Routine.Draft.perform, Building.left, Building.outcome]
      cases change.apply draft <;> rfl
    | _ =>
      simp only [perform, Operation.apply, editRoutine, bind, EStateM.bind, hknown, Slot.perform,
        hsame]
      rfl
  | changeExternal target change =>
    cases htarget
    cases slot with
    | external draft =>
      simp only [perform, Operation.apply, editExternal, bind, EStateM.bind, hknown, Building.on,
        Slot.perform, Slot.answer, External.Draft.perform, Building.left, Building.outcome]
      cases change.apply draft <;> rfl
    | _ =>
      simp only [perform, Operation.apply, editExternal, bind, EStateM.bind, hknown, Slot.perform,
        hsame]
      rfl
  | close target =>
    cases htarget
    -- The slot is empty in between; what was no draft is given back.
    have hclosed (last : Slot) := setSlot_setSlot builder position .closing last
    simp only [perform, Operation.apply, finish, Functor.map, EStateM.map, bind, EStateM.bind,
      hknown]
    cases slot with
    | routine | external =>
      exact congrArg (fun after => (after, Except.ok Answer.done)) (hclosed _)
    | closed | closing =>
      exact congrArg (fun after => (after, Except.error (BuildError.closed id))) (hclosed _)
  | _ => cases htarget

/-- An operation that fails changes nothing. -/
theorem perform_of_error {fault : BuildError}
    (hfault : (builder.perform operation).2 = .error fault) :
    (builder.perform operation).1 = builder := by
  cases htarget : operation.target? with
  | none =>
    rcases (perform_unaddressed builder htarget).1 with ⟨answer, hanswer⟩
    rw [hanswer] at hfault
    cases hfault
  | some id =>
    cases hslot : builder.slot? id with
    | none =>
      rcases perform_unknown htarget hslot with ⟨kind, hunknown⟩
      rw [hunknown]
    | some found =>
      rw [perform_addressed htarget hslot] at hfault ⊢
      dsimp only at hfault ⊢
      rw [Slot.perform_of_error hfault]
      exact setSlot_self (getElem?_of_slot? hslot)

end Builder

/-! ## Invariants of definitions -/

/-- What every change of a definition that operations make keeps up. -/
structure Maintained (invariant : Definition → Prop) (operations : List Operation) : Prop where
  routine : ∀ next title, invariant (.routine (Routine.Draft.new next title).finish)
  external : ∀ next title, invariant (.external (External.Draft.new next title).finish)
  changeRoutine : ∀ id change, .changeRoutine id change ∈ operations →
    ∀ draft : Routine.Draft, invariant (.routine draft.finish) →
      invariant (.routine (draft.perform change).finish)
  changeExternal : ∀ id change, .changeExternal id change ∈ operations →
    ∀ draft : External.Draft, invariant (.external draft.finish) →
      invariant (.external (draft.perform change).finish)

/-- A slot comes to a definition with a property. -/
def Slot.Satisfies (invariant : Definition → Prop) (slot : Slot) : Prop :=
  ∃ definition, slot.finish = some definition ∧ invariant definition

namespace Maintained

variable {invariant : Definition → Prop} {operations : List Operation} {operation : Operation}

theorem registered (hmaintained : Maintained invariant operations) {next : DefinitionId}
    {slot : Slot} (hmem : slot ∈ operation.registered next) : slot.Satisfies invariant := by
  cases operation with
  | addRoutine title =>
    rw [Operation.registered, List.mem_singleton] at hmem
    rw [hmem]
    exact ⟨_, rfl, hmaintained.routine next title⟩
  | addExternal title =>
    rw [Operation.registered, List.mem_singleton] at hmem
    rw [hmem]
    exact ⟨_, rfl, hmaintained.external next title⟩
  | _ => cases hmem

theorem slot (hmaintained : Maintained invariant operations) (hmem : operation ∈ operations)
    {slot : Slot} (hslot : slot.Satisfies invariant) :
    (slot.perform operation).Satisfies invariant := by
  rcases hslot with ⟨definition, hfinish, hholds⟩
  rcases slot.perform_cases operation with
    hkept | ⟨id, change, draft, rfl, rfl, hperform⟩ | ⟨id, change, draft, rfl, rfl, hperform⟩
  · exact ⟨definition, hkept.trans hfinish, hholds⟩
  · cases hfinish
    rw [hperform]
    exact ⟨_, rfl, hmaintained.changeRoutine id change hmem draft hholds⟩
  · cases hfinish
    rw [hperform]
    exact ⟨_, rfl, hmaintained.changeExternal id change hmem draft hholds⟩

/-- One operation keeps an invariant of definitions. -/
theorem perform (hmaintained : Maintained invariant operations) (hmem : operation ∈ operations)
    {builder : Builder} (hslots : ∀ slot ∈ builder.slots, slot.Satisfies invariant) :
    ∀ slot ∈ (builder.perform operation).1.slots, slot.Satisfies invariant := by
  intro slot hslot
  cases htarget : operation.target? with
  | none =>
    rw [(Builder.perform_unaddressed builder htarget).2.1, List.mem_append] at hslot
    rcases hslot with hold | hnew
    · exact hslots slot hold
    · exact hmaintained.registered hnew
  | some id =>
    cases hfound : builder.slot? id with
    | none =>
      rcases Builder.perform_unknown htarget hfound with ⟨kind, hunknown⟩
      rw [hunknown] at hslot
      exact hslots slot hslot
    | some found =>
      rw [Builder.perform_addressed htarget hfound] at hslot
      rcases List.mem_or_eq_of_mem_set hslot with hold | rfl
      · exact hslots slot hold
      · have hmember := List.mem_of_getElem? (Builder.getElem?_of_slot? hfound)
        exact hmaintained.slot hmem (hslots found.2 hmember)

/-- Operations on a new builder keep an invariant of definitions.  No slot is left between a
draft and its definition. -/
theorem slots_run (hmaintained : Maintained invariant operations) (name : String)
    (start : DefinitionId) :
    ∀ slot ∈ ((Builder.new name start).run operations).slots, slot.Satisfies invariant := by
  have hrun : ∀ (performed : List Operation) (builder : Builder),
      (∀ operation ∈ performed, operation ∈ operations) →
      (∀ slot ∈ builder.slots, slot.Satisfies invariant) →
      ∀ slot ∈ (builder.run performed).slots, slot.Satisfies invariant := by
    intro performed
    induction performed with
    | nil => exact fun builder _ hslots => hslots
    | cons operation performed ih =>
      intro builder hmem hslots
      rcases List.forall_mem_cons.mp hmem with ⟨hfirst, hrest⟩
      exact ih _ hrest (hmaintained.perform hfirst hslots)
  exact hrun operations (.new name start) (fun _ hmem => hmem) (by simp [Builder.new])

theorem run (hmaintained : Maintained invariant operations) (name : String)
    (start : DefinitionId) :
    ∀ definition ∈ ((Builder.new name start).run operations).build.definitions,
      invariant definition := by
  intro definition hdefinition
  rcases List.mem_filterMap.mp hdefinition with ⟨slot, hslot, hfinish⟩
  rcases hmaintained.slots_run name start slot hslot with ⟨found, hfound, hholds⟩
  rw [hfinish] at hfound
  cases hfound
  exact hholds

end Maintained

/-- Whatever the operations are, every definition keeps to the limits. -/
theorem maintained_limited (operations : List Operation) :
    Maintained Definition.Limited operations where
  routine next title := ⟨by simp [Routine.Draft.finish, Routine.Draft.new, Header.new],
    by simp [Routine.Draft.finish, Routine.Draft.new, Header.new],
    by simp [Routine.Draft.finish, Routine.Draft.new, Code.empty],
    by simp [Routine.Draft.finish, Routine.Draft.new, Code.empty]⟩
  external next title := ⟨by simp [External.Draft.finish, External.Draft.new, Header.new],
    by simp [External.Draft.finish, External.Draft.new, Header.new]⟩
  changeRoutine _ change _ _ hlimited := Routine.Draft.limited_perform hlimited change
  changeExternal _ change _ _ hlimited := External.Draft.limited_perform hlimited change

end StackCode
