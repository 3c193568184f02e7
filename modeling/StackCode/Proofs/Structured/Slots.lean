import StackCode.Proofs.Structured.Scene

/-!
# Slots of the running activation

Locals and arguments are read and set by their offsets in the arena.  Both lie upside
down in the list of values, above what belongs to callers, and both are found by the
offsets that the frame keeps.  What holds of one group holds of the other, so it is
proved for any lawful group of slots.

Main definitions:

- `Stage.Slots`, `Stage.Slots.Lawful`: a group of slots.
- `Stage.Slots.Finds`: a computation that finds the offset of a slot.

Main results:

- Theorems `Stage.Slots.Lawful.read_mirrors`, `Stage.Slots.Lawful.pop_mirrors`: reading a slot
  and popping into it.
- Theorems `Stage.operandValue_mirrors`, `Stage.popOperand_mirrors`: the operands of a push and
  of a pop.
-/

namespace StackCode

open Structured (Activation Scene Act Surface packedSize)

/-! ## Lists that lie upside down -/

/-- The offset of a value is that of the first one and the size of those before it. -/
theorem getElem?_offsetsFrom (base : Nat) (values : List Value) (i : Nat) :
    (offsetsFrom base (values.map Value.type))[i]? =
      values[i]?.map fun _ => base + packedSize (values.take i) := by
  induction values generalizing base i with
  | nil => simp [offsetsFrom]
  | cons value values ih =>
    cases i with
    | zero => simp [offsetsFrom]
    | succ i => simp [offsetsFrom, ih, Value.size, Nat.add_assoc]

/-- A value that was put into a list, which lies upside down on others, has those before
it below it. -/
theorem reverse_set_append_eq {values : List Value} {i : Nat} (hi : i < values.length)
    (fresh : Value) (below : List Value) :
    (values.set i fresh).reverse ++ below =
      (values.drop (i + 1)).reverse ++ fresh :: ((values.take i).reverse ++ below) := by
  rw [List.set_eq_take_append_cons_drop, if_pos hi]
  simp

/-- So has one that is there already. -/
theorem reverse_append_eq_of_getElem? {values : List Value} {i : Nat} {value : Value}
    (hvalue : values[i]? = some value) (below : List Value) :
    values.reverse ++ below =
      (values.drop (i + 1)).reverse ++ value :: ((values.take i).reverse ++ below) := by
  obtain ⟨hi, rfl⟩ := List.getElem?_eq_some_iff.mp hvalue
  have hsplit := reverse_set_append_eq hi values[i] below
  rwa [List.set_getElem_self] at hsplit

namespace Stage

variable {capacity : Nat} {stage : Stage} {routine : Routine}

/-! ## Slots of the running activation -/

/-- The values below the locals of the running activation. -/
def belowLocals (stage : Stage) (scene : Scene) : List Value :=
  ⟨.u32, scene.current.resume.toUInt32.toUInt64⟩ :: .pointer stage.savedFp ::
    (scene.current.arguments.reverse ++ stage.below)

/-- The values above the arguments of the running activation. -/
def aboveArguments (stage : Stage) (scene : Scene) : List Value :=
  scene.current.operands ++ (scene.current.locals.reverse ++
    [⟨.u32, scene.current.resume.toUInt32.toUInt64⟩, .pointer stage.savedFp])

/-- The slot of a local variable is where the locals before it end. -/
theorem localSlot_gives {scene : Scene} (hfits : scene.current.Fits) (index : LocalIndex) :
    Machine.Gives capacity (stage.portrait scene)
      (Machine.localSlot scene.current.routine index)
      (match scene.current.locals[index.toNat]? with
        | none => .error (.invalidLocal index) (stage.portrait scene)
        | some value => .ok (packedSize ((scene.current.locals.take index.toNat).reverse ++
            stage.belowLocals scene), value.type) (stage.portrait scene)) := by
  have hoffset := getElem?_offsetsFrom (packedSize (stage.belowLocals scene))
    scene.current.locals index.toNat
  have hbase : packedSize (stage.belowLocals scene) = packedSize stage.below +
      totalSize scene.current.routine.parameters + headerSize := by
    simp only [belowLocals, packedSize_cons, packedSize_append, packedSize_reverse,
      Value.size_pointer, Value.size_word, packedSize_eq_totalSize hfits.arguments_eq, headerSize]
    omega
  have htype : scene.current.routine.locals[index.toNat]? =
      scene.current.locals[index.toNat]?.map Value.type := by
    rw [← Array.getElem?_toList, ← hfits.locals_eq, List.getElem?_map]
  rw [hbase, hfits.locals_eq] at hoffset
  refine Machine.Gives.bind (frame_gives scene) ?_
  simp only [Frame.placed, hoffset, htype]
  cases scene.current.locals[index.toNat]? with
  | none => exact Machine.Gives.throw _
  | some value =>
    simp only [Option.map_some, packedSize_append, packedSize_reverse, hbase,
      Nat.add_comm (packedSize (scene.current.locals.take index.toNat))]
    exact Machine.Gives.pure _

/-- The slot of an argument is where the arguments before it end. -/
theorem argumentSlot_gives {scene : Scene} (hfits : scene.current.Fits) (index : ArgumentIndex) :
    Machine.Gives capacity (stage.portrait scene)
      (Machine.argumentSlot scene.current.routine index)
      (match scene.current.arguments[index.toNat]? with
        | none => .error (.invalidArgument index) (stage.portrait scene)
        | some value => .ok (packedSize ((scene.current.arguments.take index.toNat).reverse ++
            stage.below), value.type) (stage.portrait scene)) := by
  have hoffset := getElem?_offsetsFrom (packedSize stage.below)
    scene.current.arguments index.toNat
  have htype : scene.current.routine.parameters[index.toNat]? =
      scene.current.arguments[index.toNat]?.map Value.type := by
    rw [← hfits.arguments_eq, List.getElem?_map]
  rw [hfits.arguments_eq] at hoffset
  refine Machine.Gives.bind (frame_gives scene) ?_
  simp only [Frame.placed, hoffset, htype]
  cases scene.current.arguments[index.toNat]? with
  | none => exact Machine.Gives.throw _
  | some value =>
    simp only [Option.map_some, packedSize_append, packedSize_reverse,
      Nat.add_comm (packedSize (scene.current.arguments.take index.toNat))]
    exact Machine.Gives.pure _

/-- The locals or the arguments of an activation, with what lies above and below them. -/
structure Slots where
  get : Activation → List Value
  set : Activation → List Value → Activation
  above : Stage → Scene → List Value
  below : Stage → Scene → List Value

/-- What a group of slots must satisfy: it is a part of the values of an activation that
can be replaced by values of the same types, wherever the operands end. -/
structure Slots.Lawful (slots : Slots) : Prop where
  portrait_set : ∀ (stage : Stage) (scene : Scene) (values : List Value),
    stage.portrait { scene with current := slots.set scene.current values } =
      ⟨slots.above stage scene ++ (values.reverse ++ slots.below stage scene),
        (stage.portrait scene).frames, (stage.portrait scene).surface⟩
  set_get : ∀ activation, slots.set activation (slots.get activation) = activation
  fits_set : ∀ {activation : Activation} {values : List Value}, activation.Fits →
    values.map Value.type = (slots.get activation).map Value.type →
      (slots.set activation values).Fits
  routine_set : ∀ activation values, (slots.set activation values).routine = activation.routine
  get_operands : ∀ (activation : Activation) (operands : List Value),
    slots.get { activation with operands } = slots.get activation
  below_operands : ∀ (stage : Stage) (scene : Scene) (operands : List Value),
    slots.below stage { scene with current := { scene.current with operands } } =
      slots.below stage scene

/-- The locals of an activation. -/
def localSlots : Slots where
  get := Activation.locals
  set activation values := { activation with locals := values }
  above _ scene := scene.current.operands
  below := belowLocals

theorem lawful_localSlots : localSlots.Lawful where
  portrait_set stage scene values := by
    simp [portrait, localSlots, belowLocals, Activation.values, Machine.frameValues,
      Surface.withScene]
  set_get _ := rfl
  fits_set hfits htypes :=
    ⟨hfits.plain, hfits.arguments_eq, htypes.trans hfits.locals_eq, hfits.resume_lt⟩
  routine_set _ _ := rfl
  get_operands _ _ := rfl
  below_operands _ _ _ := rfl

/-- The arguments of an activation. -/
def argumentSlots : Slots where
  get := Activation.arguments
  set activation values := { activation with arguments := values }
  above := aboveArguments
  below stage _ := stage.below

theorem lawful_argumentSlots : argumentSlots.Lawful where
  portrait_set stage scene values := by
    simp [portrait, argumentSlots, aboveArguments, Activation.values, Machine.frameValues,
      Surface.withScene]
  set_get _ := rfl
  fits_set hfits htypes :=
    ⟨hfits.plain, htypes.trans hfits.arguments_eq, hfits.locals_eq, hfits.resume_lt⟩
  routine_set _ _ := rfl
  get_operands _ _ := rfl
  below_operands _ _ _ := rfl

/-- Where a slot lies: above the slots before it. -/
def Slots.offset (slots : Slots) (stage : Stage) (scene : Scene) (i : Nat) : Nat :=
  packedSize (((slots.get scene.current).take i).reverse ++ slots.below stage scene)

/-- A computation finds a slot, or faults when there is none. -/
def Slots.Finds (slots : Slots) (capacity : Nat) (stage : Stage) (routine : Routine) (i : Nat)
    (fault : Fault) (find : Exec (Nat × DataType)) : Prop :=
  ∀ scene : Scene, scene.current.Fits → scene.current.routine = routine →
    Machine.Gives capacity (stage.portrait scene) find
      (match (slots.get scene.current)[i]? with
        | none => .error fault (stage.portrait scene)
        | some value => .ok (slots.offset stage scene i, value.type) (stage.portrait scene))

theorem localSlot_finds (index : LocalIndex) :
    localSlots.Finds capacity stage routine index.toNat (.invalidLocal index)
      (Machine.localSlot routine index) := by
  intro scene hfits hroutine
  subst hroutine
  exact localSlot_gives hfits index

theorem argumentSlot_finds (index : ArgumentIndex) :
    argumentSlots.Finds capacity stage routine index.toNat (.invalidArgument index)
      (Machine.argumentSlot routine index) := by
  intro scene hfits hroutine
  subst hroutine
  exact argumentSlot_gives hfits index

section Slots

variable {slots : Slots} {i : Nat} {fault : Fault} {find : Exec (Nat × DataType)}

/-- The portrait of a scene, seen from a group of slots. -/
theorem Slots.Lawful.portrait_eq (hlawful : slots.Lawful) (scene : Scene) :
    stage.portrait scene =
      ⟨slots.above stage scene ++ ((slots.get scene.current).reverse ++ slots.below stage scene),
        (stage.portrait scene).frames, (stage.portrait scene).surface⟩ := by
  have hset := hlawful.portrait_set stage scene (slots.get scene.current)
  rw [hlawful.set_get] at hset
  exact hset

/-- Reading at the offset of a slot gives its value. -/
theorem Slots.Lawful.read_gives (hlawful : slots.Lawful) {scene : Scene} {value : Value}
    (hvalue : (slots.get scene.current)[i]? = some value) :
    Machine.Gives capacity (stage.portrait scene)
      (Machine.readSlot (slots.offset stage scene i) value.type)
      (.ok value (stage.portrait scene)) := by
  rw [hlawful.portrait_eq scene, reverse_append_eq_of_getElem? hvalue, ← List.append_assoc]
  exact Machine.readSlot_gives rfl rfl

/-- Overwriting at the offset of a slot sets it. -/
theorem Slots.Lawful.write_gives (hlawful : slots.Lawful) (capacity : Nat) (stage : Stage)
    (scene : Scene) {old value : Value}
    (hold : (slots.get scene.current)[i]? = some old) (htype : value.type = old.type)
    (hstored : value.stored = value) :
    Machine.Gives capacity (stage.portrait scene)
      (Machine.writeSlot (slots.offset stage scene i) value)
      (.ok () (stage.portrait
        { scene with
          current := slots.set scene.current ((slots.get scene.current).set i value) })) := by
  have hi := (List.getElem?_eq_some_iff.mp hold).1
  rw [hlawful.portrait_set, hlawful.portrait_eq scene, reverse_append_eq_of_getElem? hold,
    reverse_set_append_eq hi, ← List.append_assoc, ← List.append_assoc]
  exact Machine.writeSlot_gives htype hstored

/-- Reading a slot. -/
theorem Slots.Lawful.read_mirrors (hlawful : slots.Lawful)
    (hfind : slots.Finds capacity stage routine i fault find) :
    stage.Mirrors capacity routine
      (do
        let (offset, type) ← find
        Machine.readSlot offset type)
      (do
        match (slots.get (← Structured.running))[i]? with
        | some value => return value
        | none => throw fault) := by
  refine Mirrors.of_gives fun scene hfits hroutine _ => ?_
  have hslot := hfind scene hfits hroutine
  rw [Structured.running_bind]
  cases hvalue : (slots.get scene.current)[i]? with
  | none =>
    rw [hvalue] at hslot
    exact ⟨_, Machine.Gives.bind_error hslot, .error rfl⟩
  | some value =>
    rw [hvalue] at hslot
    exact ⟨_, Machine.Gives.bind hslot (hlawful.read_gives hvalue), .ok rfl hfits hroutine⟩

end Slots

/-- Every operand but the address of a slot stands for the same value. -/
theorem operandValue_mirrors (module : Module) {operand : Operand}
    (hlocal : ∀ index, operand ≠ .localAddress index)
    (hargument : ∀ index, operand ≠ .argumentAddress index) :
    stage.Mirrors capacity routine (Machine.operandValue module routine operand)
      (Structured.operandValue module operand) := by
  cases operand with
  | const value => exact Mirrors.pure value
  | localVar index => exact lawful_localSlots.read_mirrors (localSlot_finds index)
  | argument index => exact lawful_argumentSlots.read_mirrors (argumentSlot_finds index)
  | localAddress index => exact absurd rfl (hlocal index)
  | argumentAddress index => exact absurd rfl (hargument index)
  | resource index =>
    simp only [Machine.operandValue, Structured.operandValue]
    cases module.resources.get? index with
    | none => exact Mirrors.throw _
    | some resource =>
      exact Mirrors.bind (placeResource_mirrors index resource) fun address => Mirrors.pure _
  | routine id =>
    simp only [Machine.operandValue, Structured.operandValue]
    split
    · exact Mirrors.throw _
    · exact Mirrors.pure _

/-- Popping the topmost operand when it has the type of a slot, which is then set. -/
theorem pop_then {scene : Scene} (hfits : scene.current.Fits) {type : DataType}
    {next : Value → Exec Unit} {act : Value → Act Unit}
    (hstored : ∀ value ∈ (stage.portrait scene).values, value.stored = value)
    (hnext : ∀ value rest, value.type = type → value.stored = value →
      scene.current.operands = value :: rest →
      ∃ result, Machine.Gives capacity
        (stage.portrait { scene with current := { scene.current with operands := rest } })
        (next value) result ∧
        stage.Echoes routine result
          (act value { scene with current := { scene.current with operands := rest } })) :
    ∃ result, Machine.Gives capacity (stage.portrait scene) (Machine.pop type >>= next) result ∧
      stage.Echoes routine result ((Structured.pop type >>= act) scene) := by
  have hpop := Machine.pop_gives capacity scene.current.operands (stage.portrait scene).surface
    (stage.floorOf_portrait hfits) type
  rw [← values_portrait] at hpop
  change ∃ result, _ ∧ stage.Echoes routine result (EStateM.bind (Structured.pop type) act scene)
  unfold EStateM.bind Structured.pop
  cases hoperands : scene.current.operands with
  | nil =>
    rw [hoperands] at hpop
    exact ⟨_, Machine.Gives.bind_error hpop, .error rfl⟩
  | cons value rest =>
    rw [hoperands] at hpop
    by_cases htype : value.type ≠ type
    · simp only [if_pos htype] at hpop ⊢
      exact ⟨_, Machine.Gives.bind_error hpop, .error rfl⟩
    · simp only [if_neg htype] at hpop ⊢
      have hmember : value ∈ (stage.portrait scene).values := by
        rw [values_portrait, hoperands]
        simp
      obtain ⟨result, hresult, hechoes⟩ := hnext value rest (Decidable.not_not.mp htype)
        (hstored value hmember) hoperands
      refine ⟨result, Machine.Gives.bind hpop ?_, hechoes⟩
      simpa [portrait, Activation.values, Surface.withScene] using hresult

/-- Replacing a value by one of its type keeps the types of a list. -/
theorem map_type_set {values : List Value} {i : Nat} {old fresh : Value}
    (hold : values[i]? = some old) (htype : fresh.type = old.type) :
    (values.set i fresh).map Value.type = values.map Value.type := by
  obtain ⟨hi, rfl⟩ := List.getElem?_eq_some_iff.mp hold
  apply List.ext_getElem?
  intro j
  by_cases hj : i = j
  · subst hj
    simp [hi, htype]
  · simp [hj]

/-- Setting a slot after a pop, which does not move it. -/
theorem Slots.Lawful.write_echoes {slots : Slots} {i : Nat} (hlawful : slots.Lawful)
    {scene : Scene} {old value : Value} (hfits : scene.current.Fits)
    (hroutine : scene.current.routine = routine)
    (hold : (slots.get scene.current)[i]? = some old) (htype : value.type = old.type)
    (hstored : value.stored = value) (rest : List Value) :
    ∃ result, Machine.Gives capacity
      (stage.portrait { scene with current := { scene.current with operands := rest } })
      (Machine.writeSlot (slots.offset stage scene i) value) result ∧
      stage.Echoes routine result
        (Structured.update (fun current => slots.set current ((slots.get current).set i value))
          { scene with current := { scene.current with operands := rest } }) := by
  have hsame : (slots.get { scene.current with operands := rest })[i]? = some old := by
    rw [hlawful.get_operands]
    exact hold
  have hoffset : slots.offset stage scene i = slots.offset stage
      { scene with current := { scene.current with operands := rest } } i := by
    simp only [Slots.offset, hlawful.below_operands, hlawful.get_operands]
  have hwrite := hlawful.write_gives capacity stage
    { scene with current := { scene.current with operands := rest } } hsame htype hstored
  rw [← hoffset] at hwrite
  have hpopped : Activation.Fits { scene.current with operands := rest } := hfits.moved _ _
  refine ⟨_, hwrite, .ok rfl (hlawful.fits_set hpopped (map_type_set hsame htype)) ?_⟩
  rw [hlawful.routine_set]
  exact hroutine

/-- Popping into a slot: the slot is found first, and it lies at the same offset after the
pop. -/
theorem Slots.Lawful.pop_mirrors {slots : Slots} {i : Nat} {fault : Fault}
    {find : Exec (Nat × DataType)} (hlawful : slots.Lawful)
    (hfind : slots.Finds capacity stage routine i fault find) :
    stage.Mirrors capacity routine
      (do
        let (offset, type) ← find
        Machine.writeSlot offset (← Machine.pop type))
      (do
        match (slots.get (← Structured.running))[i]? with
        | none => throw fault
        | some old => do
          let value ← Structured.pop old.type
          Structured.update fun current =>
            slots.set current ((slots.get current).set i value)) := by
  refine Mirrors.of_gives fun scene hfits hroutine hstored => ?_
  have hslot := hfind scene hfits hroutine
  rw [Structured.running_bind]
  cases hold : (slots.get scene.current)[i]? with
  | none =>
    rw [hold] at hslot
    exact ⟨_, Machine.Gives.bind_error hslot, .error rfl⟩
  | some old =>
    rw [hold] at hslot
    have hpopped : ∃ result, Machine.Gives capacity (stage.portrait scene)
        (Machine.pop old.type >>= Machine.writeSlot (slots.offset stage scene i)) result ∧
        stage.Echoes routine result ((do
          let value ← Structured.pop old.type
          Structured.update fun current =>
            slots.set current ((slots.get current).set i value) : Act Unit) scene) :=
      pop_then hfits hstored fun value rest htype hvalue _ =>
        hlawful.write_echoes hfits hroutine hold htype hvalue rest
    obtain ⟨result, hresult, hechoes⟩ := hpopped
    exact ⟨result, Machine.Gives.bind hslot hresult, hechoes⟩

/-- Popping into an operand. -/
theorem popOperand_mirrors (operand : Operand) :
    stage.Mirrors capacity routine (Machine.popOperand routine operand)
      (Structured.popOperand operand) := by
  cases operand with
  | const value => exact Mirrors.bind (pop_mirrors value.type) fun _ => Mirrors.pure ()
  | localVar index => exact lawful_localSlots.pop_mirrors (localSlot_finds index)
  | argument index => exact lawful_argumentSlots.pop_mirrors (argumentSlot_finds index)
  | localAddress index => exact Mirrors.throw _
  | argumentAddress index => exact Mirrors.throw _
  | resource index => exact Mirrors.throw _
  | routine id => exact Mirrors.throw _

end Stage

end StackCode
