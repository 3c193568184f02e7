import StackCode.Proofs.Structured.Portrait

/-!
# Instructions on the running activation

The running activation of a packed machine lies on top of the values of all others.  An
instruction that stays in the running routine does to the machine what the structured
instruction does to the activation record, and it faults when that does.

Main definitions:

- `Instruction.reachesMemory`, `Routine.Plain`: code without loads, stores and addresses
  of slots.
- `Structured.Activation.Fits`: an activation record that fits its routine.
- `Stage`, `Stage.Shows`: a machine that shows a scene on top of other values.
- `Stage.Mirrors`: two computations that do the same.

Main results:

- Theorems `Stage.push_mirrors`, `Stage.pop_mirrors`: operands.
- Theorems `Stage.typed_mirrors`, `Stage.conditional_mirrors`, `Stage.jump_mirrors`,
  `Stage.callee_mirrors`: instructions.
-/

namespace StackCode

open Structured (Activation Scene Act Surface packedSize)

/-! ## Routines without access to memory -/

/-- Whether an instruction loads, stores or takes the address of a slot. -/
def Instruction.reachesMemory : Instruction → Bool
  | .typed .load _ => true
  | .typed .store _ => true
  | .stack _ (.localAddress _) => true
  | .stack _ (.argumentAddress _) => true
  | _ => false

/-- A routine that does not reach memory, whose locals can be stored and whose positions
fit into 32 bits. -/
structure Routine.Plain (routine : Routine) : Prop where
  storable : .void ∉ routine.locals.toList
  size_lt : routine.code.size < 2 ^ 32
  local_only : ∀ instruction ∈ routine.code, instruction.reachesMemory = false

/-- An activation record has the arguments and locals that its routine declares. -/
structure Structured.Activation.Fits (activation : Activation) : Prop where
  plain : activation.routine.Plain
  arguments_eq : activation.arguments.map Value.type = activation.routine.parameters
  locals_eq : activation.locals.map Value.type = activation.routine.locals.toList
  resume_lt : activation.resume < 2 ^ 32

/-- An activation still fits when it goes on elsewhere or has other operands. -/
theorem Structured.Activation.Fits.moved {activation : Activation} (hfits : activation.Fits)
    (ip : Nat) (operands : List Value) : Activation.Fits { activation with ip, operands } :=
  ⟨hfits.plain, hfits.arguments_eq, hfits.locals_eq, hfits.resume_lt⟩

/-- The values of an activation, the topmost first. -/
def Structured.Activation.values (activation : Activation) (savedFp : UInt64) : List Value :=
  activation.operands ++ Machine.frameValues activation.arguments activation.locals savedFp
    activation.resume.toUInt32

/-- The values of an activation take as many bytes as its size says. -/
theorem packedSize_values (activation : Activation) (savedFp : UInt64) :
    packedSize (activation.values savedFp) = activation.size := by
  rw [Activation.values, packedSize_append, Machine.packedSize_frameValues, Activation.size]
  omega

/-! ## Scenes on a stage -/

/-- What surrounds the running activation: the activations and values below it, its saved
frame, and the surface. -/
structure Stage where
  frames : List Frame
  below : List Value
  savedFp : UInt64
  surface : Surface

namespace Stage

/-- The portrait of a machine that shows a scene. -/
def portrait (stage : Stage) (scene : Scene) : Portrait :=
  ⟨scene.current.values stage.savedFp ++ stage.below,
    .placed scene.current.routine scene.current.ip (packedSize stage.below) :: stage.frames,
    stage.surface.withScene scene⟩

/-- A machine shows a scene with an activation of a routine. -/
structure Shows (capacity : Nat) (stage : Stage) (routine : Routine) (machine : Machine)
    (scene : Scene) : Prop where
  depicts : machine.Depicts capacity (stage.portrait scene)
  fits : scene.current.Fits
  routine_eq : scene.current.routine = routine

/-- Results of a computation on machines and of one on scenes agree. -/
inductive Agrees {α : Type} (capacity : Nat) (stage : Stage) (routine : Routine) :
    EStateM.Result Fault Machine α → EStateM.Result Fault Scene α → Prop
  | ok {result : α} {machine : Machine} {scene : Scene}
      (hshows : stage.Shows capacity routine machine scene) :
      Agrees capacity stage routine (.ok result machine) (.ok result scene)
  | error {fault : Fault} {machine : Machine} {scene : Scene}
      (hsurface : machine.surface = stage.surface.withScene scene) :
      Agrees capacity stage routine (.error fault machine) (.error fault scene)

/-- A computation on machines does what one does on scenes. -/
def Mirrors {α : Type} (capacity : Nat) (stage : Stage) (routine : Routine)
    (computation : Exec α) (act : Act α) : Prop :=
  ∀ machine scene, stage.Shows capacity routine machine scene →
    stage.Agrees capacity routine (computation machine) (act scene)

section Mirrors

variable {α β : Type} {capacity : Nat} {stage : Stage} {routine : Routine}

theorem Shows.surface_eq {machine : Machine} {scene : Scene}
    (hshows : stage.Shows capacity routine machine scene) :
    machine.surface = stage.surface.withScene scene :=
  hshows.depicts.surface_eq

theorem Mirrors.pure (result : α) :
    stage.Mirrors capacity routine (pure result) (pure result) :=
  fun _ _ hshows => .ok hshows

theorem Mirrors.throw (fault : Fault) :
    stage.Mirrors capacity routine (throw fault : Exec α) (throw fault) :=
  fun _ _ hshows => .error hshows.surface_eq

theorem Mirrors.bind {computation : Exec α} {act : Act α} {next : α → Exec β}
    {nextAct : α → Act β} (hfirst : stage.Mirrors capacity routine computation act)
    (hnext : ∀ result, stage.Mirrors capacity routine (next result) (nextAct result)) :
    stage.Mirrors capacity routine (computation >>= next) (act >>= nextAct) := by
  intro machine scene hshows
  have hagrees := hfirst machine scene hshows
  change stage.Agrees capacity routine (EStateM.bind computation next machine)
    (EStateM.bind act nextAct scene)
  unfold EStateM.bind
  generalize computation machine = found, act scene = expected at hagrees
  cases hagrees with
  | ok hafter => exact hnext _ _ _ hafter
  | error hsurface => exact .error hsurface

/-- A result that does not depend on the machine. -/
theorem lift_mirrors (result : Except Fault α) :
    stage.Mirrors capacity routine (Machine.lift result) (Structured.lift result) := by
  cases result with
  | ok result => exact Mirrors.pure result
  | error fault => exact Mirrors.throw fault

/-- A result on portraits agrees with one on scenes. -/
inductive Echoes {α : Type} (stage : Stage) (routine : Routine) :
    EStateM.Result Fault Portrait α → EStateM.Result Fault Scene α → Prop
  | ok {result : α} {portrait : Portrait} {scene : Scene}
      (hportrait : portrait = stage.portrait scene) (hfits : scene.current.Fits)
      (hroutine : scene.current.routine = routine) :
      Echoes stage routine (.ok result portrait) (.ok result scene)
  | error {fault : Fault} {portrait : Portrait} {scene : Scene}
      (hsurface : portrait.surface = stage.surface.withScene scene) :
      Echoes stage routine (.error fault portrait) (.error fault scene)

/-- A computation that knows its routine, and one that looks at the running activation. -/
theorem Mirrors.of_running {computation : Exec α} {next : Structured.Activation → Act α}
    (hnext : ∀ activation : Structured.Activation, activation.routine = routine →
      stage.Mirrors capacity routine computation (next activation)) :
    stage.Mirrors capacity routine computation (Structured.running >>= next) :=
  fun machine scene hshows => hnext scene.current hshows.routine_eq machine scene hshows

/-- What a computation does to portraits says what it does to scenes.  The values of a
scene on a machine can be stored and have no bits above their width. -/
theorem Mirrors.of_gives {computation : Exec α} {act : Act α}
    (hgives : ∀ scene : Scene, scene.current.Fits → scene.current.routine = routine →
      (∀ value ∈ (stage.portrait scene).values, value.stored = value) →
      ∃ result, Machine.Gives capacity (stage.portrait scene) computation result ∧
        stage.Echoes routine result (act scene)) :
    stage.Mirrors capacity routine computation act := by
  intro machine scene hshows
  obtain ⟨result, hresult, hechoes⟩ := hgives scene hshows.fits hshows.routine_eq
    fun value hvalue => hshows.depicts.holds.stored_eq hvalue
  have hmatches := hresult machine hshows.depicts
  generalize computation machine = found, act scene = expected at hmatches hechoes
  cases hechoes with
  | ok hportrait hfits hroutine =>
    subst hportrait
    cases hmatches with
    | ok hdepicts => exact .ok ⟨hdepicts, hfits, hroutine⟩
  | error hechoed =>
    cases hmatches with
    | error hsurface => exact .error (hsurface.trans hechoed)

end Mirrors

/-! ## Operands -/

section Operands

variable {capacity : Nat} {stage : Stage} {routine : Routine}

/-- The operands of a fitting activation start where the values of the activation end. -/
theorem floorOf_portrait (stage : Stage) {scene : Scene} (hfits : scene.current.Fits) :
    Machine.floorOf (stage.portrait scene).frames =
      packedSize (Machine.frameValues scene.current.arguments scene.current.locals stage.savedFp
        scene.current.resume.toUInt32 ++ stage.below) := by
  have hfloor := Machine.floorOf_placed scene.current.routine scene.current.ip
    (stage.below.map Value.type) stage.frames
  rw [← Machine.map_type_frameValues hfits.arguments_eq hfits.locals_eq stage.savedFp
    scene.current.resume.toUInt32, ← List.map_append] at hfloor
  exact hfloor

/-- The values of a scene are its operands on those of its activation. -/
theorem values_portrait (scene : Scene) :
    (stage.portrait scene).values = scene.current.operands ++
      (Machine.frameValues scene.current.arguments scene.current.locals stage.savedFp
        scene.current.resume.toUInt32 ++ stage.below) := by
  simp [portrait, Activation.values]

/-- Number of bytes of all values. -/
theorem packedSize_portrait (stage : Stage) (scene : Scene) :
    packedSize (stage.portrait scene).values = scene.current.size + packedSize stage.below := by
  simp [portrait, packedSize_values]

/-- The machine has room for an operand when the activation has. -/
theorem push_mirrors (value : Value) :
    stage.Mirrors capacity routine (Machine.push value)
      (Structured.push (capacity - packedSize stage.below) value) := by
  refine Mirrors.of_gives fun scene hfits hroutine _ => ?_
  have hgives := Machine.push_gives capacity (stage.portrait scene).values
    (stage.portrait scene).frames (stage.portrait scene).surface value
  refine ⟨_, hgives, ?_⟩
  unfold Structured.push
  by_cases hvoid : value.type = .void
  · simp only [if_pos hvoid]
    exact .error rfl
  · simp only [if_neg hvoid]
    have hsize := stage.packedSize_portrait scene
    have hpositive : headerSize ≤ scene.current.size := by
      unfold Activation.size
      omega
    rw [headerSize] at hpositive
    by_cases hfull : capacity < packedSize (stage.portrait scene).values + value.size
    · have hover : capacity - packedSize stage.below < scene.current.size + value.size := by omega
      simp only [if_pos hfull, if_pos hover]
      exact .error rfl
    · have hroom : ¬ capacity - packedSize stage.below < scene.current.size + value.size := by
        omega
      simp only [if_neg hfull, if_neg hroom]
      exact .ok rfl (hfits.moved _ _) hroutine

/-- The topmost operand of the machine is that of the activation. -/
theorem pop_mirrors (type : DataType) :
    stage.Mirrors capacity routine (Machine.pop type) (Structured.pop type) := by
  refine Mirrors.of_gives fun scene hfits hroutine _ => ?_
  have hgives := Machine.pop_gives capacity scene.current.operands
    (stage.portrait scene).surface (stage.floorOf_portrait hfits) type
  rw [← values_portrait] at hgives
  refine ⟨_, hgives, ?_⟩
  unfold Structured.pop
  cases hoperands : scene.current.operands with
  | nil => exact .error rfl
  | cons value rest =>
    by_cases htype : value.type ≠ type
    · simp only [if_pos htype]
      exact .error rfl
    · simp only [if_neg htype]
      refine .ok ?_ (hfits.moved _ _) hroutine
      simp [portrait, Activation.values, Surface.withScene]

/-- Going on elsewhere in the running routine. -/
theorem jumpTo_mirrors (position : Nat) :
    stage.Mirrors capacity routine (Machine.onCalls (CallStack.jump position))
      (Structured.jumpTo position) := by
  refine Mirrors.of_gives fun scene hfits hroutine _ =>
    ⟨_, Machine.onCalls_jump_gives _ _ _ position, .ok rfl ?_ hroutine⟩
  exact hfits.moved _ _

/-- The running activation has the routine and the position of its record. -/
theorem frame_gives (scene : Scene) :
    Machine.Gives capacity (stage.portrait scene) Machine.frame
      (.ok (.placed scene.current.routine scene.current.ip (packedSize stage.below))
        (stage.portrait scene)) :=
  Machine.frame_gives

/-! ## Console and resources -/

theorem print_mirrors (bytes : List UInt8) :
    stage.Mirrors capacity routine (Machine.print bytes) (Structured.print bytes) :=
  Mirrors.of_gives fun _ hfits hroutine _ =>
    ⟨_, Machine.print_gives bytes, .ok rfl hfits hroutine⟩

theorem readChar_mirrors :
    stage.Mirrors capacity routine Machine.readChar Structured.readChar :=
  Mirrors.of_gives fun _ hfits hroutine _ =>
    ⟨_, Machine.readChar_gives, .ok rfl hfits hroutine⟩

theorem placeResource_mirrors (index : ResourceIndex) (resource : Resource) :
    stage.Mirrors capacity routine (Machine.placeResource index resource)
      (Structured.placeResource index resource) :=
  Mirrors.of_gives fun _ hfits hroutine _ =>
    ⟨_, Machine.placeResource_gives index resource, .ok rfl hfits hroutine⟩

/-! ## Instructions -/

/-- Typed instructions but loads and stores. -/
theorem typed_mirrors {opcode : Opcode} (hload : opcode ≠ .load) (hstore : opcode ≠ .store)
    (type : DataType) :
    stage.Mirrors capacity routine (Machine.typed opcode type)
      (Structured.typed (capacity - packedSize stage.below) opcode type) := by
  have hunary : ∀ opcode, stage.Mirrors capacity routine (Machine.unary opcode type) (do
      let a ← Structured.pop type
      Structured.push (capacity - packedSize stage.below)
        (← Structured.lift (Numeric.unary opcode type a))) := fun opcode =>
    Mirrors.bind (pop_mirrors type) fun a => Mirrors.bind (lift_mirrors _) push_mirrors
  have hbinary : ∀ opcode, stage.Mirrors capacity routine (Machine.binary opcode type) (do
      let b ← Structured.pop type
      let a ← Structured.pop type
      Structured.push (capacity - packedSize stage.below)
        (← Structured.lift (Numeric.binary opcode type a b))) := fun opcode =>
    Mirrors.bind (pop_mirrors type) fun b => Mirrors.bind (pop_mirrors type) fun a =>
      Mirrors.bind (lift_mirrors _) push_mirrors
  unfold Machine.typed Structured.typed
  by_cases hvoid : type = .void
  · simp only [if_pos hvoid]
    exact Mirrors.throw _
  · simp only [if_neg hvoid]
    cases opcode with
    | load => exact absurd rfl hload
    | store => exact absurd rfl hstore
    | negate => exact hunary .negate
    | increment => exact hunary .increment
    | decrement => exact hunary .decrement
    | not => exact hunary .not
    | print => exact Mirrors.bind (pop_mirrors type) fun value => print_mirrors _
    | _ => exact hbinary _

theorem test_mirrors (comparison : Comparison) (type : DataType) :
    stage.Mirrors capacity routine (Machine.test comparison type)
      (Structured.test comparison type) := by
  unfold Machine.test Structured.test
  by_cases harity : comparison.arity = 2
  · simp only [if_pos harity]
    exact Mirrors.bind (pop_mirrors type) fun b => Mirrors.bind (pop_mirrors type) fun a =>
      lift_mirrors _
  · simp only [if_neg harity]
    exact Mirrors.bind (Mirrors.pure _) fun b => Mirrors.bind (pop_mirrors type) fun a =>
      lift_mirrors _

/-- Skipping the next instruction. -/
theorem skip_mirrors :
    stage.Mirrors capacity routine Machine.skip
      (do Structured.jumpTo ((← Structured.running).ip + 1)) := by
  refine Mirrors.of_gives fun scene hfits hroutine _ => ?_
  refine ⟨_, Machine.Gives.bind (frame_gives scene)
    (Machine.onCalls_jump_gives _ _ _ (scene.current.ip + 1)), .ok rfl ?_ hroutine⟩
  exact hfits.moved _ _

theorem conditional_mirrors (opcode : Opcode) (comparison : Comparison) (type : DataType) :
    stage.Mirrors capacity routine (Machine.conditional opcode comparison type)
      (Structured.conditional (capacity - packedSize stage.below) opcode comparison type) := by
  refine Mirrors.bind (test_mirrors comparison type) fun holds => ?_
  by_cases hguard : opcode = .guard
  · simp only [if_pos hguard]
    cases holds with
    | true => exact Mirrors.pure ()
    | false => exact skip_mirrors
  · simp only [if_neg hguard]
    exact push_mirrors _

theorem jump_mirrors (label : Label) :
    stage.Mirrors capacity routine (Machine.jump routine label) (Structured.jump label) := by
  refine Mirrors.of_running fun activation hroutine => ?_
  rw [hroutine]
  unfold Machine.jump
  cases routine.target? label with
  | none => exact Mirrors.throw _
  | some position =>
    by_cases hinside : position ≤ routine.code.size
    · simp only [if_pos hinside]
      exact jumpTo_mirrors position
    · simp only [if_neg hinside]
      exact Mirrors.throw _

theorem callee_mirrors (module : Module) (target : CallTarget) :
    stage.Mirrors capacity routine (Machine.callee module target)
      (Structured.callee module target) := by
  cases target with
  | definition id =>
    simp only [Machine.callee, Structured.callee]
    cases module.find? id with
    | none => exact Mirrors.throw _
    | some definition => exact Mirrors.pure definition
  | indirect expected =>
    refine Mirrors.bind (pop_mirrors .pointer) fun address =>
      Mirrors.bind (lift_mirrors _) fun definition => ?_
    by_cases hsignature : definition.signature = expected
    · simp only [if_pos hsignature]
      exact Mirrors.pure definition
    · simp only [if_neg hsignature]
      exact Mirrors.throw _

end Operands

end Stage

end StackCode
