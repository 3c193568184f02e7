import StackCode.Proofs.TailCall.SpelledOut

/-!
# Instructions of spelled out routines

An activation of a spelled out routine runs like one of the routine before, except that
it may have less room and may return elsewhere.  Whatever an instruction does there, it
does here.

Main definitions:

- `Structured.Scene.spelledOut`: a scene with a spelled out routine that returns elsewhere.
- `Structured.Copies`: a computation that does whatever another one does on spelled out
  scenes.

Main results:

- Theorem `Structured.execute_copies`: every instruction.
- Theorem `Structured.execute_asks`: which instructions call and return.
-/

namespace StackCode

namespace Structured

/-! ## Spelled out scenes -/

/-- An activation of the spelled out routine, which returns to a given position. -/
def Activation.spelledOut (chosen : Selection) (resume : Nat) (activation : Activation) :
    Activation :=
  { activation with routine := activation.routine.spelledOut chosen, resume }

@[simp]
theorem Activation.size_spelledOut (chosen : Selection) (resume : Nat)
    (activation : Activation) : (activation.spelledOut chosen resume).size = activation.size :=
  rfl

@[simp]
theorem Activation.operands_spelledOut (chosen : Selection) (resume : Nat)
    (activation : Activation) :
    (activation.spelledOut chosen resume).operands = activation.operands := rfl

@[simp]
theorem Activation.locals_spelledOut (chosen : Selection) (resume : Nat)
    (activation : Activation) :
    (activation.spelledOut chosen resume).locals = activation.locals := rfl

@[simp]
theorem Activation.arguments_spelledOut (chosen : Selection) (resume : Nat)
    (activation : Activation) :
    (activation.spelledOut chosen resume).arguments = activation.arguments := rfl

/-- A scene whose activation is spelled out. -/
def Scene.spelledOut (chosen : Selection) (resume : Nat) (scene : Scene) : Scene :=
  { scene with current := scene.current.spelledOut chosen resume }

/-- What an instruction of a spelled out routine asks for. -/
def Effect.spelledOut (chosen : Selection) : Effect → Effect
  | .call mode routine => .call mode (routine.spelledOut chosen)
  | effect => effect

/-! ## Copies of computations -/

/-- A result is copied if the other one is a fault, or if it is the same on the scene
before it is spelled out. -/
inductive Copied {α : Type} (chosen : Selection) (resume : Nat) (view : α → α) (scene : Scene) :
    EStateM.Result Fault Scene α → EStateM.Result Fault Scene α → Prop
  | ok {result : α} {last : Scene} (hroutine : last.current.routine = scene.current.routine)
      (hresume : last.current.resume = scene.current.resume) :
      Copied chosen resume view scene (.ok result last)
        (.ok (view result) (last.spelledOut chosen resume))
  | error {found : EStateM.Result Fault Scene α} {fault : Fault} {last : Scene} :
      Copied chosen resume view scene found (.error fault last)

/-- A computation does what another one does on spelled out scenes, unless that ends with
a fault.  Its results are seen through `view`. -/
def Copies {α : Type} (chosen : Selection) (resume : Nat) (view : α → α) (act copied : Act α) :
    Prop :=
  ∀ scene, Copied chosen resume view scene (act scene) (copied (scene.spelledOut chosen resume))

section Copies

variable {α β : Type} {chosen : Selection} {resume : Nat} {view : α → α} {viewNext : β → β}

theorem Copies.pure (result : α) :
    Copies chosen resume view (pure result) (pure (view result)) :=
  fun _ => .ok rfl rfl

/-- A fault can be copied by anything. -/
theorem Copies.throw (act : Act α) (fault : Fault) :
    Copies chosen resume view act (throw fault) :=
  fun _ => .error

theorem Copies.bind {act copied : Act α} {next copiedNext : α → Act β}
    (hfirst : Copies chosen resume view act copied)
    (hnext : ∀ result, Copies chosen resume viewNext (next result) (copiedNext (view result))) :
    Copies chosen resume viewNext (act >>= next) (copied >>= copiedNext) := by
  intro scene
  have hcopied := hfirst scene
  change Copied chosen resume viewNext scene (EStateM.bind act next scene)
    (EStateM.bind copied copiedNext (scene.spelledOut chosen resume))
  unfold EStateM.bind
  generalize act scene = found, copied (scene.spelledOut chosen resume) = expected at hcopied
  cases hcopied with
  | @ok result last hroutine hresume =>
    have hlast := hnext result last
    simp only
    generalize next result last = foundNext,
      copiedNext (view result) (last.spelledOut chosen resume) = expectedNext at hlast
    cases hlast with
    | ok hroutineNext hresumeNext =>
      exact .ok (hroutineNext.trans hroutine) (hresumeNext.trans hresume)
    | error => exact .error
  | error => exact .error

/-- A computation that looks at the running activation. -/
theorem Copies.of_running {next copiedNext : Activation → Act α}
    (hnext : ∀ activation, Copies chosen resume view (next activation)
      (copiedNext (activation.spelledOut chosen resume))) :
    Copies chosen resume view (running >>= next) (running >>= copiedNext) :=
  fun scene => hnext scene.current scene

theorem lift_copies (result : Except Fault α) :
    Copies chosen resume id (lift result) (lift result) := by
  cases result with
  | ok result => exact Copies.pure result
  | error fault => exact Copies.throw _ fault

/-- A change of the running activation that leaves its routine and its return alone. -/
theorem update_copies {change : Activation → Activation}
    (hchange : ∀ activation, change (activation.spelledOut chosen resume) =
      (change activation).spelledOut chosen resume)
    (hroutine : ∀ activation, (change activation).routine = activation.routine)
    (hresume : ∀ activation, (change activation).resume = activation.resume) :
    Copies chosen resume id (update change) (update change) := by
  intro scene
  have hlast : ({ scene.spelledOut chosen resume with
      current := change (scene.current.spelledOut chosen resume) } : Scene) =
        Scene.spelledOut chosen resume { scene with current := change scene.current } := by
    rw [hchange]
    rfl
  unfold update
  simp only [Scene.spelledOut] at hlast ⊢
  rw [hlast]
  exact .ok (hroutine scene.current) (hresume scene.current)

/-- There is at least as much room for an operand. -/
theorem push_copies {room roomCopied : Nat} (hroom : roomCopied ≤ room) (value : Value) :
    Copies chosen resume id (push room value) (push roomCopied value) := by
  intro scene
  have hsize : (scene.spelledOut chosen resume).current.size = scene.current.size := rfl
  unfold push
  rw [hsize]
  by_cases hvoid : value.type = .void
  · rw [if_pos hvoid, if_pos hvoid]
    exact .error
  · rw [if_neg hvoid, if_neg hvoid]
    by_cases hfull : roomCopied < scene.current.size + value.size
    · rw [if_pos hfull]
      exact .error
    · rw [if_neg hfull, if_neg (by omega)]
      have hpushed : Copies chosen resume id
          (update fun current => { current with operands := value.stored :: current.operands })
          (update fun current => { current with operands := value.stored :: current.operands }) :=
        update_copies (fun _ => rfl) (fun _ => rfl) (fun _ => rfl)
      exact hpushed scene

theorem pop_copies (type : DataType) : Copies chosen resume id (pop type) (pop type) := by
  intro scene
  unfold pop
  simp only [Scene.spelledOut, Activation.operands_spelledOut]
  cases scene.current.operands with
  | nil => exact .error
  | cons value operands =>
    simp only
    by_cases htype : value.type = type
    · rw [if_neg (not_not_intro htype), if_neg (not_not_intro htype)]
      exact .ok rfl rfl
    · rw [if_pos htype, if_pos htype]
      exact .error

theorem jumpTo_copies (position : Nat) :
    Copies chosen resume id (jumpTo position) (jumpTo position) :=
  update_copies (fun _ => rfl) (fun _ => rfl) (fun _ => rfl)

theorem print_copies (bytes : List UInt8) :
    Copies chosen resume id (print bytes) (print bytes) :=
  fun _ => .ok rfl rfl

theorem readChar_copies : Copies chosen resume id readChar readChar :=
  fun _ => .ok rfl rfl

theorem placeResource_copies (index : ResourceIndex) (resource : Resource) :
    Copies chosen resume id (placeResource index resource) (placeResource index resource) :=
  fun _ => .ok rfl rfl

end Copies

/-! ## Instructions -/

section Instructions

variable {chosen : Selection} {resume : Nat} {module : Module} {room roomCopied : Nat}

theorem operandValue_copies (operand : Operand) :
    Copies chosen resume id (operandValue module operand)
      (operandValue (module.spelledOut chosen) operand) := by
  cases operand with
  | const value => exact Copies.pure value
  | localVar index =>
    refine Copies.of_running fun activation => ?_
    rw [Activation.locals_spelledOut]
    cases activation.locals[index.toNat]? with
    | some value => exact Copies.pure value
    | none => exact Copies.throw _ _
  | argument index =>
    refine Copies.of_running fun activation => ?_
    rw [Activation.arguments_spelledOut]
    cases activation.arguments[index.toNat]? with
    | some value => exact Copies.pure value
    | none => exact Copies.throw _ _
  | resource index =>
    have hresources : (module.spelledOut chosen).resources = module.resources := rfl
    simp only [operandValue, hresources]
    cases module.resources.get? index with
    | none => exact Copies.throw _ _
    | some resource =>
      exact Copies.bind (placeResource_copies index resource) fun address => Copies.pure _
  | routine id =>
    simp only [operandValue, Module.find?_spelledOut, Option.isNone_map]
    by_cases habsent : (module.find? id).isNone
    · rw [if_pos habsent]
      exact Copies.throw _ _
    · rw [if_neg habsent]
      exact Copies.pure _
  | localAddress index => exact Copies.throw _ _
  | argumentAddress index => exact Copies.throw _ _

theorem popOperand_copies (operand : Operand) :
    Copies chosen resume id (popOperand operand) (popOperand operand) := by
  cases operand with
  | const value => exact Copies.bind (pop_copies value.type) fun _ => Copies.pure ()
  | localVar index =>
    refine Copies.of_running fun activation => ?_
    rw [Activation.locals_spelledOut]
    cases activation.locals[index.toNat]? with
    | none => exact Copies.throw _ _
    | some old =>
      refine Copies.bind (pop_copies old.type) fun value => ?_
      exact update_copies (fun _ => rfl) (fun _ => rfl) (fun _ => rfl)
  | argument index =>
    refine Copies.of_running fun activation => ?_
    rw [Activation.arguments_spelledOut]
    cases activation.arguments[index.toNat]? with
    | none => exact Copies.throw _ _
    | some old =>
      refine Copies.bind (pop_copies old.type) fun value => ?_
      exact update_copies (fun _ => rfl) (fun _ => rfl) (fun _ => rfl)
  | _ => exact Copies.throw _ _

theorem typed_copies (hroom : roomCopied ≤ room) (opcode : Opcode) (type : DataType) :
    Copies chosen resume id (typed room opcode type) (typed roomCopied opcode type) := by
  unfold typed
  by_cases hvoid : type = .void
  · rw [if_pos hvoid, if_pos hvoid]
    exact Copies.throw _ _
  · rw [if_neg hvoid, if_neg hvoid]
    have hunary : Copies chosen resume id
        (do let a ← pop type; push room (← lift (Numeric.unary opcode type a)))
        (do let a ← pop type; push roomCopied (← lift (Numeric.unary opcode type a))) :=
      Copies.bind (pop_copies type) fun a =>
        Copies.bind (lift_copies _) fun value => push_copies hroom value
    have hbinary : Copies chosen resume id
        (do let b ← pop type; let a ← pop type
            push room (← lift (Numeric.binary opcode type a b)))
        (do let b ← pop type; let a ← pop type
            push roomCopied (← lift (Numeric.binary opcode type a b))) :=
      Copies.bind (pop_copies type) fun b =>
        Copies.bind (pop_copies type) fun a =>
          Copies.bind (lift_copies _) fun value => push_copies hroom value
    split
    · exact Copies.throw _ _
    · exact Copies.throw _ _
    · exact hunary
    · exact hunary
    · exact hunary
    · exact hunary
    · exact Copies.bind (pop_copies type) fun value => print_copies _
    · exact hbinary

theorem test_copies (comparison : Comparison) (type : DataType) :
    Copies chosen resume id (test comparison type) (test comparison type) := by
  unfold test
  by_cases harity : comparison.arity = 2
  · simp only [if_pos harity]
    exact Copies.bind (pop_copies type) fun b =>
      Copies.bind (pop_copies type) fun a => lift_copies _
  · simp only [if_neg harity]
    exact Copies.bind (Copies.pure (Value.zero type)) fun b =>
      Copies.bind (pop_copies type) fun a => lift_copies _

theorem conditional_copies (hroom : roomCopied ≤ room) (opcode : Opcode)
    (comparison : Comparison) (type : DataType) :
    Copies chosen resume id (conditional room opcode comparison type)
      (conditional roomCopied opcode comparison type) := by
  refine Copies.bind (test_copies comparison type) fun holds => ?_
  simp only [id]
  by_cases hguard : opcode = .guard
  · rw [if_pos hguard, if_pos hguard]
    cases holds with
    | true => exact Copies.pure ()
    | false => exact Copies.of_running fun activation => jumpTo_copies (activation.ip + 1)
  · rw [if_neg hguard, if_neg hguard]
    exact push_copies hroom _

theorem jump_copies (label : Label) : Copies chosen resume id (jump label) (jump label) := by
  refine Copies.of_running fun activation => ?_
  have htarget : (activation.spelledOut chosen resume).routine.target? label =
      activation.routine.target? label := rfl
  rw [htarget]
  cases activation.routine.target? label with
  | none => exact Copies.throw _ _
  | some position =>
    simp only [Activation.spelledOut, Routine.size_spelledOut]
    by_cases hinside : position ≤ activation.routine.code.size
    · rw [if_pos hinside]
      exact jumpTo_copies position
    · rw [if_neg hinside]
      exact Copies.throw _ _

theorem simple_copies (hroom : roomCopied ≤ room) (opcode : Opcode) :
    Copies chosen resume (Effect.spelledOut chosen) (simple room opcode)
      (simple roomCopied opcode) := by
  cases opcode with
  | nop => exact Copies.pure Effect.next
  | ret => exact Copies.pure Effect.leave
  | printChar =>
    exact Copies.bind (pop_copies .u8) fun value =>
      Copies.bind (print_copies _) fun _ => Copies.pure Effect.next
  | readChar =>
    refine Copies.bind readChar_copies fun byte? => ?_
    cases byte? with
    | some byte => exact Copies.bind (push_copies hroom _) fun _ => Copies.pure Effect.next
    | none => exact Copies.bind (push_copies hroom _) fun _ => Copies.pure Effect.next
  | _ => exact Copies.throw _ _

theorem callee_copies (target : CallTarget) :
    Copies chosen resume (Definition.spelledOut chosen) (callee module target)
      (callee (module.spelledOut chosen) target) := by
  cases target with
  | definition id =>
    simp only [callee, Module.find?_spelledOut]
    cases module.find? id with
    | some definition => exact Copies.pure definition
    | none => exact Copies.throw _ _
  | indirect expected =>
    refine Copies.bind (pop_copies .pointer) fun address => ?_
    have hlift : Copies chosen resume (Definition.spelledOut chosen)
        (lift (Machine.functionAt module address.raw))
        (lift (Machine.functionAt (module.spelledOut chosen) address.raw)) := by
      rw [Machine.functionAt_spelledOut]
      cases Machine.functionAt module address.raw with
      | ok definition => exact Copies.pure definition
      | error fault => exact Copies.throw _ fault
    refine Copies.bind hlift fun definition => ?_
    rw [Definition.signature_spelledOut]
    by_cases hsignature : definition.signature = expected
    · rw [if_pos hsignature, if_pos hsignature]
      exact Copies.pure definition
    · rw [if_neg hsignature, if_neg hsignature]
      exact Copies.throw _ _

/-- The mode of a call is only handed on. -/
theorem call_copies (mode : CallMode) (target : CallTarget) :
    Copies chosen resume (Effect.spelledOut chosen) (call module mode target)
      (call (module.spelledOut chosen) mode target) := by
  refine Copies.bind (callee_copies target) fun definition => ?_
  cases definition with
  | routine routine => exact Copies.pure (Effect.call mode routine)
  | external function => exact Copies.throw _ _

/-- Every instruction. -/
theorem execute_copies (chosen : Selection) (resume : Nat) (module : Module)
    (hroom : roomCopied ≤ room) (instruction : Instruction) :
    Copies chosen resume (Effect.spelledOut chosen) (execute module room instruction)
      (execute (module.spelledOut chosen) roomCopied instruction) := by
  have hnext : ∀ {act copied : Act Unit}, Copies chosen resume id act copied →
      Copies chosen resume (Effect.spelledOut chosen) (do act; return .next)
        (do copied; return .next) :=
    fun hcopies => Copies.bind hcopies fun _ => Copies.pure Effect.next
  unfold execute
  cases instruction.isWellFormed with
  | false => exact Copies.throw _ _
  | true =>
    simp only [Bool.not_true, Bool.false_eq_true, if_false]
    cases instruction with
    | simple opcode => exact simple_copies hroom opcode
    | typed opcode type => exact hnext (typed_copies hroom opcode type)
    | convert opcode source target =>
      exact Copies.bind (pop_copies source) fun value =>
        Copies.bind (lift_copies _) fun cast => hnext (push_copies hroom cast)
    | conditional opcode comparison type =>
      exact hnext (conditional_copies hroom opcode comparison type)
    | branch opcode label => exact hnext (jump_copies label)
    | stack opcode operand =>
      cases opcode with
      | push =>
        exact hnext (Copies.bind (operandValue_copies operand) fun value =>
          push_copies hroom value)
      | _ => exact hnext (popOperand_copies operand)
    | call opcode mode target => exact call_copies mode target

/-! ## Calls and returns -/

/-- A well-formed call instruction asks for a call of what it reaches. -/
theorem execute_call_eq_ok {opcode : Opcode} {mode : CallMode} {target : CallTarget}
    {scene last : Scene} {effect : Effect} :
    execute module room (.call opcode mode target) scene = .ok effect last ↔
      (Instruction.call opcode mode target).isWellFormed = true ∧
        ∃ routine, effect = .call mode routine ∧
          callee module target scene = .ok (.routine routine) last := by
  unfold execute
  cases (Instruction.call opcode mode target).isWellFormed with
  | false =>
    constructor
    · intro hexecute
      cases hexecute
    · rintro ⟨hformed, -⟩
      cases hformed
  | true =>
    simp only [Bool.not_true, Bool.false_eq_true, if_false, true_and]
    constructor
    · intro hcall
      obtain ⟨definition, after, hcallee, hcall⟩ := bind_eq_ok.mp hcall
      cases definition with
      | routine routine =>
        cases hcall
        exact ⟨routine, rfl, hcallee⟩
      | external function => cases hcall
    · rintro ⟨routine, rfl, hcallee⟩
      exact bind_eq_ok.mpr ⟨_, _, hcallee, rfl⟩

/-- An instruction goes on in its routine, unless it is a return or a call. -/
theorem execute_asks {instruction : Instruction} {scene last : Scene} {effect : Effect}
    (hexecute : execute module room instruction scene = .ok effect last) :
    effect = .next ∨ (effect = .leave ∧ instruction = .simple .ret) ∨
      ∃ opcode mode target routine, instruction = .call opcode mode target ∧
        effect = .call mode routine ∧ callee module target scene = .ok (.routine routine) last := by
  have hnext : ∀ {act : Act Unit} {first : Scene},
      (do act; return .next : Act Effect) first = .ok effect last → effect = .next := by
    intro act first hdone
    obtain ⟨_, _, _, hdone⟩ := bind_eq_ok.mp hdone
    cases hdone
    rfl
  unfold execute at hexecute
  cases hformed : instruction.isWellFormed with
  | false =>
    rw [hformed] at hexecute
    cases hexecute
  | true =>
    simp only [hformed, Bool.not_true, Bool.false_eq_true, if_false] at hexecute
    cases instruction with
    | simple opcode =>
      cases opcode with
      | nop =>
        cases hexecute
        exact .inl rfl
      | ret =>
        cases hexecute
        exact .inr (.inl ⟨rfl, rfl⟩)
      | printChar =>
        obtain ⟨_, _, _, hexecute⟩ := bind_eq_ok.mp hexecute
        exact .inl (hnext hexecute)
      | readChar =>
        obtain ⟨byte?, _, _, hexecute⟩ := bind_eq_ok.mp hexecute
        cases byte? with
        | some byte => exact .inl (hnext hexecute)
        | none => exact .inl (hnext hexecute)
      | _ => cases hexecute
    | typed opcode type => exact .inl (hnext hexecute)
    | convert opcode source target =>
      obtain ⟨_, _, _, hexecute⟩ := bind_eq_ok.mp hexecute
      obtain ⟨_, _, _, hexecute⟩ := bind_eq_ok.mp hexecute
      exact .inl (hnext hexecute)
    | conditional opcode comparison type => exact .inl (hnext hexecute)
    | branch opcode label => exact .inl (hnext hexecute)
    | stack opcode operand =>
      cases opcode with
      | push => exact .inl (hnext hexecute)
      | _ => exact .inl (hnext hexecute)
    | call opcode mode target =>
      have hresolved : execute module room (.call opcode mode target) scene = .ok effect last := by
        unfold execute
        rw [hformed]
        exact hexecute
      obtain ⟨-, routine, heffect, hcallee⟩ := execute_call_eq_ok.mp hresolved
      exact .inr (.inr ⟨opcode, mode, target, routine, rfl, heffect, hcallee⟩)

end Instructions

end Structured

end StackCode
