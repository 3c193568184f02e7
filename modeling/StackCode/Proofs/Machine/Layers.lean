import StackCode.Proofs.Machine.CallLayout

/-!
# Layers of activations

Between two steps a machine is a pile of layers.  A layer is an activation of a routine at
a position, with the types of the operands on top of it.  The layers determine the types of
all values in the arena and all activations, and a step changes them in one of four ways.

Main definitions:

- `CallTarget.Reaches`: what a call can reach.
- `Layer`, with `layerTypes` and `layerFrames`: the values and the activations of layers.
- `Machine.Layered`: a machine whose values and activations are those of given layers.
- `Moves`: the four ways in which a step changes the layers.
- `Belong`: layers of routines of a module.

Main results:

- Theorem `stacked_layers`: layers lie one above the other.
- Theorem `Belong.of_moves`: a step keeps to the routines of the module.
-/

namespace StackCode

/-! ## What calls reach -/

/-- An address stands for a definition of the module. -/
theorem functionAt_mem {module : Module} {address : UInt64} {definition : Definition}
    (hfunction : Machine.functionAt module address = .ok definition) :
    definition ∈ module.definitions := by
  unfold Machine.functionAt at hfunction
  split at hfunction
  · rename_i resolved hresolved
    obtain ⟨id, -, hfound⟩ := Option.bind_eq_some_iff.mp hresolved
    cases hfunction
    exact List.mem_of_find?_eq_some hfound
  · split at hfunction <;> simp at hfunction

/-- What a call with a target can reach. -/
def CallTarget.Reaches (module : Module) (definition : Definition) : CallTarget → Prop
  | .definition id => module.find? id = some definition
  | .indirect expected => definition.signature = expected

/-- The types of the operands that tell a call what to reach. -/
def CallTarget.operandTypes : CallTarget → List DataType
  | .definition _ => []
  | .indirect _ => [.pointer]

/-- The entry of a module is one of its routines and takes no arguments. -/
theorem entry_eq_ok {module : Module} {main : Routine} (hentry : module.entry = .ok main) :
    .routine main ∈ module.definitions ∧ main.parameters = [] := by
  unfold Module.entry at hentry
  split at hentry
  · simp at hentry
  · rename_i found hfound
    have hmember : found ∈ module.routines := by
      have hfiltered : found ∈
          module.routines.filter fun routine => routine.name == entryName := by
        rw [hfound]
        simp
      exact (List.mem_filter.mp hfiltered).1
    split at hentry
    · rename_i hnone
      cases hentry
      obtain ⟨definition, hdefinition, hroutine⟩ := List.mem_filterMap.mp hmember
      refine ⟨?_, List.isEmpty_iff.mp hnone⟩
      cases definition with
      | routine routine =>
        cases hroutine
        exact hdefinition
      | external function => simp [Definition.routine?] at hroutine
    · simp at hentry
  · simp at hentry

/-! ## Layers -/

/-- An activation of a routine at a position, with the types of its operands, the topmost
first. -/
structure Layer where
  routine : Routine
  ip : Nat
  operands : List DataType

/-- The types of the values that layers consist of, the topmost first. -/
def layerTypes : List Layer → List DataType
  | [] => []
  | layer :: lower => layer.operands ++ (layer.routine.frameTypes.reverse ++ layerTypes lower)

/-- The activations of layers, each on top of the values below it. -/
def layerFrames : List Layer → List Frame
  | [] => []
  | layer :: lower =>
    .placed layer.routine layer.ip (totalSize (layerTypes lower)) :: layerFrames lower

@[simp]
theorem length_layerFrames (layers : List Layer) : (layerFrames layers).length = layers.length := by
  induction layers with
  | nil => rfl
  | cons layer lower ih => simp [layerFrames, ih]

/-- The values of layers on top of others lie on top of the values of these. -/
theorem exists_layerTypes_append (upper lower : List Layer) :
    ∃ above, layerTypes (upper ++ lower) = above ++ layerTypes lower := by
  induction upper with
  | nil => exact ⟨[], rfl⟩
  | cons layer upper ih =>
    obtain ⟨above, habove⟩ := ih
    refine ⟨layer.operands ++ (layer.routine.frameTypes.reverse ++ above), ?_⟩
    simp [layerTypes, habove]

/-- The activations of layers on top of others lie on top of the activations of these. -/
theorem exists_layerFrames_append (upper lower : List Layer) :
    ∃ above, layerFrames (upper ++ lower) = above ++ layerFrames lower := by
  induction upper with
  | nil => exact ⟨[], rfl⟩
  | cons layer upper ih =>
    obtain ⟨above, habove⟩ := ih
    exact ⟨_ :: above, congrArg (List.cons _) habove⟩

/-- Layers lie one above the other. -/
theorem stacked_layers (layers : List Layer) : Stacked (layerFrames layers) (layerTypes layers) := by
  induction layers with
  | nil => exact .nil
  | cons layer lower ih => exact .cons layer.routine layer.ip layer.operands ih

/-- The values and the activations of the machine are those of the layers. -/
def Machine.Layered (limits : Limits) (layers : List Layer) (peak : Nat) (machine : Machine) :
    Prop :=
  machine.HasProfile ⟨limits.capacity, layerTypes layers, layerFrames layers, peak⟩

/-! ## Steps -/

/-- What a step does to the layers.  It stays in the running activation, opens one on top
of the arguments, replaces the running one, or closes it and hands its result to the
caller, which may go on anywhere. -/
inductive Moves (setup : Setup) : List Layer → List Layer → Prop
  | stays {routine : Routine} {ip nextIp : Nat} {operands nextOperands : List DataType}
      {lower : List Layer} :
      Moves setup (⟨routine, ip, operands⟩ :: lower) (⟨routine, nextIp, nextOperands⟩ :: lower)
  | opens {routine callee : Routine} {ip : Nat} {opcode : Opcode} {target : CallTarget}
      {operands : List DataType} {lower : List Layer}
      (hcode : routine.code[ip]? = some (.call opcode .direct target))
      (hmember : .routine callee ∈ setup.module.definitions)
      (hreaches : target.Reaches setup.module (.routine callee))
      (hdepth : lower.length + 1 < setup.limits.maxCallDepth) :
      Moves setup
        (⟨routine, ip, target.operandTypes ++ (callee.parameters.reverse ++ operands)⟩ :: lower)
        (⟨callee, 0, []⟩ :: ⟨routine, ip + 1, operands⟩ :: lower)
  | replaces {routine callee : Routine} {ip : Nat} {opcode : Opcode} {target : CallTarget}
      {operands : List DataType} {lower : List Layer}
      (hcode : routine.code[ip]? = some (.call opcode .tail target))
      (hmember : .routine callee ∈ setup.module.definitions)
      (hreaches : target.Reaches setup.module (.routine callee)) :
      Moves setup (⟨routine, ip, operands⟩ :: lower) (⟨callee, 0, []⟩ :: lower)
  | resumes {routine caller : Routine} {ip callerIp nextIp : Nat}
      {operands callerOperands : List DataType} {lower : List Layer} :
      Moves setup (⟨routine, ip, operands⟩ :: ⟨caller, callerIp, callerOperands⟩ :: lower)
        (⟨caller, nextIp, Machine.resultTypes routine.returnType ++ callerOperands⟩ :: lower)

/-- A step never leads to nothing. -/
theorem Moves.ne_nil {setup : Setup} {layers after : List Layer} (hmoves : Moves setup layers after) :
    after ≠ [] := by
  cases hmoves <;> simp

/-- A step leads to layers within the limits. -/
theorem Moves.length_le {setup : Setup} {layers after : List Layer}
    (hmoves : Moves setup layers after) (hdepth : layers.length ≤ setup.limits.maxCallDepth) :
    after.length ≤ setup.limits.maxCallDepth := by
  cases hmoves with
  | stays => exact hdepth
  | opens hcode hmember hreaches hroom => exact hroom
  | replaces => exact hdepth
  | resumes =>
    simp only [List.length_cons] at hdepth ⊢
    omega

/-- The routines of layers belong to a module. -/
def Belong (module : Module) (layers : List Layer) : Prop :=
  ∀ layer ∈ layers, .routine layer.routine ∈ module.definitions

/-- Every move keeps to the routines of the module. -/
theorem Belong.of_moves {setup : Setup} {layers after : List Layer}
    (hbelong : Belong setup.module layers) (hmoves : Moves setup layers after) :
    Belong setup.module after := by
  unfold Belong at hbelong ⊢
  cases hmoves with
  | stays => simpa using hbelong
  | opens hcode hmember hreaches hdepth => simpa [hmember] using hbelong
  | replaces hcode hmember hreaches =>
    rw [List.forall_mem_cons] at hbelong ⊢
    exact ⟨hmember, hbelong.2⟩
  | resumes =>
    rw [List.forall_mem_cons] at hbelong
    simpa using hbelong.2

namespace Machine

/-- What holds after a step: the machine has moved on, with the larger of the former peak
and the new depth as its peak, or the last activation was closed with a result of its
type. -/
def Concludes (setup : Setup) (layers : List Layer) (peak : Nat) (flow : Flow)
    (machine : Machine) : Prop :=
  match flow with
  | .proceed => ∃ after, Moves setup layers after ∧
      machine.Layered setup.limits after (max peak after.length)
  | .finished result => machine.Sound setup.limits.capacity ∧
      ∃ layer, layers = [layer] ∧
        result.toList.map Value.type = resultTypes layer.routine.returnType

end Machine

end StackCode
