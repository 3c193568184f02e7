import StackCode.Proofs.Structured.Refinement

/-!
# Tail calls spelled out

A tail call with a return right after it can be spelled out as a plain call: the return
hands the result on.  This file spells out any chosen set of such calls in a module, and
shows that nothing else about the module changes.

Main definitions:

- `Routine.spelledOut`, `Module.spelledOut`: a routine and a module with chosen tail calls
  made direct.

Main results:

- Theorem `Routine.spelledOut_cases`: what can stand where an instruction stood.
- Theorems `Module.find?_spelledOut`, `Machine.functionAt_spelledOut`,
  `Module.entry_spelledOut`: look-up.
- Theorem `Module.Plain.spelledOut`: plain modules stay plain.
-/

namespace StackCode

/-! ## Instructions and routines -/

/-- An instruction that keeps the running activation: a tail call is made direct. -/
def Instruction.direct : Instruction → Instruction
  | call opcode .tail target => call opcode .direct target
  | instruction => instruction

theorem Instruction.reachesMemory_direct (instruction : Instruction) :
    instruction.direct.reachesMemory = instruction.reachesMemory := by
  unfold Instruction.direct
  split <;> rfl

/-- A set of instructions, each given by its routine and its index. -/
abbrev Selection := Routine → Nat → Bool

namespace Routine

variable {chosen : Selection} {routine : Routine}

/-- A routine whose chosen tail calls are direct, where a return follows. -/
def spelledOut (chosen : Selection) (routine : Routine) : Routine :=
  { routine with
    code := routine.code.mapIdx fun index instruction =>
      if chosen routine index ∧ routine.code[index + 1]? = some (.simple .ret) then
        instruction.direct
      else instruction }

theorem getElem?_spelledOut (index : Nat) :
    (routine.spelledOut chosen).code[index]? =
      routine.code[index]?.map fun instruction =>
        if chosen routine index ∧ routine.code[index + 1]? = some (.simple .ret) then
          instruction.direct
        else instruction := by
  simp [spelledOut]

@[simp]
theorem size_spelledOut : (routine.spelledOut chosen).code.size = routine.code.size := by
  simp [spelledOut]

/-- An instruction stays as it is, or it is a tail call that a return follows and that has
become direct. -/
theorem spelledOut_cases (chosen : Selection) {index : Nat} {instruction : Instruction}
    (hcode : routine.code[index]? = some instruction) :
    (routine.spelledOut chosen).code[index]? = some instruction ∨
      ∃ opcode target, instruction = .call opcode .tail target ∧
        routine.code[index + 1]? = some (.simple .ret) ∧
        (routine.spelledOut chosen).code[index]? = some (.call opcode .direct target) := by
  rw [getElem?_spelledOut, hcode, Option.map_some]
  by_cases hchosen : chosen routine index ∧ routine.code[index + 1]? = some (.simple .ret)
  · rw [if_pos hchosen]
    unfold Instruction.direct
    split
    · rename_i opcode target
      exact .inr ⟨opcode, target, rfl, hchosen.2, rfl⟩
    · exact .inl rfl
  · rw [if_neg hchosen]
    exact .inl rfl

/-- Returns stay where they are. -/
theorem ret_spelledOut {index : Nat} (hcode : routine.code[index]? = some (.simple .ret)) :
    (routine.spelledOut chosen).code[index]? = some (.simple .ret) := by
  rcases spelledOut_cases chosen hcode with hsame | ⟨_, _, hcall, _⟩
  · exact hsame
  · cases hcall

theorem Plain.spelledOut (hplain : routine.Plain) (chosen : Selection) :
    (routine.spelledOut chosen).Plain := by
  refine ⟨hplain.storable, ?_, ?_⟩
  · rw [size_spelledOut]
    exact hplain.size_lt
  · intro instruction hinstruction
    obtain ⟨index, hindex⟩ := Array.mem_iff_getElem?.mp hinstruction
    rw [getElem?_spelledOut, Option.map_eq_some_iff] at hindex
    obtain ⟨original, hcode, rfl⟩ := hindex
    have hlocal := hplain.local_only original (Array.mem_of_getElem? hcode)
    split
    · rw [Instruction.reachesMemory_direct]
      exact hlocal
    · exact hlocal

end Routine

/-! ## Modules -/

/-- A definition whose chosen tail calls are direct. -/
def Definition.spelledOut (chosen : Selection) : Definition → Definition
  | routine r => routine (r.spelledOut chosen)
  | external f => external f

@[simp]
theorem Definition.id_spelledOut (chosen : Selection) (definition : Definition) :
    (definition.spelledOut chosen).id = definition.id := by
  cases definition <;> rfl

@[simp]
theorem Definition.signature_spelledOut (chosen : Selection) (definition : Definition) :
    (definition.spelledOut chosen).signature = definition.signature := by
  cases definition <;> rfl

/-- A module whose chosen tail calls are direct, where a return follows. -/
def Module.spelledOut (chosen : Selection) (module : Module) : Module :=
  { module with definitions := module.definitions.map (Definition.spelledOut chosen) }

section Modules

variable {module : Module}

theorem Module.find?_spelledOut (chosen : Selection) (id : DefinitionId) :
    (module.spelledOut chosen).find? id =
      (module.find? id).map (Definition.spelledOut chosen) := by
  simp only [Module.find?, Module.spelledOut, List.find?_map, Function.comp_def,
    Definition.id_spelledOut]

theorem Machine.functionAt_spelledOut (chosen : Selection) (address : UInt64) :
    functionAt (module.spelledOut chosen) address =
      (functionAt module address).map (Definition.spelledOut chosen) := by
  unfold functionAt
  have hfound : (functionId? address).bind (module.spelledOut chosen).find? =
      ((functionId? address).bind module.find?).map (Definition.spelledOut chosen) := by
    cases functionId? address with
    | none => rfl
    | some id => exact Module.find?_spelledOut chosen id
  rw [hfound]
  cases (functionId? address).bind module.find? with
  | some definition => rfl
  | none =>
    simp only [Option.map_none]
    split <;> rfl

theorem Module.routines_spelledOut (chosen : Selection) :
    (module.spelledOut chosen).routines = module.routines.map (Routine.spelledOut chosen) := by
  unfold Module.routines Module.spelledOut
  rw [List.filterMap_map, List.map_filterMap]
  congr 1
  funext definition
  cases definition <;> rfl

/-- The entry of a module is that of the module before, spelled out. -/
theorem Module.entry_spelledOut (chosen : Selection) :
    (module.spelledOut chosen).entry =
      module.entry.map (Routine.spelledOut chosen) := by
  unfold Module.entry
  rw [Module.routines_spelledOut, List.filter_map]
  have hname : ((fun routine : Routine => routine.name == entryName) ∘
      Routine.spelledOut chosen) = fun routine => routine.name == entryName := rfl
  rw [hname]
  generalize module.routines.filter (fun routine => routine.name == entryName) = entries
  rcases entries with _ | ⟨main, _ | ⟨second, rest⟩⟩
  · rfl
  · simp only [List.map_cons, List.map_nil]
    change (if main.parameters.isEmpty then _ else _) = _
    split <;> rfl
  · rfl

theorem Module.Plain.spelledOut (hplain : module.Plain) (chosen : Selection) :
    (module.spelledOut chosen).Plain := by
  intro definition hdefinition
  obtain ⟨original, horiginal, rfl⟩ := List.mem_map.mp hdefinition
  obtain ⟨routine, rfl, hroutine⟩ := hplain original horiginal
  exact ⟨routine.spelledOut chosen, rfl, hroutine.spelledOut chosen⟩

end Modules

end StackCode
