import StackCode.Proofs.Machine.CallSpan
import StackCode.Proofs.Verify.Accepted

/-!
# Return types of accepted modules

The routine that ends a call need not be the one that was called: tail calls may have
replaced it any number of times.  In an accepted module a tail call returns what the
replaced routine returns, so that the type which the called definition declares is carried
along, and the caller gets a value of that type.

Main definitions:

- `CallTarget.returnType?`: the return type that a call declares.
- `Declared`: layers whose lowest activation returns a value of a type.

Main results:

- Theorem `Declared.of_moves`: every move keeps the type that is returned.
- Theorem `Machine.returns_declared`: calls and runs return what is declared.
-/

namespace StackCode

/-! ## Declared types -/

/-- The return type that a call declares: that of the definition which it names, or that of
the signature which it expects. -/
def CallTarget.returnType? (module : Module) : CallTarget → Option DataType
  | .definition id => (module.find? id).map Definition.returnType
  | .indirect expected => some expected.returnType

/-- What a call reaches returns what the call declares. -/
theorem CallTarget.Reaches.returnType?_eq {module : Module} {definition : Definition}
    {target : CallTarget} (hreaches : target.Reaches module definition) :
    target.returnType? module = some definition.returnType := by
  cases target with
  | definition id =>
    have hfound : module.find? id = some definition := hreaches
    simp [returnType?, hfound]
  | indirect expected =>
    have hsignature : definition.signature = expected := hreaches
    rw [returnType?, ← hsignature]
    cases definition <;> rfl

/-! ## Layers -/

/-- The routines of layers belong to a module, and the lowest of them returns a value of a
type. -/
structure Declared (module : Module) (type : DataType) (layers : List Layer) : Prop where
  belong : Belong module layers
  lowest : (layers.map Layer.routine).getLast?.map Routine.returnType = some type

/-- A single layer is the lowest. -/
theorem declared_singleton {module : Module} {routine : Routine} (ip : Nat)
    (operands : List DataType) (hroutine : .routine routine ∈ module.definitions) :
    Declared module routine.returnType [⟨routine, ip, operands⟩] := by
  constructor
  · simpa [Belong] using hroutine
  · simp

/-- The routine of a single layer returns the type. -/
theorem Declared.returnType_eq {module : Module} {type : DataType} {layer : Layer}
    (hdeclared : Declared module type [layer]) : layer.routine.returnType = type := by
  simpa using hdeclared.lowest

/-- In an accepted module, every move keeps the type that the lowest activation returns. -/
theorem Declared.of_moves {setup : Setup} (hvalid : (Verify.verify setup.module).isValid = true)
    {type : DataType} {layers after : List Layer} (hdeclared : Declared setup.module type layers)
    (hmoves : Moves setup layers after) : Declared setup.module type after := by
  refine ⟨hdeclared.belong.of_moves hmoves, ?_⟩
  have hlowest := hdeclared.lowest
  cases hmoves with
  | stays => simpa using hlowest
  | opens hcode hmember hreaches hdepth => simpa using hlowest
  | @replaces routine callee ip opcode target operands lower hcode hmember hreaches =>
    have hrunning : .routine routine ∈ setup.module.definitions :=
      hdeclared.belong _ List.mem_cons_self
    have hsame := Verify.returnType_of_tailCall hvalid hrunning hcode hreaches
    -- The replaced activation may be the lowest.
    cases lower with
    | nil => simpa [hsame] using hlowest
    | cons layer lower => simpa using hlowest
  | resumes => simpa using hlowest

namespace Machine

/-- A result of a type, or none if the type is void. -/
theorem map_type_eq_of_resultTypes {result : Option Value} {type : DataType}
    (hresult : result.toList.map Value.type = resultTypes type) :
    result.map Value.type = if type = .void then none else some type := by
  unfold resultTypes at hresult
  cases result with
  | none =>
    split at hresult
    · rw [if_pos ‹_›]
      rfl
    · simp at hresult
  | some value =>
    split at hresult
    · simp at hresult
    · rw [if_neg ‹_›]
      simpa using hresult

/-- In every run of an accepted module: when the machine comes back from a direct call, the
caller has one more value, of the return type that the call declares, or none if that type
is void, however often the called activation was replaced by tail calls; and a run that
returns does so with a value of the return type of the entry, or without one if that type is
void. -/
theorem returns_declared {setup : Setup} {machine : Machine}
    (hvalid : (Verify.verify setup.module).isValid = true)
    (hreachable : Reachable setup machine) :
    (∀ call : DirectCall setup machine, ∃ kept type, call.Keeps kept ∧
      call.target.returnType? setup.module = some type ∧
        ∀ later current, call.ComesBack later current → call.Restored kept type current) ∧
    ∀ bound result last, runUpTo setup bound machine = .returned result last →
      ∃ main, setup.module.entry = .ok main ∧
        result.map Value.type = if main.returnType = .void then none else some main.returnType := by
  constructor
  · intro call
    obtain ⟨layers, peak, -, hpiled⟩ := piled_of_running (fun _ => True) (fun _ _ => .intro)
      (fun _ _ _ _ => .intro) hreachable.sound call.running
    obtain ⟨callee, caller, lower, hopens⟩ := call.exists_opens hpiled
    refine ⟨_, callee.returnType, hopens.keeps hpiled, hopens.reaches.returnType?_eq, ?_⟩
    intro later current hback
    -- Up to the return, the lowest activation above the caller returns what was declared.
    obtain ⟨layer, last, lastPeak, ip, nextPeak, hdeclared, -, -, hcurrent⟩ :=
      hopens.exists_returning (Declared setup.module callee.returnType)
        (declared_singleton 0 [] hopens.member) (fun _ _ => Declared.of_moves hvalid) hback
    rw [hdeclared.returnType_eq] at hcurrent
    exact hopens.restored hpiled hcurrent
  · intro bound result last hreturned
    rcases exists_last_step hreturned nofun with hstart | ⟨steps, current, hrunning, hstep⟩
    · have hstarts := start_layered hreachable.sound
      rw [hstart] at hstarts
      exact hstarts.elim
    · obtain ⟨layers, peak, ⟨main, hentry, hdeclared⟩, hpiled⟩ := piled_of_running
        (fun layers => ∃ main, setup.module.entry = .ok main ∧
          Declared setup.module main.returnType layers)
        (fun main hentry => ⟨main, hentry, declared_singleton 0 [] (entry_eq_ok hentry).1⟩)
        (fun layers after ⟨main, hentry, hdeclared⟩ hmoves =>
          ⟨main, hentry, hdeclared.of_moves hvalid hmoves⟩)
        hreachable.sound hrunning
      have hensues := step_moves hpiled
      rw [hstep] at hensues
      obtain ⟨-, layer, rfl, hresult⟩ := hensues
      rw [hdeclared.returnType_eq] at hresult
      exact ⟨main, hentry, map_type_eq_of_resultTypes hresult⟩

/-- The call of a routine that hands on to another by a tail call gives a value of the type
that the first of them declares. -/
theorem returns_declared_relaying :
    ∃ kept current, relayedCall.target.returnType? relaying.module = some .i32 ∧
      relayedCall.ComesBack 7 current ∧ relayedCall.Restored kept .i32 current := by
  have hvalid : (Verify.verify relaying.module).isValid = true := by decide +kernel
  have htarget : relayedCall.target.returnType? relaying.module = some .i32 := rfl
  obtain ⟨current, hback⟩ := exists_comesBack_relayedCall
  obtain ⟨kept, type, -, htype, hrestores⟩ :=
    (returns_declared hvalid (.new (.new []))).1 relayedCall
  rw [htarget, Option.some.injEq] at htype
  rw [← htype] at hrestores
  exact ⟨kept, current, htarget, hback, hrestores 7 current hback⟩

end Machine

end StackCode
