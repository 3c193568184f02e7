import Mathlib.Algebra.Order.Ring.Nat
import Mathlib.Data.List.Induction
import StackCode.Builder

/-!
# Changes of one definition

A draft of a definition changes step by step, and a step may be refused.  A change is given
here as data, so that statements can speak about all sequences of changes.

Main definitions:

- `RoutineChange`, `ExternalChange`: what a draft can be asked to do.
- `RoutineChange.Allowed`, `RoutineChange.effect`: when a change is taken, and what it does.
- `Routine.Draft.perform`, `External.Draft.perform`: the draft that one change leaves.
- `Routine.Limited`, `External.Limited`: what every sequence of changes keeps to.
- `LastBound`: where the last change that binds a label stands.
- `Code.Records`, `Routine.LabelsFollow`: code and labels as a sequence of changes tells.

Main results:

- Theorems `Building.map_on_of_ok`, `Building.map_on_of_error`: a step on a part of a state.
- Theorems `RoutineChange.apply_of_refused`, `ExternalChange.apply_of_refused`: a change that
  is refused leaves the draft as it was.
- Theorems `Routine.Draft.perform_cases`, `External.Draft.perform_cases`: what a change does.
- Theorems `Routine.Draft.limited_perform`, `External.Draft.limited_perform`: limits are kept.
- Theorems `Code.Records.perform`, `Code.records_foldl`: code and labels after one more change,
  and after any sequence of changes.
-/

namespace StackCode

/-! ## Changes -/

/-- A change of a routine. -/
inductive RoutineChange where
  | setReturnType (type : DataType)
  | addParameter (type : DataType)
  | addLocal (type : DataType)
  | addLabel
  | moveLabel (label : Label)
  | emit (instruction : Instruction)
deriving DecidableEq, Repr

/-- A change of an external function. -/
inductive ExternalChange where
  | setReturnType (type : DataType)
  | addParameter (type : DataType)
  | setLibrary (library : String)
  | setConvention (convention : Convention)
deriving DecidableEq, Repr

/-- What a building step returns. -/
inductive Answer where
  | done
  | definition (id : DefinitionId)
  | parameter (index : UInt8)
  | localVar (index : LocalIndex)
  | label (label : Label)
  | resource (index : ResourceIndex)
deriving DecidableEq, Repr

/-- The step of a draft that a change asks for. -/
def RoutineChange.apply : RoutineChange → Building Routine.Draft Answer
  | setReturnType type => modifyGet fun draft => (.done, draft.setReturnType type)
  | addParameter type => Answer.parameter <$> Routine.Draft.onHeader (Header.addParameter type)
  | addLocal type => Answer.localVar <$> Routine.Draft.onCode (Code.addLocal type)
  | addLabel => modifyGet fun draft => (.label draft.addLabel.2, draft.addLabel.1)
  | moveLabel label => (fun _ => Answer.done) <$> Routine.Draft.onCode (Code.moveLabel label)
  | emit instruction => modifyGet fun draft => (.done, draft.emit [instruction])

/-- The step of a draft that a change asks for. -/
def ExternalChange.apply : ExternalChange → Building External.Draft Answer
  | setReturnType type =>
    modifyGet fun draft => (.done, { draft with returnType := type })
  | addParameter type => Answer.parameter <$> External.Draft.onHeader (Header.addParameter type)
  | setLibrary library => modifyGet fun draft => (.done, { draft with library })
  | setConvention convention => modifyGet fun draft => (.done, { draft with convention })

/-! ## Steps on parts -/

namespace Building

variable {σ ρ α β : Type} {part : σ → ρ} {put : ρ → σ → σ} {step : Building ρ α} {state : σ}
  {left : ρ}

/-- A step on a part succeeds as it does on the part alone. -/
theorem map_on_of_ok {result : α} (hstep : step (part state) = .ok result left)
    (answer : α → β) :
    (answer <$> Building.on part put step) state = .ok (answer result) (put left state) := by
  simp only [Functor.map, EStateM.map, Building.on, hstep]

/-- A step on a part fails as it does on the part alone. -/
theorem map_on_of_error {fault : BuildError} (hstep : step (part state) = .error fault left)
    (answer : α → β) :
    (answer <$> Building.on part put step) state = .error fault (put left state) := by
  simp only [Functor.map, EStateM.map, Building.on, hstep]

end Building

section Parts

variable {type : DataType}

theorem Header.addParameter_eq_ok (header : Header) (hvoid : type ≠ .void)
    (hroom : header.parameters.length < 255) :
    addParameter type header = .ok header.parameters.length.toUInt8
      { header with parameters := header.parameters ++ [type] } := by
  have hfew : ¬maxParameters ≤ header.parameters.length := by
    unfold maxParameters
    omega
  rw [addParameter, if_neg hvoid, if_neg hfew]

theorem Header.addParameter_of_refused (header : Header)
    (hrefused : ¬(type ≠ .void ∧ header.parameters.length < 255)) :
    ∃ fault, addParameter type header = .error fault header := by
  unfold addParameter maxParameters
  split_ifs with hvoid hfull
  · exact ⟨_, rfl⟩
  · exact ⟨_, rfl⟩
  · exact absurd ⟨hvoid, by omega⟩ hrefused

theorem Code.addLocal_eq_ok (code : Code) (hvoid : type ≠ .void)
    (hroom : code.locals.size < 65535) :
    addLocal type code =
      .ok code.locals.size.toUInt16 { code with locals := code.locals.push type } := by
  have hfew : ¬maxLocals ≤ code.locals.size := by
    unfold maxLocals
    omega
  rw [addLocal, if_neg hvoid, if_neg hfew]

theorem Code.addLocal_of_refused (code : Code)
    (hrefused : ¬(type ≠ .void ∧ code.locals.size < 65535)) :
    ∃ fault, addLocal type code = .error fault code := by
  unfold addLocal maxLocals
  split_ifs with hvoid hfull
  · exact ⟨_, rfl⟩
  · exact ⟨_, rfl⟩
  · exact absurd ⟨hvoid, by omega⟩ hrefused

end Parts

/-! ## What a change does -/

namespace RoutineChange

/-- When a draft takes a change. -/
def Allowed (draft : Routine.Draft) : RoutineChange → Prop
  | addParameter type => type ≠ .void ∧ draft.parameters.length < 255
  | addLocal type => type ≠ .void ∧ draft.code.locals.size < 65535
  | moveLabel label => label.toNat < draft.code.labels.size
  | _ => True

/-- The code after a change that a draft takes. -/
def recode (code : Code) : RoutineChange → Code
  | addLocal type => { code with locals := code.locals.push type }
  | addLabel => { code with labels := code.labels.push code.instructions.size.toUInt32 }
  | moveLabel label =>
    { code with
      labels := code.labels.setIfInBounds label.toNat code.instructions.size.toUInt32 }
  | emit instruction => { code with instructions := code.instructions.push instruction }
  | _ => code

/-- The header after a change that a draft takes. -/
def rehead (header : Header) : RoutineChange → Header
  | setReturnType type => { header with returnType := type }
  | addParameter type => { header with parameters := header.parameters ++ [type] }
  | _ => header

/-- The draft after a change that it takes. -/
def effect (draft : Routine.Draft) (change : RoutineChange) : Routine.Draft :=
  ⟨change.rehead draft.toHeader, change.recode draft.code⟩

variable {draft : Routine.Draft} {change : RoutineChange}

theorem apply_of_allowed (hallowed : change.Allowed draft) :
    ∃ answer, change.apply draft = .ok answer (change.effect draft) := by
  cases change with
  | addParameter type =>
    have hadded := draft.toHeader.addParameter_eq_ok hallowed.1 hallowed.2
    exact ⟨_, Building.map_on_of_ok hadded Answer.parameter⟩
  | addLocal type =>
    have hadded := draft.code.addLocal_eq_ok hallowed.1 hallowed.2
    exact ⟨_, Building.map_on_of_ok hadded Answer.localVar⟩
  | moveLabel label =>
    have hmoved : Code.moveLabel label draft.code = .ok () _ := if_pos hallowed
    exact ⟨_, Building.map_on_of_ok hmoved fun _ => Answer.done⟩
  | emit instruction =>
    have hemitted : draft.emit [instruction] = (emit instruction).effect draft := by
      simp [Routine.Draft.emit, Code.emit, effect, rehead, recode]
    exact ⟨.done, congrArg (EStateM.Result.ok Answer.done) hemitted⟩
  | _ => exact ⟨_, rfl⟩

/-- A change that is refused leaves the draft as it was. -/
theorem apply_of_refused (hrefused : ¬change.Allowed draft) :
    ∃ fault, change.apply draft = .error fault draft := by
  cases change with
  | addParameter type =>
    rcases draft.toHeader.addParameter_of_refused hrefused with ⟨fault, hfault⟩
    exact ⟨fault, Building.map_on_of_error hfault Answer.parameter⟩
  | addLocal type =>
    rcases draft.code.addLocal_of_refused hrefused with ⟨fault, hfault⟩
    exact ⟨fault, Building.map_on_of_error hfault Answer.localVar⟩
  | moveLabel label =>
    have hfault : Code.moveLabel label draft.code = .error _ draft.code := if_neg hrefused
    exact ⟨_, Building.map_on_of_error hfault fun _ => Answer.done⟩
  | _ => exact absurd trivial hrefused

end RoutineChange

namespace ExternalChange

/-- When a draft takes a change. -/
def Allowed (draft : External.Draft) : ExternalChange → Prop
  | addParameter type => type ≠ .void ∧ draft.parameters.length < 255
  | _ => True

/-- The draft after a change that it takes. -/
def effect (draft : External.Draft) : ExternalChange → External.Draft
  | setReturnType type => { draft with returnType := type }
  | addParameter type => { draft with parameters := draft.parameters ++ [type] }
  | setLibrary library => { draft with library }
  | setConvention convention => { draft with convention }

variable {draft : External.Draft} {change : ExternalChange}

theorem apply_of_allowed (hallowed : change.Allowed draft) :
    ∃ answer, change.apply draft = .ok answer (change.effect draft) := by
  cases change with
  | addParameter type =>
    have hadded := draft.toHeader.addParameter_eq_ok hallowed.1 hallowed.2
    exact ⟨_, Building.map_on_of_ok hadded Answer.parameter⟩
  | _ => exact ⟨_, rfl⟩

/-- A change that is refused leaves the draft as it was. -/
theorem apply_of_refused (hrefused : ¬change.Allowed draft) :
    ∃ fault, change.apply draft = .error fault draft := by
  cases change with
  | addParameter type =>
    rcases draft.toHeader.addParameter_of_refused hrefused with ⟨fault, hfault⟩
    exact ⟨fault, Building.map_on_of_error hfault Answer.parameter⟩
  | _ => exact absurd trivial hrefused

end ExternalChange

/-- The state that a step leaves, whether it fails or not. -/
def Building.left {σ α : Type} (step : Building σ α) (state : σ) : σ :=
  match step state with
  | .ok _ after => after
  | .error _ after => after

/-- The draft that a change leaves. -/
def Routine.Draft.perform (draft : Draft) (change : RoutineChange) : Draft :=
  change.apply.left draft

/-- The draft that a change leaves. -/
def External.Draft.perform (draft : Draft) (change : ExternalChange) : Draft :=
  change.apply.left draft

theorem Routine.Draft.perform_cases (draft : Draft) (change : RoutineChange) :
    (change.Allowed draft ∧ draft.perform change = change.effect draft) ∨
      (¬change.Allowed draft ∧ draft.perform change = draft) := by
  by_cases hallowed : change.Allowed draft
  · rcases RoutineChange.apply_of_allowed hallowed with ⟨answer, hanswer⟩
    exact .inl ⟨hallowed, by simp [perform, Building.left, hanswer]⟩
  · rcases RoutineChange.apply_of_refused hallowed with ⟨fault, hfault⟩
    exact .inr ⟨hallowed, by simp [perform, Building.left, hfault]⟩

theorem External.Draft.perform_cases (draft : Draft) (change : ExternalChange) :
    (change.Allowed draft ∧ draft.perform change = change.effect draft) ∨
      (¬change.Allowed draft ∧ draft.perform change = draft) := by
  by_cases hallowed : change.Allowed draft
  · rcases ExternalChange.apply_of_allowed hallowed with ⟨answer, hanswer⟩
    exact .inl ⟨hallowed, by simp [perform, Building.left, hanswer]⟩
  · rcases ExternalChange.apply_of_refused hallowed with ⟨fault, hfault⟩
    exact .inr ⟨hallowed, by simp [perform, Building.left, hfault]⟩

/-- A change keeps the identifier of a routine. -/
theorem Routine.Draft.id_perform (draft : Draft) (change : RoutineChange) :
    (draft.perform change).id = draft.id := by
  rcases draft.perform_cases change with ⟨-, hperform⟩ | ⟨-, hperform⟩
  · rw [hperform]
    cases change <;> rfl
  · rw [hperform]

/-- A change keeps the identifier of an external function. -/
theorem External.Draft.id_perform (draft : Draft) (change : ExternalChange) :
    (draft.perform change).id = draft.id := by
  rcases draft.perform_cases change with ⟨-, hperform⟩ | ⟨-, hperform⟩
  · rw [hperform]
    cases change <;> rfl
  · rw [hperform]

/-! ## Limits -/

/-- A routine has at most 255 parameters and 65535 local variables, none of them void. -/
structure Routine.Limited (routine : Routine) : Prop where
  parameters_le : routine.parameters.length ≤ 255
  parameters_ne : .void ∉ routine.parameters
  locals_le : routine.locals.size ≤ 65535
  locals_ne : .void ∉ routine.locals

/-- An external function has at most 255 parameters, none of them void. -/
structure External.Limited (function : External) : Prop where
  parameters_le : function.parameters.length ≤ 255
  parameters_ne : .void ∉ function.parameters

/-- A definition keeps to the limits of its kind. -/
def Definition.Limited : Definition → Prop
  | routine r => r.Limited
  | external f => f.Limited

/-- A parameter that is taken keeps to the limits. -/
theorem limited_concat {types : List DataType} {type : DataType} (hvoid : type ≠ .void)
    (hroom : types.length < 255) (hstorable : .void ∉ types) :
    (types ++ [type]).length ≤ 255 ∧ .void ∉ types ++ [type] := by
  constructor
  · rw [List.length_append, List.length_singleton]
    omega
  · simpa [hvoid.symm] using hstorable

theorem Routine.Draft.limited_perform {draft : Draft} (hlimited : draft.finish.Limited)
    (change : RoutineChange) : (draft.perform change).finish.Limited := by
  rcases hlimited with ⟨hparameters, hstorable, hlocals, hstored⟩
  rcases draft.perform_cases change with ⟨hallowed, hperform⟩ | ⟨-, hperform⟩
  · rw [hperform]
    cases change with
    | addParameter type =>
      rcases limited_concat hallowed.1 hallowed.2 hstorable with ⟨hlength, hlast⟩
      exact ⟨hlength, hlast, hlocals, hstored⟩
    | addLocal type =>
      rcases hallowed with ⟨hvoid, hroom⟩
      have hlast : .void ∉ draft.code.locals.push type := by
        simpa [hvoid.symm, finish] using hstored
      have hsize : (draft.code.locals.push type).size ≤ 65535 := by
        rw [Array.size_push]
        omega
      exact ⟨hparameters, hstorable, hsize, hlast⟩
    | _ => exact ⟨hparameters, hstorable, hlocals, hstored⟩
  · rw [hperform]
    exact ⟨hparameters, hstorable, hlocals, hstored⟩

theorem External.Draft.limited_perform {draft : Draft} (hlimited : draft.finish.Limited)
    (change : ExternalChange) : (draft.perform change).finish.Limited := by
  rcases hlimited with ⟨hparameters, hstorable⟩
  rcases draft.perform_cases change with ⟨hallowed, hperform⟩ | ⟨-, hperform⟩
  · rw [hperform]
    cases change with
    | addParameter type =>
      exact ⟨(limited_concat hallowed.1 hallowed.2 hstorable).1,
        (limited_concat hallowed.1 hallowed.2 hstorable).2⟩
    | _ => exact ⟨hparameters, hstorable⟩
  · rw [hperform]
    exact ⟨hparameters, hstorable⟩

/-! ## Labels -/

namespace RoutineChange

/-- The instructions that a change appends. -/
def emitted : RoutineChange → List Instruction
  | emit instruction => [instruction]
  | _ => []

/-- A change binds a label, after the changes before it, when it adds the label or moves it
and the label exists. -/
def Binds (before : List RoutineChange) (label : Nat) : RoutineChange → Prop
  | addLabel => before.count addLabel = label
  | moveLabel other => other.toNat = label ∧ label < before.count addLabel
  | _ => False

end RoutineChange

namespace Routine.Draft

/-- The labels that a change leaves; nothing moves that does not exist. -/
theorem labels_perform (draft : Draft) (change : RoutineChange) :
    (draft.perform change).code.labels = (change.recode draft.code).labels := by
  rcases draft.perform_cases change with ⟨-, hperform⟩ | ⟨hrefused, hperform⟩
  · rw [hperform]
    rfl
  · rw [hperform]
    cases change with
    | moveLabel label =>
      have hoverrun : draft.code.labels.size ≤ label.toNat := Nat.not_lt.mp hrefused
      simp [RoutineChange.recode, Array.setIfInBounds_eq_of_size_le hoverrun]
    | addLabel => exact absurd trivial hrefused
    | _ => rfl

theorem instructions_perform (draft : Draft) (change : RoutineChange) :
    (draft.perform change).code.instructions.toList =
      draft.code.instructions.toList ++ change.emitted := by
  rcases draft.perform_cases change with ⟨-, hperform⟩ | ⟨hrefused, hperform⟩
  · rw [hperform]
    cases change <;>
      simp [RoutineChange.effect, RoutineChange.recode, RoutineChange.emitted]
  · rw [hperform]
    cases change with
    | emit instruction => exact absurd trivial hrefused
    | _ => exact (List.append_nil _).symm

end Routine.Draft

/-- The last of the changes that binds a label has so many instructions before it. -/
def LastBound (changes : List RoutineChange) (label position : Nat) : Prop :=
  ∃ before change after, changes = before ++ change :: after ∧
    change.Binds before label ∧
    (∀ middle later rest, after = middle ++ later :: rest →
      ¬later.Binds (before ++ change :: middle) label) ∧
    (before.flatMap RoutineChange.emitted).length = position

namespace LastBound

variable {changes : List RoutineChange} {change : RoutineChange} {label position : Nat}

theorem of_binds (hbinds : change.Binds changes label) :
    LastBound (changes ++ [change]) label (changes.flatMap RoutineChange.emitted).length :=
  ⟨changes, change, [], rfl, hbinds, by simp, rfl⟩

theorem append (hlast : LastBound changes label position)
    (hfree : ¬change.Binds changes label) : LastBound (changes ++ [change]) label position := by
  rcases hlast with ⟨before, binding, after, rfl, hbinds, hlater, hposition⟩
  refine ⟨before, binding, after ++ [change], by simp, hbinds, ?_, hposition⟩
  intro middle later rest hsplit
  rcases List.eq_nil_or_concat rest with rfl | ⟨front, last, rfl⟩
  · have hends : after = middle ∧ [change] = [later] := List.append_inj' hsplit rfl
    rcases hends with ⟨rfl, hsame⟩
    rw [List.singleton_inj] at hsame
    rwa [← hsame]
  · have hends : after = middle ++ later :: front ∧ [change] = [last] :=
      List.append_inj' (by simpa using hsplit) rfl
    exact hlater middle later front hends.1

end LastBound

/-- The instructions and the labels are as the changes tell. -/
structure Code.Records (code : Code) (changes : List RoutineChange) : Prop where
  instructions : code.instructions.toList = changes.flatMap RoutineChange.emitted
  labels_size : code.labels.size = changes.count .addLabel
  labels : ∀ label location, code.labels[label]? = some location →
    ∃ position, LastBound changes label position ∧ position ≤ code.instructions.size ∧
      location = position.toUInt32

/-- No code records no changes. -/
theorem Code.records_empty : Code.empty.Records [] :=
  ⟨rfl, rfl, by simp [Code.empty]⟩

/-- The code of a draft keeps recording its changes. -/
theorem Code.Records.perform {draft : Routine.Draft} {changes : List RoutineChange}
    (hrecords : draft.code.Records changes) (change : RoutineChange) :
    (draft.perform change).code.Records (changes ++ [change]) := by
  have hgrows : draft.code.instructions.size ≤ (draft.perform change).code.instructions.size := by
    rw [← Array.length_toList, ← Array.length_toList, draft.instructions_perform,
      List.length_append]
    omega
  -- A label that the change does not bind stays where it was.
  have hkept : ∀ label location, ¬change.Binds changes label →
      draft.code.labels[label]? = some location →
      ∃ position, LastBound (changes ++ [change]) label position ∧
        position ≤ (draft.perform change).code.instructions.size ∧
        location = position.toUInt32 := by
    intro label location hfree hlocation
    rcases hrecords.labels label location hlocation with ⟨position, hlast, hle, heq⟩
    exact ⟨position, hlast.append hfree, Nat.le_trans hle hgrows, heq⟩
  -- One that it binds stands for the next instruction.
  have hbound : ∀ label, change.Binds changes label →
      ∃ position, LastBound (changes ++ [change]) label position ∧
        position ≤ (draft.perform change).code.instructions.size ∧
        draft.code.instructions.size.toUInt32 = position.toUInt32 := by
    intro label hbinds
    refine ⟨draft.code.instructions.size, ?_, hgrows, rfl⟩
    rw [← Array.length_toList, hrecords.instructions]
    exact .of_binds hbinds
  refine ⟨?_, ?_, ?_⟩
  · rw [draft.instructions_perform, hrecords.instructions, List.flatMap_append,
      List.flatMap_singleton]
  · rw [draft.labels_perform, List.count_append, ← hrecords.labels_size]
    cases change <;> simp [RoutineChange.recode]
  · intro label location hlocation
    rw [draft.labels_perform] at hlocation
    cases change with
    | addLabel =>
      rw [RoutineChange.recode, Array.getElem?_push] at hlocation
      split_ifs at hlocation with hnew
      · cases hlocation
        exact hbound label (hrecords.labels_size.symm.trans hnew.symm)
      · refine hkept label location ?_ hlocation
        intro hbinds
        exact hnew (hbinds.symm.trans hrecords.labels_size.symm)
    | moveLabel other =>
      rw [RoutineChange.recode, Array.getElem?_setIfInBounds] at hlocation
      split_ifs at hlocation with hsame hexists
      · cases hlocation
        exact hbound label ⟨hsame, hrecords.labels_size ▸ hsame ▸ hexists⟩
      · refine hkept label location ?_ hlocation
        intro hbinds
        exact hsame hbinds.1
    | _ => exact hkept label location (by simp [RoutineChange.Binds]) hlocation

/-- A new draft records all the changes that it goes through. -/
theorem Code.records_foldl (id : DefinitionId) (name : String) (changes : List RoutineChange) :
    (changes.foldl Routine.Draft.perform (.new id name)).code.Records changes := by
  induction changes using List.reverseRecOn with
  | nil => exact Code.records_empty
  | append_singleton changes change ih =>
    rw [List.foldl_append]
    exact ih.perform change

/-- Each label of a routine stands where the last change that binds it stands. -/
structure Routine.LabelsFollow (routine : Routine) (changes : List RoutineChange) : Prop where
  size : routine.labels.size = changes.count .addLabel
  place : ∀ label location, routine.labels[label]? = some location →
    LastBound changes label location.toNat ∧ location.toNat ≤ routine.code.size

theorem Code.Records.labelsFollow {draft : Routine.Draft} {changes : List RoutineChange}
    (hrecords : draft.code.Records changes) (hcode : draft.finish.code.size < 2 ^ 32) :
    draft.finish.LabelsFollow changes := by
  refine ⟨hrecords.labels_size, ?_⟩
  intro label location hlocation
  rcases hrecords.labels label location hlocation with ⟨position, hlast, hle, heq⟩
  have hposition : location.toNat = position := by
    rw [heq, UInt32.toNat_ofNat_of_lt' (Nat.lt_of_le_of_lt hle hcode)]
  rw [hposition]
  exact ⟨hlast, hle⟩

end StackCode
