import StackCode.Proofs.Machine.Faults

/-!
# Two computations in lockstep

Two runs of one module are compared step by step.  A bond says how their states belong
together, and when the first one need not be followed any further: because its state is
lost, or because it ended in a fault that excuses the second one.  Computations that keep
a bond can be put in sequence, so whole instructions keep it when their parts do.

Main definitions:

- `Bond`: how two states belong together, and what excuses the second one.
- `Bond.Keeps`: a computation that follows another one along a bond.
- `Pairing`, `Pairing.bond`: a bond between machines, made of one between their memories
  and of relations between their consoles, notes and meters.

Main results:

- Theorem `Bond.Keeps.bind`: computations in sequence.
- Theorem `Pairing.onMemory_keeps`: what keeps the bond of memories keeps that of machines.
- Theorems `Pairing.onCalls_keeps`, `Pairing.pushFrame_keeps`: activations.
-/

namespace StackCode

/-! ## Bonds -/

/-- How the states of two computations belong together.  `Tied` states are those of
computations that go on, and `Failed` ones those in which both have found a fault.  The
second computation need not follow when the state of the first one is `Lost`, or when the
first one has found a fault that is `Excused`. -/
structure Bond (ε σ : Type) where
  Tied : σ → σ → Prop
  Failed : ε → σ → σ → Prop
  Lost : σ → Prop
  Excused : ε → σ → Prop
  excused_of_lost : ∀ {state : σ} (fault : ε), Lost state → Excused fault state

namespace Bond

variable {ε σ α β : Type} {bond : Bond ε σ} {known : α → Prop}

/-- The result of the first computation need not be followed. -/
def Strays (bond : Bond ε σ) (known : α → Prop) : EStateM.Result ε σ α → Prop
  | .ok result state => known result ∧ bond.Lost state
  | .error fault state => bond.Excused fault state

/-- Both computations have given the same result, or found the same fault. -/
inductive Agrees (bond : Bond ε σ) (known : α → Prop) :
    EStateM.Result ε σ α → EStateM.Result ε σ α → Prop
  | ok {result : α} {state other : σ} (hknown : known result) (htied : bond.Tied state other) :
      Agrees bond known (.ok result state) (.ok result other)
  | error {fault : ε} {state other : σ} (hfailed : bond.Failed fault state other) :
      Agrees bond known (.error fault state) (.error fault other)

/-- From tied states the second computation follows the first one, unless that strays.  From
a lost state the first one strays. -/
structure Keeps (bond : Bond ε σ) (known : α → Prop) (first second : EStateM ε σ α) : Prop where
  strays : ∀ {state : σ}, bond.Lost state → bond.Strays known (first state)
  agrees : ∀ {state other : σ}, bond.Tied state other →
    bond.Strays known (first state) ∨ bond.Agrees known (first state) (second other)

theorem Keeps.pure {result : α} (hknown : known result) :
    bond.Keeps known (pure result) (pure result) :=
  ⟨fun hlost => ⟨hknown, hlost⟩, fun htied => .inr (.ok hknown htied)⟩

/-- One computation after another. -/
theorem Keeps.bind {after : β → Prop} {first second : EStateM ε σ α}
    {next nextSecond : α → EStateM ε σ β} (hfirst : bond.Keeps known first second)
    (hnext : ∀ result, known result → bond.Keeps after (next result) (nextSecond result)) :
    bond.Keeps after (first >>= next) (second >>= nextSecond) := by
  have hstrays : ∀ {state : σ}, bond.Strays known (first state) →
      bond.Strays after (EStateM.bind first next state) := by
    intro state hlost
    unfold EStateM.bind
    cases hresult : first state with
    | ok result middle =>
      rw [hresult] at hlost
      exact (hnext result hlost.1).strays hlost.2
    | error fault middle =>
      rw [hresult] at hlost
      exact hlost
  constructor
  · intro state hlost
    exact hstrays (hfirst.strays hlost)
  · intro state other htied
    rcases hfirst.agrees htied with hlost | hagrees
    · exact .inl (hstrays hlost)
    · change bond.Strays after (EStateM.bind first next state) ∨ bond.Agrees after
        (EStateM.bind first next state) (EStateM.bind second nextSecond other)
      unfold EStateM.bind
      generalize first state = found, second other = expected at hagrees
      cases hagrees with
      | ok hknown hafter => exact (hnext _ hknown).agrees hafter
      | error hfailed => exact .inr (.error hfailed)

/-- Nothing is lost along a bond that loses no states. -/
theorem Keeps.of_agrees {first second : EStateM ε σ α} (hnever : ∀ state, ¬ bond.Lost state)
    (hagrees : ∀ {state other : σ}, bond.Tied state other →
      bond.Strays known (first state) ∨ bond.Agrees known (first state) (second other)) :
    bond.Keeps known first second :=
  ⟨fun {state} hlost => absurd hlost (hnever state), hagrees⟩

end Bond

/-! ## Machines -/

/-- How two machines belong together: a bond of their memories, and relations between their
consoles, between the notes of their hosts and between their meters, the fuel that is left and
the number of executed instructions. -/
structure Pairing where
  memory : Bond Fault Memory
  Consoles : Console → Console → Prop
  Notes : List UInt8 → List UInt8 → Prop
  Meters : Option Nat × Nat → Option Nat × Nat → Prop

namespace Pairing

variable {α : Type}

/-- The machines differ in nothing but memory, console, notes and meters, and the last three
are related. -/
structure Alike (pairing : Pairing) (machine other : Machine) : Prop where
  consoles : pairing.Consoles machine.console other.console
  notes : pairing.Notes machine.notes other.notes
  meters : pairing.Meters (machine.fuel, machine.executed) (other.fuel, other.executed)
  calls_eq : other.calls = machine.calls
  peak_eq : other.peak = machine.peak

/-- The bond of machines. -/
def bond (pairing : Pairing) : Bond Fault Machine where
  Tied machine other :=
    pairing.memory.Tied machine.memory other.memory ∧ pairing.Alike machine other
  Failed fault machine other :=
    pairing.memory.Failed fault machine.memory other.memory ∧ pairing.Alike machine other
  Lost machine := pairing.memory.Lost machine.memory
  Excused fault machine := pairing.memory.Excused fault machine.memory
  excused_of_lost fault hlost := pairing.memory.excused_of_lost fault hlost

variable {pairing : Pairing} {known : α → Prop}

open Machine

/-- What keeps the bond of memories keeps the bond of machines. -/
theorem onMemory_keeps {first second : EStateM Fault Memory α}
    (hkeeps : pairing.memory.Keeps known first second) :
    pairing.bond.Keeps known (onMemory first) (onMemory second) := by
  have hstrays : ∀ {machine : Machine}, pairing.memory.Strays known (first machine.memory) →
      pairing.bond.Strays known (onMemory first machine) := by
    intro machine hlost
    unfold onMemory
    cases hresult : first machine.memory with
    | ok result memory =>
      simp only [hresult] at hlost ⊢
      exact hlost
    | error fault memory =>
      simp only [hresult] at hlost ⊢
      exact hlost
  constructor
  · intro machine hlost
    exact hstrays (hkeeps.strays hlost)
  · intro machine other htied
    rcases htied with ⟨hmemory, halike⟩
    rcases hkeeps.agrees hmemory with hlost | hagrees
    · exact .inl (hstrays hlost)
    · right
      unfold onMemory
      generalize hfirst : first machine.memory = found, hsecond : second other.memory = expected
        at hagrees
      cases hagrees with
      | ok hknown hafter =>
        simp only [hfirst, hsecond]
        exact .ok hknown ⟨hafter, halike.consoles, halike.notes, halike.meters, halike.calls_eq, halike.peak_eq⟩
      | error hfailed =>
        simp only [hfirst, hsecond]
        exact .error
          ⟨hfailed, halike.consoles, halike.notes, halike.meters, halike.calls_eq, halike.peak_eq⟩

/-- Looking at machines gives the same when the views are the same. -/
theorem inspect_keeps {view other : Machine → Except Fault α}
    (hviews : ∀ machine second, pairing.bond.Tied machine second → other second = view machine)
    (hknown : ∀ machine result, view machine = .ok result → known result)
    (hfails : ∀ machine second fault, pairing.bond.Tied machine second →
      view machine = .error fault → pairing.bond.Failed fault machine second) :
    pairing.bond.Keeps known (inspect view) (inspect other) := by
  constructor
  · intro machine hlost
    unfold inspect
    cases hview : view machine with
    | ok result => exact ⟨hknown machine result hview, hlost⟩
    | error fault => exact pairing.bond.excused_of_lost fault hlost
  · intro machine second htied
    right
    unfold inspect
    rw [hviews machine second htied]
    cases hview : view machine with
    | ok result => exact .ok (hknown machine result hview) htied
    | error fault => exact .error (hfails machine second fault htied hview)

/-- A view of the activations. -/
theorem inspect_calls_keeps (view : CallStack → α) :
    pairing.bond.Keeps (fun _ => True) (inspect fun machine => .ok (view machine.calls))
      (inspect fun machine => .ok (view machine.calls)) := by
  apply inspect_keeps
  · intro machine second htied
    rw [htied.2.calls_eq]
  · intro machine result _
    exact .intro
  · intro machine second fault _ herror
    cases herror

/-- A change of the activations. -/
theorem onCalls_keeps (change : CallStack → CallStack) :
    pairing.bond.Keeps (fun _ => True) (onCalls change) (onCalls change) := by
  constructor
  · intro machine hlost
    exact ⟨.intro, hlost⟩
  · intro machine other htied
    rcases htied with ⟨hmemory, halike⟩
    exact .inr (.ok .intro ⟨hmemory, halike.consoles, halike.notes, halike.meters,
      congrArg change halike.calls_eq, halike.peak_eq⟩)

/-- Adding an activation and noting the depth. -/
theorem pushFrame_keeps (frame : Frame) :
    pairing.bond.Keeps (fun _ => True) (pushFrame frame) (pushFrame frame) := by
  constructor
  · intro machine hlost
    exact ⟨.intro, hlost⟩
  · intro machine other htied
    rcases htied with ⟨hmemory, halike⟩
    refine .inr (.ok .intro ⟨hmemory, halike.consoles, halike.notes, halike.meters, ?_, ?_⟩)
    · exact congrArg (CallStack.push frame) halike.calls_eq
    · simp only [halike.calls_eq, halike.peak_eq]

end Pairing

end StackCode
