import StackCode.Proofs.Lockstep.Storage
import StackCode.Samples

/-!
# Runs with more room

The size of the arena and the number of activations that may be open are limits and nothing
else: a run that does not overflow does the same with larger ones.  This is so although
addresses are checked against the capacity of the arena, because an access must moreover
lie among the live bytes.

Main definition: `Bond.sameShelf`: machines that hold the same resources.

Main result: theorem `Machine.account_with_more_room`.
-/

namespace StackCode

/-- The same resources on both sides.  With `roomy`, an overflow of the first side is
excused. -/
def Bond.sameShelf (roomy : Prop) : Bond Fault Shelf where
  Tied shelf other := other = shelf
  Failed _ shelf other := other = shelf
  Lost _ := False
  Excused fault _ := roomy ∧ fault = .stackOverflow
  excused_of_lost _ hlost := hlost.elim

theorem Bond.sameShelf_supplies (roomy : Prop) : (sameShelf roomy).Supplies roomy where
  fails htied := htied
  contains htied := by
    cases htied
    exact List.prefix_rfl
  misses htied hmore := by
    cases htied
    exact absurd rfl hmore
  places index resource := by
    apply Keeps.of_agrees fun _ hlost => hlost
    intro shelf other htied
    cases htied
    right
    unfold Shelf.place
    cases shelf.placed.lookup index with
    | some offset => exact .ok .intro rfl
    | none => exact .ok .intro rfl
  overflows hroomy _ := ⟨hroomy, rfl⟩

/-- One console behaves like itself. -/
theorem echoes_eq : Echoes fun console second => second = console where
  prints bytes hsame := by rw [hsame]
  reads hsame := by
    rw [hsame]
    exact ⟨rfl, rfl⟩

namespace Machine

/-- New machines resemble each other, whatever their limits. -/
theorem resembles_new {limits more : Limits} (hsize : limits.stackSize ≤ more.stackSize) :
    Arena.Resembles 0 (Arena.new limits.stackSize).clear (Arena.new more.stackSize).clear := by
  apply Arena.resembles_clear
  · unfold Arena.new
    simp only
    split <;> split <;> omega
  · unfold Arena.new
    simp only
    split <;> omega

/-- A run on a new machine with the console functions as its host that does not end with a
stack overflow gives the same account with a larger arena and more activations: the same
result or trap, the same console and the same counters. -/
theorem account_with_more_room (module : Module) {limits more : Limits}
    (hsize : limits.stackSize ≤ more.stackSize) (hdepth : limits.maxCallDepth ≤ more.maxCallDepth)
    (hfuel : more.fuel = limits.fuel) (console : Console) (bound : Nat)
    (hroom : ∀ trap, (runUpTo ⟨module, limits, .stdio⟩ bound
      (.new limits console)).account.verdict = .trapped trap → trap.fault ≠ .stackOverflow) :
    (runUpTo ⟨module, more, .stdio⟩ bound (.new more console)).account =
      (runUpTo ⟨module, limits, .stdio⟩ bound (.new limits console)).account := by
  have htied : (Pairing.storage True (.sameShelf True) fun console second =>
      second = console).bond.Tied
      ((Machine.new limits console).reset limits) ((Machine.new more console).reset more) := by
    refine ⟨⟨⟨⟨0, resembles_new hsize⟩, .inl trivial⟩, rfl⟩, rfl, .intro, ?_, rfl, rfl⟩
    exact congrArg (·, 0) hfuel
  rcases Pairing.storage_runUpTo_follows (Bond.sameShelf_supplies True) echoes_eq module
    (.inr ⟨trivial, hdepth⟩) bound htied with hstrays | hmatches
  · exfalso
    generalize runUpTo ⟨module, limits, .stdio⟩ bound (.new limits console) = outcome
      at hstrays hroom
    cases outcome with
    | running machine => exact hstrays
    | returned result machine => exact hstrays
    | trapped trap machine => exact hroom trap rfl hstrays.2
  · rcases hmatches.accounts with ⟨hverdict, hexecuted, hpeak, hconsole⟩
    exact Account.ext hverdict hconsole hexecuted hpeak

/-- A greeting that fits into an arena of forty bytes and one activation is printed alike with
the limits of a plain run. -/
theorem account_with_more_room_hello :
    let module := Samples.hello "Hi"
    let tight : Limits := ⟨40, 1, none⟩
    (runUpTo ⟨module, tight, .stdio⟩ 9 (.new tight (.new []))).account.verdict = .returned none ∧
      (runUpTo ⟨module, .default, .stdio⟩ 9 (.new .default (.new []))).account =
        (runUpTo ⟨module, tight, .stdio⟩ 9 (.new tight (.new []))).account := by
  intro module tight
  have hverdict : (runUpTo ⟨module, tight, .stdio⟩ 9
      (.new tight (.new []))).account.verdict = .returned none := by decide +kernel
  have hsize : tight.stackSize ≤ Limits.default.stackSize := by simp [tight, Limits.default]
  have hdepth : tight.maxCallDepth ≤ Limits.default.maxCallDepth := by simp [tight, Limits.default]
  refine ⟨hverdict, account_with_more_room module hsize hdepth rfl (.new []) 9 ?_⟩
  intro trap htrapped
  rw [hverdict] at htrapped
  cases htrapped

end Machine

end StackCode
