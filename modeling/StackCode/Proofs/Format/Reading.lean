import Mathlib.Algebra.Order.Ring.Nat
import StackCode.Format.Encode
import StackCode.Format.Reader

/-!
# What readers take from their input

A reader is described by the bytes that it takes from the front of an input, whatever
follows them and wherever they stand, and by the result that it gives for them.  Readers
in sequence take their bytes in sequence.

Main definitions:

- `Reader.Reads`: the bytes that a reader takes, and its result for them.
- `Reader.ReadsEach`: the bytes of a sequence of items.

Main results:

- Theorem `Reader.Reads.bind`: readers in sequence.
- Theorems `Reader.word16_reads`, `Reader.word32_reads`, `Reader.word64_reads`,
  `Reader.count_reads`: numbers.
- Theorem `Reader.many_reads`: counted sequences.
- Theorem `Reader.within_reads`: sections.
-/

namespace StackCode.Format

/-- What two computations in sequence give is given by the second one. -/
theorem exists_of_bind_eq_ok {ε α β : Type} {first : Except ε α} {next : α → Except ε β}
    {result : β} (hresult : first >>= next = .ok result) :
    ∃ item, first = .ok item ∧ next item = .ok result := by
  cases first with
  | error fault => cases hresult
  | ok item => exact ⟨item, rfl, hresult⟩

/-- What is made from a result is made from one that was given. -/
theorem exists_of_map_eq_ok {ε α β : Type} {first : Except ε α} {view : α → β} {result : β}
    (hresult : first.map view = .ok result) : ∃ item, first = .ok item ∧ view item = result := by
  cases first with
  | error fault => cases hresult
  | ok item =>
    cases hresult
    exact ⟨item, rfl, rfl⟩

namespace Reader

variable {α β : Type}

/-! ## Bytes and results -/

/-- The reader takes the bytes from the front of any input and gives the result. -/
def Reads (reader : Reader α) (bytes : List UInt8) (result : α) : Prop :=
  ∀ rest position, reader ⟨bytes ++ rest, position⟩ =
    .ok (result, ⟨rest, position + bytes.length⟩)

theorem Reads.pure (result : α) : Reads (pure result) [] result :=
  fun _ _ => rfl

/-- What comes next reads after the bytes of the first reader. -/
theorem Reads.bind_append {reader : Reader α} {next : α → Reader β} {front : List UInt8}
    {first : α} (hfirst : Reads reader front first) (rest : List UInt8) (position : Nat) :
    (reader >>= next) ⟨front ++ rest, position⟩ =
      next first ⟨rest, position + front.length⟩ := by
  change Except.bind (reader ⟨front ++ rest, position⟩) (fun read => next read.1 read.2) = _
  rw [hfirst rest position]
  rfl

/-- Readers in sequence take their bytes in sequence. -/
theorem Reads.bind {reader : Reader α} {next : α → Reader β} {front back : List UInt8}
    {first : α} {result : β} (hfirst : Reads reader front first)
    (hnext : Reads (next first) back result) :
    Reads (reader >>= next) (front ++ back) result := by
  intro rest position
  rw [List.append_assoc, hfirst.bind_append, hnext, List.length_append, Nat.add_assoc]

/-- What comes after the last item takes no bytes. -/
theorem Reads.bind_nil {reader : Reader α} {next : α → Reader β} {bytes : List UInt8}
    {item : α} {result : β} (hreads : Reads reader bytes item)
    (hnext : Reads (next item) [] result) : Reads (reader >>= next) bytes result := by
  have hall := hreads.bind hnext
  rw [List.append_nil] at hall
  exact hall

/-- What is returned depends on the last item. -/
theorem Reads.map {reader : Reader α} {bytes : List UInt8} {item : α}
    (hreads : Reads reader bytes item) (view : α → β) :
    Reads (reader >>= fun found => Pure.pure (view found)) bytes (view item) :=
  hreads.bind_nil (Reads.pure (view item))

/-! ## Bytes and numbers -/

theorem byte_reads (first : UInt8) : Reads byte [first] first :=
  fun _ _ => rfl

theorem take_reads {bytes : List UInt8} {count : Nat} (hlength : bytes.length = count) :
    Reads (take count) bytes bytes := by
  intro rest position
  rw [take_append hlength, hlength]

/-- A number that fits is read back. -/
theorem number_reads (length : Nat) {n : Nat} (hfits : n < 256 ^ length) :
    Reads (number length) (LittleEndian.encode length n) n := by
  intro rest position
  have hmod : n % Nat.pow 256 length = n := Nat.mod_eq_of_lt hfits
  rw [number_append, hmod, LittleEndian.length_encode]

theorem word16_reads (n : UInt16) : Reads word16 (Format.word16 n) n := by
  have hreads := (number_reads 2 n.toNat_lt).map Nat.toUInt16
  rw [show n.toNat.toUInt16 = n from UInt16.ofNat_toNat] at hreads
  exact hreads

theorem word32_reads (n : UInt32) : Reads word32 (Format.word32 n) n := by
  have hreads := (number_reads 4 n.toNat_lt).map Nat.toUInt32
  rw [show n.toNat.toUInt32 = n from UInt32.ofNat_toNat] at hreads
  exact hreads

theorem word64_reads (n : UInt64) : Reads word64 (Format.word64 n) n := by
  have hreads := (number_reads 8 n.toNat_lt).map Nat.toUInt64
  rw [show n.toNat.toUInt64 = n from UInt64.ofNat_toNat] at hreads
  exact hreads

/-- A number that has been written as a count is smaller than 2³². -/
theorem lt_of_encodeCount {count : Nat} {bytes : List UInt8}
    (hcount : encodeCount count = .ok bytes) : count < 2 ^ 32 := by
  unfold encodeCount at hcount
  split at hcount
  · rename_i hlt
    exact hlt
  · cases hcount

/-- A count is read back. -/
theorem count_reads {count : Nat} {bytes : List UInt8} (hcount : encodeCount count = .ok bytes) :
    ∃ n : UInt32, n.toNat = count ∧ Reads word32 bytes n := by
  have hlt := lt_of_encodeCount hcount
  have htoNat : count.toUInt32.toNat = count := by
    rw [Nat.toUInt32_eq, UInt32.toNat_ofNat']
    exact Nat.mod_eq_of_lt hlt
  refine ⟨count.toUInt32, htoNat, ?_⟩
  have hreads := word32_reads count.toUInt32
  rw [Format.word32, htoNat] at hreads
  unfold encodeCount at hcount
  rw [if_pos (by omega)] at hcount
  cases hcount
  exact hreads

theorem tag_reads {kind : TagKind} {ofTag? : UInt8 → Option α} {found : UInt8} {meaning : α}
    (htag : ofTag? found = some meaning) : Reads (tag kind ofTag?) [found] meaning := by
  refine (byte_reads found).bind_nil ?_
  rw [htag]
  exact Reads.pure meaning

/-! ## Sequences -/

/-- The bytes of items that a reader reads, one after another. -/
inductive ReadsEach (reader : Reader α) : List UInt8 → List α → Prop
  | nil : ReadsEach reader [] []
  | cons {front back : List UInt8} {first : α} {items : List α}
      (hfirst : Reads reader front first) (hitems : ReadsEach reader back items) :
      ReadsEach reader (front ++ back) (first :: items)

/-- Things that are written one by one, and what is read of each. -/
theorem ReadsEach.of_flatMap_map {reader : Reader α} {β : Type} {write : β → List UInt8}
    {view : β → α} {items : List β} (hitems : ∀ item ∈ items, Reads reader (write item) (view item)) :
    ReadsEach reader (items.flatMap write) (items.map view) := by
  induction items with
  | nil => exact .nil
  | cons first items ih =>
    rw [List.flatMap_cons, List.map_cons]
    refine .cons (hitems first List.mem_cons_self) (ih ?_)
    intro item hitem
    exact hitems item (List.mem_cons_of_mem first hitem)

/-- Items that are written one by one. -/
theorem ReadsEach.of_flatMap {reader : Reader α} {write : α → List UInt8} {items : List α}
    (hitems : ∀ item ∈ items, Reads reader (write item) item) :
    ReadsEach reader (items.flatMap write) items := by
  have hmapped : ReadsEach reader (items.flatMap write) (items.map id) :=
    ReadsEach.of_flatMap_map hitems
  rwa [List.map_id] at hmapped

theorem manyAfter_reads {reader : Reader α} {bytes : List UInt8} {items : List α}
    (hitems : ReadsEach reader bytes items) (reversed : List α) :
    Reads (manyAfter reader reversed items.length) bytes (reversed.reverse ++ items) := by
  induction hitems generalizing reversed with
  | nil =>
    rw [List.append_nil]
    exact Reads.pure _
  | @cons front back first items hfirst _ ih =>
    have hrest := ih (first :: reversed)
    rw [List.reverse_cons, List.append_assoc] at hrest
    exact hfirst.bind hrest

/-- A counted sequence. -/
theorem many_reads {reader : Reader α} {bytes : List UInt8} {items : List α}
    (hitems : ReadsEach reader bytes items) {count : Nat} (hcount : count = items.length) :
    Reads (many reader count) bytes items := by
  subst hcount
  exact manyAfter_reads hitems []

/-! ## Sections -/

/-- What a reader takes from an input that it uses up. -/
theorem Reads.all {reader : Reader α} {bytes : List UInt8} {result : α}
    (hreads : Reads reader bytes result) (position : Nat) :
    reader ⟨bytes, position⟩ = .ok (result, ⟨[], position + bytes.length⟩) := by
  have hall := hreads [] position
  rw [List.append_nil] at hall
  exact hall

/-- Nothing is left of an input that is used up. -/
theorem finish_bind_nil {after : String} {next : Unit → Reader β} (position : Nat) :
    (finish after >>= next) ⟨[], position⟩ = next () ⟨[], position⟩ :=
  rfl

theorem sectionBytes_reads {kind : Section} {contents bytes : List UInt8}
    (hsection : encodeSection kind contents = .ok bytes) :
    Reads (sectionBytes kind) bytes contents := by
  obtain ⟨size, hcount, hbytes⟩ := exists_of_bind_eq_ok hsection
  cases hbytes
  obtain ⟨n, hn, hsize⟩ := count_reads hcount
  refine (byte_reads kind.tag).bind ?_
  rw [if_pos rfl]
  exact hsize.bind (take_reads hn.symm)

/-- A section is read by a reader of its contents. -/
theorem within_reads {kind : Section} {contents bytes : List UInt8} {reader : Reader α}
    {result : α} (hsection : encodeSection kind contents = .ok bytes)
    (hcontents : Reads reader contents result) : Reads (within kind reader) bytes result := by
  have hall : (do let result ← reader; finish kind.contents; return result : Reader α)
      ⟨contents, 0⟩ = .ok (result, ⟨[], 0 + contents.length⟩) := by
    change Except.bind (reader ⟨contents, 0⟩) _ = _
    rw [hcontents.all 0]
    rfl
  have hreads := (sectionBytes_reads hsection).map fun _ => result
  intro rest position
  rw [← hreads rest position]
  change Except.bind (sectionBytes kind ⟨bytes ++ rest, position⟩) _ =
    Except.bind (sectionBytes kind ⟨bytes ++ rest, position⟩) _
  rw [sectionBytes_reads hsection rest position]
  simp only [Except.bind, hall]

end Reader

end StackCode.Format
