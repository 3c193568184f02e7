import StackCode.Error
import StackCode.Proofs.Format.Layout

/-!
# No module is the beginning of another one

A binary module shows where it ends: every section has its length in front of it.  Bytes after
the last section are refused, and a module that is cut off anywhere is refused too, since the
reader then runs out of input inside the signature or a section, before it looks at what the
section holds.

Main definition:

- `Reader.Starves`: a reader finds the end of its input when it is given too few bytes.

Main results:

- Theorem `Reader.Starves.bind`: readers in sequence.
- Theorem `Reader.within_starves`: sections.
- Theorems `ModuleLayout.decode_append`, `ModuleLayout.starves`: longer and shorter inputs.
- Theorem `decode_prefixFree`: both for every input that can be read.
-/

namespace StackCode.Format

namespace Reader

variable {α β : Type} {reader : Reader α} {bytes : List UInt8}

/-! ## Inputs that end too soon -/

/-- The reader finds the end of its input wherever the bytes are cut off. -/
def Starves (reader : Reader α) (bytes : List UInt8) : Prop :=
  ∀ front back, bytes = front ++ back → back ≠ [] → ∀ position,
    ∃ stop ≤ position + front.length, reader ⟨front, position⟩ = .error (.unexpectedEnd stop)

/-- A reader that has found the end of its input is followed by no other one. -/
theorem Starves.before (hreader : Starves reader bytes) (next : α → Reader β) :
    Starves (reader >>= next) bytes := by
  intro front back hbytes hback position
  rcases hreader front back hbytes hback position with ⟨stop, hstop, hfault⟩
  refine ⟨stop, hstop, ?_⟩
  change Except.bind (reader ⟨front, position⟩) (fun read => next read.1 read.2) = _
  rw [hfault]
  rfl

/-- Of two readers in sequence, the one whose bytes are cut off finds the end. -/
theorem Starves.bind {next : α → Reader β} {first : α} {rest : List UInt8}
    (hreads : Reads reader bytes first) (hreader : Starves reader bytes)
    (hnext : Starves (next first) rest) : Starves (reader >>= next) (bytes ++ rest) := by
  intro front back hbytes hback position
  rcases List.append_eq_append_iff.mp hbytes with ⟨middle, rfl, hrest⟩ | ⟨middle, hfront, hmiddle⟩
  · -- The cut lies behind the bytes of the first reader.
    rcases hnext middle back hrest hback (position + bytes.length) with ⟨stop, hstop, hfault⟩
    refine ⟨stop, ?_, ?_⟩
    · rw [List.length_append]
      omega
    · rw [hreads.bind_append, hfault]
  · by_cases hnone : middle = []
    · -- The cut lies between the readers, so the second one is given no bytes.
      subst hnone
      rw [List.append_nil] at hfront
      subst hfront
      rcases hnext [] rest rfl (by simpa [hmiddle] using hback) (position + bytes.length) with
        ⟨stop, hstop, hfault⟩
      refine ⟨stop, hstop, ?_⟩
      rw [← List.append_nil bytes, hreads.bind_append, hfault]
    · exact hreader.before next front middle hfront hnone position

/-! ## Bytes, numbers and sections -/

theorem take_starves {count : Nat} (hlength : bytes.length = count) :
    Starves (take count) bytes := by
  intro front back hbytes hback position
  have hpos := List.length_pos_of_ne_nil hback
  have hshort : front.length < count := by
    rw [hbytes, List.length_append] at hlength
    omega
  exact ⟨position, Nat.le_add_right _ _, by simp [take, hshort]⟩

theorem byte_starves (first : UInt8) : Starves byte [first] := by
  intro front back hbytes hback position
  cases front with
  | nil => exact ⟨position, Nat.le_refl _, rfl⟩
  | cons byte front => simp_all

theorem word32_starves (n : UInt32) : Starves word32 (Format.word32 n) :=
  ((take_starves (LittleEndian.length_encode 4 n.toNat)).before _).before _

/-- The bytes of a section are taken as a whole. -/
theorem sectionBytes_starves {kind : Section} {contents : List UInt8}
    (hfits : contents.length < 2 ^ 32) :
    Starves (sectionBytes kind)
      ([kind.tag] ++ (LittleEndian.encode 4 contents.length ++ contents)) := by
  have hlength : contents.length = contents.length.toUInt32.toNat := by
    rw [Nat.toUInt32_eq, UInt32.toNat_ofNat', Nat.mod_eq_of_lt hfits]
  have hsize : LittleEndian.encode 4 contents.length =
      Format.word32 contents.length.toUInt32 := by
    rw [Format.word32, ← hlength]
  rw [hsize]
  refine (byte_starves kind.tag).bind (byte_reads kind.tag) ?_
  rw [if_pos rfl]
  exact (word32_starves _).bind (word32_reads _) (take_starves hlength)

/-- A section that is cut off is not looked into. -/
theorem within_starves (kind : Section) {layout : List UInt8 → α → Prop} {result : α}
    (hsection : Sectioned kind.tag layout bytes result) (reader : Reader β) :
    Starves (within kind reader) bytes := by
  cases hsection with
  | intro hfits _ => exact (sectionBytes_starves hfits).before _

/-- Bytes that are left at the end are counted. -/
theorem finish_bind_of_ne_nil {after : String} {next : Unit → Reader β} (hbytes : bytes ≠ [])
    (position : Nat) :
    (finish after >>= next) ⟨bytes, position⟩ = .error (.trailing bytes.length after) := by
  change Except.bind (finish after ⟨bytes, position⟩) (fun read => next read.1 read.2) = _
  simp [finish, hbytes, Except.bind]

end Reader

/-! ## Modules -/

open Reader

namespace ModuleLayout

variable {bytes : List UInt8} {module : Module}

/-- Bytes after the last section are counted and refused. -/
theorem decode_append (hlayout : ModuleLayout bytes module) {more : List UInt8}
    (hmore : more ≠ []) : decode (bytes ++ more) = .error (.trailing more.length "module") := by
  rcases hlayout with ⟨hheader, hdata, hresources, hcode, -, -⟩
  have hheader := headerSection_recognizes.reads hheader
  have hdata := dataSection_recognizes.reads hdata
  have hresources := (resourceSection_recognizes _).reads hresources
  have hcode := (codeSection_recognizes _).reads hcode
  rw [List.append_assoc, List.append_assoc, List.append_assoc, List.append_assoc]
  change decode (signature ++ _) = _
  unfold decode readModule
  rw [(take_reads rfl).bind_append, if_neg (by decide), hheader.bind_append, hdata.bind_append,
    hresources.bind_append, hcode.bind_append, finish_bind_of_ne_nil hmore]

/-- A module that is cut off ends too soon. -/
theorem starves (hlayout : ModuleLayout bytes module) : Starves readModule bytes := by
  rcases hlayout with ⟨hheader, hdata, hresources, hcode, -, -⟩
  unfold readModule
  refine (take_starves rfl).bind (take_reads rfl) ?_
  rw [if_neg (by decide)]
  refine (within_starves .header hheader _).bind (headerSection_recognizes.reads hheader) ?_
  refine (within_starves .data hdata _).bind (dataSection_recognizes.reads hdata) ?_
  refine (within_starves .resources hresources _).bind
    ((resourceSection_recognizes _).reads hresources) ?_
  exact (within_starves .code hcode _).before _

end ModuleLayout

/-- What can be read has neither a longer nor a shorter input that can be read.  Bytes after it
are refused as trailing bytes, and wherever it is cut off its end is found too soon.  Both are
errors of serialization. -/
theorem decode_prefixFree {bytes : List UInt8} {module : Module}
    (hdecoded : decode bytes = .ok module) :
    (∀ more, more ≠ [] →
      decode (bytes ++ more) = .error (.trailing more.length "module")) ∧
    (∀ front, front <+: bytes → front ≠ bytes →
      ∃ position ≤ front.length, decode front = .error (.unexpectedEnd position)) ∧
    ∀ fault, (Error.decode fault).kind = "Serialization" := by
  have hlayout := moduleLayout_of_decode hdecoded
  refine ⟨fun more hmore => hlayout.decode_append hmore, ?_, fun fault => rfl⟩
  rintro front ⟨back, rfl⟩ hshorter
  have hback : back ≠ [] := by
    rintro rfl
    exact hshorter (List.append_nil front).symm
  rcases hlayout.starves front back rfl hback 0 with ⟨position, hposition, hfault⟩
  rw [Nat.zero_add] at hposition
  refine ⟨position, hposition, ?_⟩
  rw [decode, hfault]

/-- A module without resources and definitions. -/
def bare : List UInt8 :=
  [0x62, 0x72, 0, 0] ++
    [0, 12, 0, 0, 0, 1, 0, 0, 0, 0, 0, 0, 0, 0, 0, 0, 0] ++
    [1, 17, 0, 0, 0, 1, 0, 0, 0, 0, 0, 0, 0, 1, 0, 0, 0, 1, 0, 0, 0, 0x6D] ++
    [2, 4, 0, 0, 0, 0, 0, 0, 0] ++
    [3, 4, 0, 0, 0, 0, 0, 0, 0]

/-- The module can be read, but not twice in a row and not without its code section. -/
theorem decode_prefixFree_bare :
    decode bare = .ok ⟨"m", [], .empty⟩ ∧
      decode (bare ++ bare) = .error (.trailing 61 "module") ∧
      ∃ position ≤ 52, decode (bare.take 52) = .error (.unexpectedEnd position) := by
  have hdecoded : decode bare = .ok ⟨"m", [], .empty⟩ := by decide +kernel
  rcases decode_prefixFree hdecoded with ⟨hlonger, hshorter, -⟩
  exact ⟨hdecoded, hlonger bare (by decide),
    hshorter (bare.take 52) (List.take_prefix 52 bare) (by decide)⟩

end StackCode.Format
