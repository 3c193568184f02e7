import StackCode.Proofs.Format.Instructions
import StackCode.Proofs.Resources.Additions
import StackCode.Samples

/-!
# Decoding undoes encoding

A module that was written is read back as it was: the same name, the same definitions and
the same resources, each in the same order.

Main definitions:

- `Module.Canonical`: distinct identifiers, distinct resources and constants without bits
  above their width.
- `Format.Written`: the bytes of a module together with the pools on the way to them.

Main results:

- Theorem `readDefinition_reads`: routines and external functions.
- Theorem `readResources_reads`: the table of resources.
- Theorem `decode_of_encode`: whole modules.
-/

namespace StackCode

/-- A module whose definitions have distinct identifiers, whose resources have distinct
bytes and whose constants have no bits above their width. -/
structure Module.Canonical (module : Module) : Prop where
  ids_nodup : (module.definitions.map Definition.id).Nodup
  resources_nodup : (module.resources.entries.map Resource.bytes).Nodup
  masked : ∀ routine ∈ module.routines, ∀ instruction ∈ routine.code.toList, instruction.Masked

namespace Format

open Reader

/-! ## Definitions -/

section Definitions

variable {pool after : Pool} {known : List (List UInt8)} {bytes : List UInt8} {view : PoolView}

theorem readString_reads {index : UInt32} {text : String} (htext : view.string index = .ok text) :
    Reads (readString view) (word32 index) text := by
  refine (word32_reads index).bind_nil ?_
  rw [htext]
  exact Reads.pure text

theorem encodeParameters_eq_ok {types : List DataType}
    (hencoded : encodeParameters types = .ok bytes) : encodeParameters? types = some bytes := by
  unfold encodeParameters at hencoded
  cases hparameters : encodeParameters? types with
  | none =>
    rw [hparameters] at hencoded
    cases hencoded
  | some parameters =>
    rw [hparameters] at hencoded
    cases hencoded
    rfl

/-- Local variables are read back after their number. -/
theorem locals_reads {types : Array DataType} {next : List DataType → Reader Routine}
    {back : List UInt8} {result : Routine} (hencoded : encodeLocals types = .ok bytes)
    (hnext : Reads (next types.toList) back result) :
    Reads (do
      let count ← Reader.word16
      next (← many readType count.toNat)) (bytes ++ back) result := by
  unfold encodeLocals at hencoded
  split at hencoded
  · rename_i hsize
    cases hencoded
    have htoNat : types.size.toUInt16.toNat = types.size := by
      rw [Nat.toUInt16_eq, UInt16.toNat_ofNat']
      exact Nat.mod_eq_of_lt hsize
    have hcount := word16_reads types.size.toUInt16
    rw [Format.word16, htoNat] at hcount
    rw [List.append_assoc]
    refine hcount.bind ((many_reads (readTypes_reads types.toList) ?_).bind hnext)
    rw [htoNat, Array.length_toList]
  · cases hencoded

/-- A routine is read back with every pool that comes after it. -/
theorem readDefinition_reads_routine {routine : Routine}
    (hmasked : ∀ instruction ∈ routine.code.toList, instruction.Masked)
    (hpool : pool.Represents known) (hencoded : encodeRoutine pool routine = .ok (bytes, after)) :
    ∃ grown, after.Represents grown ∧ known <+: grown ∧
      ∀ view : PoolView, grown <+: view →
        Reads (readDefinition view) bytes (.routine routine) := by
  obtain ⟨⟨name, named⟩, hname, hencoded⟩ := exists_of_bind_eq_ok hencoded
  obtain ⟨parameters, hparameters, hencoded⟩ := exists_of_bind_eq_ok hencoded
  obtain ⟨locals, hlocals, hencoded⟩ := exists_of_bind_eq_ok hencoded
  obtain ⟨labelCount, hlabelCount, hencoded⟩ := exists_of_bind_eq_ok hencoded
  obtain ⟨codeSize, hcodeSize, hencoded⟩ := exists_of_bind_eq_ok hencoded
  obtain ⟨code, hcode, hencoded⟩ := exists_of_bind_eq_ok hencoded
  cases hencoded
  refine ⟨_, (hpool.intern hname).1, Pool.prefix_adjoin known _, fun view hview => ?_⟩
  obtain ⟨labels, hlabels, hreadsLabels⟩ := count_reads hlabelCount
  obtain ⟨size, hsizeEq, hreadsSize⟩ := count_reads hcodeSize
  have hroutine : Reads (readRoutine routine.id routine.name)
      (routine.returnType.tag :: (parameters ++ (locals ++ (labelCount ++
        (routine.labels.toList.flatMap word32 ++ (codeSize ++ code))))))
      routine := by
    refine (readType_reads routine.returnType).bind ?_
    refine (readParameters_reads (encodeParameters_eq_ok hparameters)).bind ?_
    refine locals_reads hlocals ?_
    refine hreadsLabels.bind ?_
    refine (many_reads (ReadsEach.of_flatMap fun label _ => word32_reads label) ?_).bind ?_
    · rw [hlabels, Array.length_toList]
    refine hreadsSize.bind ?_
    refine (many_reads (readCode_reads hmasked hcode) ?_).map _
    rw [hsizeEq, Array.length_toList]
  refine (byte_reads routineMarker).bind ?_
  refine (word32_reads routine.id).bind ?_
  refine (readString_reads (Pool.string_of_intern hpool hname hview)).bind ?_
  rw [if_pos rfl]
  exact hroutine.map Definition.routine

/-- An external function is read back with every pool that comes after it. -/
theorem readDefinition_reads_external {function : External}
    (hpool : pool.Represents known)
    (hencoded : encodeExternal pool function = .ok (bytes, after)) :
    ∃ grown, after.Represents grown ∧ known <+: grown ∧
      ∀ view : PoolView, grown <+: view →
        Reads (readDefinition view) bytes (.external function) := by
  obtain ⟨⟨name, named⟩, hname, hencoded⟩ := exists_of_bind_eq_ok hencoded
  obtain ⟨⟨library, placed⟩, hlibrary, hencoded⟩ := exists_of_bind_eq_ok hencoded
  obtain ⟨parameters, hparameters, hencoded⟩ := exists_of_bind_eq_ok hencoded
  cases hencoded
  have hnamed := (hpool.intern hname).1
  have hplaced := Pool.prefix_adjoin (Pool.adjoin known (Text.utf8 function.name))
    (Text.utf8 function.library)
  refine ⟨_, (hnamed.intern hlibrary).1, (Pool.prefix_adjoin known _).trans hplaced,
    fun view hview => ?_⟩
  refine (byte_reads externalMarker).bind ?_
  refine (word32_reads function.id).bind ?_
  refine (readString_reads (Pool.string_of_intern hpool hname (hplaced.trans hview))).bind ?_
  rw [if_neg (by decide), if_pos rfl]
  refine Reads.map ?_ Definition.external
  refine (readString_reads (Pool.string_of_intern hnamed hlibrary hview)).bind ?_
  refine (readConvention_reads function.convention).bind ?_
  refine (readType_reads function.returnType).bind ?_
  exact (readParameters_reads (encodeParameters_eq_ok hparameters)).map _

/-- A definition is read back with every pool that comes after it. -/
theorem readDefinition_reads {definition : Definition}
    (hmasked : ∀ routine ∈ definition.routine?, ∀ instruction ∈ routine.code.toList,
      instruction.Masked)
    (hpool : pool.Represents known)
    (hencoded : encodeDefinition pool definition = .ok (bytes, after)) :
    ∃ grown, after.Represents grown ∧ known <+: grown ∧
      ∀ view : PoolView, grown <+: view → Reads (readDefinition view) bytes definition := by
  cases definition with
  | routine routine => exact readDefinition_reads_routine (hmasked routine rfl) hpool hencoded
  | external function => exact readDefinition_reads_external hpool hencoded

/-- Definitions are read back one by one. -/
theorem readDefinitions_reads {definitions : List Definition}
    (hmasked : ∀ routine ∈ definitions.filterMap Definition.routine?,
      ∀ instruction ∈ routine.code.toList, instruction.Masked)
    (hpool : pool.Represents known)
    (hencoded : encodeDefinitions pool definitions = .ok (bytes, after)) :
    ∃ grown, after.Represents grown ∧ known <+: grown ∧
      ∀ view : PoolView, grown <+: view →
        ReadsEach (readDefinition view) bytes definitions := by
  induction definitions generalizing pool known bytes with
  | nil =>
    cases hencoded
    exact ⟨known, hpool, List.prefix_refl _, fun _ _ => .nil⟩
  | cons definition definitions ih =>
    obtain ⟨⟨front, middle⟩, hfront, hencoded⟩ := exists_of_bind_eq_ok hencoded
    obtain ⟨⟨back, last⟩, hback, hencoded⟩ := exists_of_bind_eq_ok hencoded
    cases hencoded
    obtain ⟨placed, hplaced, hbefore, hfirst⟩ := readDefinition_reads
      (fun routine hroutine => hmasked routine
        (List.mem_filterMap.mpr ⟨definition, List.mem_cons_self, hroutine⟩)) hpool hfront
    obtain ⟨grown, hgrown, hafter, hrest⟩ := ih (fun routine hroutine => hmasked routine (by
      obtain ⟨other, hother, hsame⟩ := List.mem_filterMap.mp hroutine
      exact List.mem_filterMap.mpr ⟨other, List.mem_cons_of_mem _ hother, hsame⟩)) hplaced hback
    exact ⟨grown, hgrown, hbefore.trans hafter, fun view hview =>
      .cons (hfirst view (hafter.trans hview)) (hrest view hview)⟩

end Definitions

/-! ## Resources -/

section Resources

variable {pool after : Pool} {known : List (List UInt8)} {bytes : List UInt8} {view : PoolView}

theorem readResource_reads {resource : Resource} {index : UInt32}
    (hbytes : view.bytes index = .ok resource.bytes) :
    Reads (readResource view) (resource.kind.tag :: word32 index) resource := by
  refine (tag_reads (ResourceKind.ofTag?_tag resource.kind)).bind ?_
  refine (word32_reads index).bind_nil ?_
  rw [hbytes]
  exact Reads.pure resource

/-- Resources are read back into the table that holds those before them. -/
theorem readResources_reads (table : ResourceTable) {resources : List Resource}
    (hnodup : ((table.entries ++ resources).map Resource.bytes).Nodup)
    (hpool : pool.Represents known)
    (hencoded : encodeResources pool resources = .ok (bytes, after)) :
    ∃ grown, after.Represents grown ∧ known <+: grown ∧
      ∀ view : PoolView, grown <+: view →
        Reads (readResources view table resources.length) bytes
          ⟨table.entries ++ resources⟩ := by
  induction resources generalizing pool known bytes table with
  | nil =>
    cases hencoded
    refine ⟨known, hpool, List.prefix_refl _, fun _ _ => ?_⟩
    rw [List.append_nil]
    exact Reads.pure table
  | cons resource resources ih =>
    obtain ⟨⟨index, middle⟩, hindex, hencoded⟩ := exists_of_bind_eq_ok hencoded
    obtain ⟨⟨others, last⟩, hothers, hencoded⟩ := exists_of_bind_eq_ok hencoded
    cases hencoded
    have hnew : resource.bytes ∉ table.entries.map Resource.bytes := by
      intro hmember
      rw [List.map_append, List.nodup_append] at hnodup
      exact hnodup.2.2 _ hmember _ (List.mem_map_of_mem List.mem_cons_self) rfl
    rw [List.append_cons] at hnodup ⊢
    obtain ⟨grown, hgrown, hafter, hrest⟩ :=
      ih ⟨table.entries ++ [resource]⟩ hnodup (hpool.intern hindex).1 hothers
    refine ⟨grown, hgrown, (Pool.prefix_adjoin known _).trans hafter, fun view hview => ?_⟩
    have hbytes := Pool.bytes_of_intern hpool hindex (hafter.trans hview)
    refine (readResource_reads hbytes).bind ?_
    rw [ResourceTable.find?_eq_none_iff.mpr hnew, ResourceTable.add_of_notMem hnew]
    exact hrest view hview

end Resources

/-! ## Modules -/

/-- No duplicate is found exactly when the identifiers are new and distinct. -/
theorem findDuplicate?_eq_none_iff {definitions : List Definition} {seen : List DefinitionId} :
    Module.findDuplicate? seen definitions = none ↔
      (∀ definition ∈ definitions, definition.id ∉ seen) ∧
        (definitions.map Definition.id).Nodup := by
  induction definitions generalizing seen with
  | nil => simp [Module.findDuplicate?]
  | cons definition definitions ih =>
    rw [Module.findDuplicate?, List.map_cons, List.nodup_cons, List.forall_mem_cons]
    by_cases hseen : definition.id ∈ seen
    · simp [hseen]
    · simp only [List.contains_eq_mem, hseen, decide_false, Bool.false_eq_true, if_false, ih,
        List.mem_cons, not_or, List.mem_map, not_exists, not_and, forall_and, not_false_eq_true,
        true_and]
      tauto

/-- A module is assembled from definitions with distinct identifiers. -/
theorem ofParts_eq_ok_iff {name : String} {definitions : List Definition}
    {resources : ResourceTable} {module : Module} :
    Module.ofParts name definitions resources = .ok module ↔
      (definitions.map Definition.id).Nodup ∧ module = ⟨name, definitions, resources⟩ := by
  have hnone : Module.findDuplicate? [] definitions = none ↔
      (definitions.map Definition.id).Nodup := by
    rw [findDuplicate?_eq_none_iff]
    simp
  rw [← hnone]
  unfold Module.ofParts
  cases Module.findDuplicate? [] definitions <;> simp [eq_comm]

/-- The header holds the index of the name. -/
theorem readHeader_reads (name : UInt32) :
    Reads readHeader (word32 majorVersion ++ (word32 minorVersion ++ word32 name)) name := by
  refine (word32_reads majorVersion).bind ?_
  refine (word32_reads minorVersion).bind ?_
  rw [if_pos rfl]
  exact word32_reads name

section Sections

variable {view : PoolView} {contents count bytes : List UInt8}

/-- The section of resources holds a table of them. -/
theorem resourceSection_reads {table : ResourceTable}
    (hcount : encodeCount table.size = .ok count)
    (hcontents : Reads (readResources view .empty table.size) contents table)
    (hsection : encodeSection .resources (count ++ contents) = .ok bytes) :
    Reads (within .resources do
      let count ← Reader.word32
      readResources view .empty count.toNat) bytes table := by
  obtain ⟨n, hn, hreads⟩ := count_reads hcount
  refine within_reads hsection (hreads.bind ?_)
  rw [hn]
  exact hcontents

/-- The code section holds the definitions. -/
theorem codeSection_reads {definitions : List Definition}
    (hcount : encodeCount definitions.length = .ok count)
    (hcontents : ReadsEach (readDefinition view) contents definitions)
    (hsection : encodeSection .code (count ++ contents) = .ok bytes) :
    Reads (within .code do
      let count ← Reader.word32
      many (readDefinition view) count.toNat) bytes definitions := by
  obtain ⟨n, hn, hreads⟩ := count_reads hcount
  exact within_reads hsection (hreads.bind (many_reads hcontents hn))

/-- Four sections in sequence make up a module. -/
theorem decode_sections {module : Module} {name : UInt32}
    {header data resources code : List UInt8}
    (hheader : Reads (within .header readHeader) header name)
    (hdata : Reads (within .data PoolView.read) data view)
    (hresources : Reads (within .resources do
      let count ← Reader.word32
      readResources view .empty count.toNat) resources module.resources)
    (hcode : Reads (within .code do
      let count ← Reader.word32
      many (readDefinition view) count.toNat) code module.definitions)
    (hname : view.string name = .ok module.name)
    (hnodup : (module.definitions.map Definition.id).Nodup) :
    decode (signature ++ (header ++ (data ++ (resources ++ code)))) = .ok module := by
  have hparts : Module.ofParts module.name module.definitions module.resources = .ok module :=
    ofParts_eq_ok_iff.mpr ⟨hnodup, rfl⟩
  unfold decode readModule
  rw [(take_reads rfl).bind_append, if_neg (not_not_intro rfl), hheader.bind_append,
    hdata.bind_append, hresources.bind_append, ← List.append_nil code, hcode.bind_append]
  rw [finish_bind_nil]
  simp only [hname, hparts]
  rfl

end Sections

/-- The bytes of a module with the pools on the way to them: after the name, after the
resources and after the definitions. -/
inductive Written (module : Module) : List UInt8 → Prop
  | intro {name : UInt32} {named placed last : Pool}
      {resourceCount resources definitionCount definitions strings : List UInt8}
      {headerSection dataSection resourceSection codeSection : List UInt8}
      (hname : Pool.empty.intern (Text.utf8 module.name) = .ok (name, named))
      (hresourceCount : encodeCount module.resources.size = .ok resourceCount)
      (hresources : encodeResources named module.resources.entries = .ok (resources, placed))
      (hdefinitionCount : encodeCount module.definitions.length = .ok definitionCount)
      (hdefinitions : encodeDefinitions placed module.definitions = .ok (definitions, last))
      (hstrings : last.encode = .ok strings)
      (hheader : encodeSection .header
        (word32 majorVersion ++ (word32 minorVersion ++ word32 name)) = .ok headerSection)
      (hdata : encodeSection .data strings = .ok dataSection)
      (hresourceSection :
        encodeSection .resources (resourceCount ++ resources) = .ok resourceSection)
      (hcode : encodeSection .code (definitionCount ++ definitions) = .ok codeSection) :
      Written module (signature ++ (headerSection ++ (dataSection ++ (resourceSection ++
        codeSection))))

theorem encode_eq_ok_iff {module : Module} {bytes : List UInt8} :
    encode module = .ok bytes ↔ Written module bytes := by
  constructor
  · intro hencoded
    rcases exists_of_bind_eq_ok hencoded with ⟨⟨name, named⟩, hname, hencoded⟩
    rcases exists_of_bind_eq_ok hencoded with ⟨resourceCount, hresourceCount, hencoded⟩
    rcases exists_of_bind_eq_ok hencoded with ⟨⟨resources, placed⟩, hresources, hencoded⟩
    rcases exists_of_bind_eq_ok hencoded with ⟨definitionCount, hdefinitionCount, hencoded⟩
    rcases exists_of_bind_eq_ok hencoded with ⟨⟨definitions, last⟩, hdefinitions, hencoded⟩
    rcases exists_of_bind_eq_ok hencoded with ⟨strings, hstrings, hencoded⟩
    rcases exists_of_bind_eq_ok hencoded with ⟨header, hheader, hencoded⟩
    rcases exists_of_bind_eq_ok hencoded with ⟨data, hdata, hencoded⟩
    rcases exists_of_bind_eq_ok hencoded with ⟨resourceSection, hresourceSection, hencoded⟩
    rcases exists_of_bind_eq_ok hencoded with ⟨code, hcode, hencoded⟩
    cases hencoded
    exact .intro hname hresourceCount hresources hdefinitionCount hdefinitions hstrings hheader
      hdata hresourceSection hcode
  · rintro ⟨hname, hresourceCount, hresources, hdefinitionCount, hdefinitions, hstrings, hheader,
      hdata, hresourceSection, hcode⟩
    simp only [encode, hname, hresourceCount, hresources, hdefinitionCount, hdefinitions, hstrings,
      hheader, hdata, hresourceSection, hcode, bind, Except.bind]
    rfl

/-- Every index refers to the strings of the last pool, which the data section holds. -/
theorem Written.decode_eq {module : Module} {bytes : List UInt8} (hwritten : Written module bytes)
    (hcanonical : module.Canonical) : decode bytes = .ok module := by
  rcases hwritten with ⟨hname, hresourceCount, hresources, hdefinitionCount, hdefinitions,
    hstrings, hheader, hdata, hresourceSection, hcode⟩
  rcases readResources_reads .empty hcanonical.resources_nodup
    (Pool.represents_empty.intern hname).1 hresources with
    ⟨placedStrings, hplaced, hbefore, hreadResources⟩
  rcases readDefinitions_reads hcanonical.masked hplaced hdefinitions with
    ⟨strings, hlast, hafter, hreadDefinitions⟩
  apply decode_sections
  · exact within_reads hheader (readHeader_reads _)
  · exact within_reads hdata (Pool.read_reads hlast hstrings)
  · exact resourceSection_reads hresourceCount (hreadResources _ hafter) hresourceSection
  · exact codeSection_reads hdefinitionCount (hreadDefinitions _ (List.prefix_refl _)) hcode
  · exact Pool.string_of_intern Pool.represents_empty hname (hbefore.trans hafter)
  · exact hcanonical.ids_nodup

/-- A module that was written is read back as it was. -/
theorem decode_of_encode {module : Module} (hcanonical : module.Canonical) {bytes : List UInt8}
    (hencoded : encode module = .ok bytes) : decode bytes = .ok module :=
  (encode_eq_ok_iff.mp hencoded).decode_eq hcanonical

/-- A module with a resource, a name that the pool shares with a resource, and calls of an
external function. -/
def greeting : Module := Samples.hello "puts"

/-- The module can be written, and it is read back. -/
theorem decode_of_encode_greeting :
    greeting.Canonical ∧ ∃ bytes, encode greeting = .ok bytes ∧ decode bytes = .ok greeting := by
  have hcanonical : greeting.Canonical :=
    ⟨by decide +kernel, by decide +kernel, by decide +kernel⟩
  cases hencoded : encode greeting with
  | error fault =>
    have hok : (encode greeting).isOk = true := by decide +kernel
    rw [hencoded] at hok
    cases hok
  | ok bytes => exact ⟨hcanonical, bytes, rfl, decode_of_encode hcanonical hencoded⟩

end Format

end StackCode
