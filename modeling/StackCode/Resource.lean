import StackCode.Text.Utf8
import StackCode.Text.Utf16

/-!
# Resources

Read-only byte strings that a module carries.  A table never holds one byte string
twice: adding bytes that are present returns the index they already have.

Main definitions:

- `Resource`: bytes together with the kind of text they hold.
- `Resource.string?`: the text of a string resource.
- `ResourceTable.add`, `find?`, `get?`.

Main results:

- Theorem `ResourceKind.ofTag?_eq_some_iff`: a tag stands for the kind that has it.
-/

namespace StackCode

/-! ## Entries -/

/-- What the bytes of a resource stand for. -/
inductive ResourceKind where
  | bytes
  | utf8
  | utf16
deriving DecidableEq, Repr, Inhabited

namespace ResourceKind

/-- Every kind of resource, in the order of their tags. -/
def all : List ResourceKind := [bytes, utf8, utf16]

/-- The tag that stands for the kind in a binary module. -/
def tag : ResourceKind → UInt8
  | bytes => 0
  | utf8 => 1
  | utf16 => 2

/-- The kind that a tag stands for. -/
def ofTag? : UInt8 → Option ResourceKind
  | 0 => some bytes
  | 1 => some utf8
  | 2 => some utf16
  | _ => none

/-- Number of zero bytes that follow the resource in memory. -/
def terminatorLength : ResourceKind → Nat
  | utf16 => 2
  | _ => 1

/-- The name of the kind in structural text and in JSON. -/
def name : ResourceKind → String
  | bytes => "Bytes"
  | utf8 => "Utf8"
  | utf16 => "Utf16"

/-- A kind is read back from its tag. -/
@[simp]
theorem ofTag?_tag (kind : ResourceKind) : ofTag? kind.tag = some kind := by
  cases kind <;> rfl

/-- A tag stands for the kind that has it. -/
theorem ofTag?_eq_some_iff {tag : UInt8} {kind : ResourceKind} :
    ofTag? tag = some kind ↔ kind.tag = tag := by
  constructor
  · intro hkind
    unfold ofTag? at hkind
    split at hkind <;> cases hkind <;> rfl
  · rintro rfl
    exact ofTag?_tag kind

end ResourceKind

/-- A byte string together with what it stands for. -/
structure Resource where
  kind : ResourceKind
  bytes : List UInt8
deriving DecidableEq, Repr, Inhabited

namespace Resource

/-- The text of a string resource; absent for raw bytes and for bytes that encode
no text. -/
def string? (resource : Resource) : Option String :=
  match resource.kind with
  | .bytes => none
  | .utf8 => Text.ofUtf8? resource.bytes
  | .utf16 => Text.ofUtf16? resource.bytes

/-- The bytes as they stand in memory, with their terminator. -/
def terminated (resource : Resource) : List UInt8 :=
  resource.bytes ++ List.replicate resource.kind.terminatorLength 0

end Resource

/-! ## Tables -/

/-- The resources of a module, addressed by position. -/
structure ResourceTable where
  entries : List Resource
deriving DecidableEq, Repr, Inhabited

namespace ResourceTable

/-- The table without entries. -/
def empty : ResourceTable := ⟨[]⟩

/-- Number of entries. -/
def size (table : ResourceTable) : Nat := table.entries.length

/-- The entry at an index. -/
def get? (table : ResourceTable) (index : UInt32) : Option Resource :=
  table.entries[index.toNat]?

/-- The index of the first entry with the given bytes. -/
def find? (table : ResourceTable) (bytes : List UInt8) : Option UInt32 :=
  (table.entries.findIdx? fun entry => entry.bytes == bytes).map Nat.toUInt32

/-- Adds bytes at the end unless an entry of any kind has them already, and
returns the index of the entry that has them. -/
def add (table : ResourceTable) (resource : Resource) : ResourceTable × UInt32 :=
  match table.find? resource.bytes with
  | some index => (table, index)
  | none => (⟨table.entries ++ [resource]⟩, table.size.toUInt32)

/-- Adds a string in UTF-8. -/
def addString (table : ResourceTable) (text : String) : ResourceTable × UInt32 :=
  table.add ⟨.utf8, Text.utf8 text⟩

/-- Adds a string in UTF-16. -/
def addUtf16 (table : ResourceTable) (text : String) : ResourceTable × UInt32 :=
  table.add ⟨.utf16, Text.utf16 text⟩

end ResourceTable

end StackCode
