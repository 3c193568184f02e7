import StackCode.Error
import StackCode.Tool.Path

/-!
# Files

What the tool sees of files, and a tree of files that gives it such a view.

A path is walked name by name.  Every place that a name is taken from must be a
directory, so the first place on the way that is missing, or something else, decides
the error.

Main definitions:

- `FileView`: the contents of a path, and whether a path can be written.
- `Node`, `FileTree`: what stands at a place.
- `FileTree.walk`: the place that names lead to.
- `FileTree.view`.
-/

namespace StackCode.Tool

/-- What the tool sees of files. -/
structure FileView where
  contents : String → Except FileError (List UInt8)
  writable : String → Except FileError Unit

/-! ## Trees of files -/

/-- A place that is not stored: nothing, what cannot be filled any more, and the
three streams of the program. -/
inductive Device where
  | null
  | full
  | input
  | output
  | errors
deriving DecidableEq, Repr

/-- What stands at a place. -/
inductive Node where
  | directory
  | file (bytes : List UInt8)
  | device (device : Device)
deriving DecidableEq, Repr

/-- Files at their places, and the bytes on the input. -/
structure FileTree where
  files : List (Place × List UInt8)
  input : List UInt8
deriving DecidableEq, Repr

/-- The working directory. -/
def workplace : Place := ["work", "tmp"]

/-- The directories that are always there; those above them are there too. -/
def standingDirectories : List Place :=
  workplace ::
    ["bin", "boot", "dev", "etc", "home", "lib", "lib64", "media", "mnt", "opt", "proc",
      "root", "run", "sbin", "srv", "sys", "tmp", "usr", "var"].map fun name => [name]

/-- The device at a place. -/
def Device.ofPlace? : Place → Option Device
  | ["null", "dev"] => some .null
  | ["full", "dev"] => some .full
  | ["stdin", "dev"] => some .input
  | ["stdout", "dev"] => some .output
  | ["stderr", "dev"] => some .errors
  | _ => none

namespace FileTree

/-- Whether a place is a directory: one that is always there, or one above a file. -/
def isDirectory (tree : FileTree) (place : Place) : Bool :=
  (standingDirectories ++ tree.files.map Prod.fst).any fun below => place.isSuffixOf below

/-- What stands at a place; a name that is too long is not looked for. -/
def node (tree : FileTree) (place : Place) : Except FileError Node :=
  if (place.headD "").utf8ByteSize > Path.longestName then .error .nameTooLong
  else
    match tree.files.lookup place, Device.ofPlace? place with
    | some bytes, _ => .ok (.file bytes)
    | none, some device => .ok (.device device)
    | none, none => if tree.isDirectory place then .ok .directory else .error .notFound

/-- The place that names lead to.  It need not be there, but every place on the way is
a directory. -/
def walk (tree : FileTree) (place : Place) : List String → Except FileError Place
  | [] => .ok place
  | name :: rest =>
    match tree.node place with
    | .error cause => .error cause
    | .ok .directory => tree.walk (place.enter name) rest
    | .ok _ => .error .notDirectory

/-- The place of a path. -/
def place (tree : FileTree) (text : String) : Except FileError Place :=
  if text.utf8ByteSize > Path.longest then .error .nameTooLong
  else
    let path := Path.parse text
    tree.walk (path.start workplace) path.names

/-! ## The view of a tree -/

/-- The contents of a path. -/
def contents (tree : FileTree) (text : String) : Except FileError (List UInt8) := do
  match ← tree.node (← tree.place text) with
  | .directory => .error .isDirectory
  | .file bytes => if (Path.parse text).slashed then .error .notDirectory else .ok bytes
  | .device device =>
    if (Path.parse text).slashed then .error .notDirectory
    else if device = .input then .ok tree.input
    else .ok []

/-- Whether a path can be written.  A file is made where nothing stands, but no
directory is. -/
def writable (tree : FileTree) (text : String) : Except FileError Unit := do
  let place ← tree.place text
  if (Path.parse text).slashed then .error .isDirectory
  else
    match tree.node place with
    | .error .notFound => .ok ()
    | .error cause => .error cause
    | .ok .directory => .error .isDirectory
    | .ok (.device .full) => .error .noSpace
    | .ok _ => .ok ()

/-- What the tool sees of a tree. -/
def view (tree : FileTree) : FileView := ⟨tree.contents, tree.writable⟩

/-- The device that a path is. -/
def device? (tree : FileTree) (text : String) : Option Device :=
  (tree.place text).toOption.bind Device.ofPlace?

/-- The name below the working directory of a place that nothing stands at. -/
def newName? (tree : FileTree) (place : Place) : Option String :=
  if workplace.isSuffixOf place && (tree.files.lookup place).isNone then
    some ("/".intercalate (place.take (place.length - workplace.length)).reverse)
  else none

end FileTree

end StackCode.Tool
