import StackCode.Tool.Command

/-!
# Working in a tree of files

Answers a command line in a tree of files, and says what can be seen afterwards: what
was printed, and the files that are new in the working directory.

Main definitions: `FileTree.ofNamed`, `Ending`, `FileTree.answer?`.
-/

namespace StackCode.Tool

/-- What can be seen after a command line was answered. -/
structure Ending where
  status : Nat
  stdout : List UInt8
  stderr : String
  created : List (String × List UInt8)
deriving DecidableEq, Repr

namespace FileTree

/-- The tree with named files in the working directory. -/
def ofNamed (files : List (String × List UInt8)) (input : List UInt8) : FileTree where
  files := files.map fun (name, bytes) => ((Path.parse name).names.reverse ++ workplace, bytes)
  input := input

/-- What can be seen of an output.  What is written to a stream of the program follows
what was printed on it. -/
def ending (tree : FileTree) (output : Output) : Ending :=
  let plain : Ending := ⟨output.status, output.stdout, output.stderr, []⟩
  match output.written with
  | none => plain
  | some (path, bytes) =>
    match tree.device? path with
    | some .output => { plain with stdout := output.stdout ++ bytes }
    | some .errors => { plain with stderr := output.stderr ++ Text.ofUtf8Lenient bytes }
    | some _ => plain
    | none =>
      let name? := (tree.place path).toOption.bind tree.newName?
      { plain with created := name?.toList.map fun name => (name, bytes) }

/-- The input that is left for a program, which is none after a file was read from
it. -/
def programInput (tree : FileTree) (arguments : List String) : List UInt8 :=
  if (inputPaths arguments).any fun path => tree.device? path == some .input then []
  else tree.input

/-- Answers a command line; absent when it is misused. -/
def answer? (tree : FileTree) (arguments : List String) : Option Ending :=
  (Tool.answer? tree.view (tree.programInput arguments) arguments).map tree.ending

end FileTree

end StackCode.Tool
