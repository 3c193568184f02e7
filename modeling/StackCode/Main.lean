import StackCode.Tool.Command

/-!
# The command-line program

Reads the files and the input that a command line asks for, answers it, and writes
what the answer holds.
-/

namespace StackCode.Tool

/-- The number of a system error, which some calls give with the sign changed. -/
def errorNumber (code : UInt32) : Nat :=
  if code < 0x80000000 then code.toNat else (0 - code).toNat

/-- Why an access to a file failed. -/
def fileError : IO.Error → FileError
  | .noFileOrDirectory .. => .notFound
  | .inappropriateType _ code _ =>
    if errorNumber code = 21 then .isDirectory else .notDirectory
  | .resourceExhausted _ code text =>
    if errorNumber code = 28 then .noSpace else .other text
  | .invalidArgument _ code text =>
    if errorNumber code = 36 then .nameTooLong else .other text
  | .permissionDenied _ code _ =>
    .other ("Permission denied (os error " ++ toString (errorNumber code) ++ ")")
  | error => .other (toString error)

/-- Reads a file. -/
def readFile (path : String) : IO (Except FileError (List UInt8)) := do
  try
    let bytes ← IO.FS.readBinFile path
    return .ok bytes.data.toList
  catch error => return .error (fileError error)

/-- Writes a file. -/
def writeFile (path : String) (bytes : List UInt8) : IO (Except FileError Unit) := do
  try
    IO.FS.withFile path .write fun handle => do
      handle.write ⟨bytes.toArray⟩
      handle.flush
    return .ok ()
  catch error => return .error (fileError error)

/-- Reads a stream to its end. -/
partial def readToEnd (stream : IO.FS.Stream) (bytes : ByteArray) : IO ByteArray := do
  let part ← stream.read 4096
  if part.isEmpty then return bytes else readToEnd stream (bytes ++ part)

/-- Prints an answer and ends with its status. -/
def report (output : Output) : IO UInt32 := do
  let stdout ← IO.getStdout
  stdout.write ⟨output.stdout.toArray⟩
  stdout.flush
  IO.eprint output.stderr
  return output.status.toUInt32

/-- Prints how the tool is used, after a command line that is misused. -/
def reportMisuse : IO UInt32 := do
  IO.eprint helpText
  return 2

end StackCode.Tool

open StackCode.Tool in
/-- Answers a command line. -/
def main (arguments : List String) : IO UInt32 := do
  let files ← (inputPaths arguments).mapM fun path => do return (path, ← readFile path)
  let ready := files.all fun file => file.2.isOk
  let input ←
    if ready && readsInput arguments then readToEnd (← IO.getStdin) ⟨#[]⟩
    else pure ⟨#[]⟩
  let view : FileView :=
    ⟨fun path => (files.lookup path).getD (.error .notFound), fun _ => .ok ()⟩
  match answer? view input.data.toList arguments with
  | none => reportMisuse
  | some output =>
    match output.written with
    | none => report output
    | some (path, bytes) =>
      match ← writeFile path bytes with
      | .ok _ => report output
      | .error cause =>
        let refused : FileView := ⟨view.contents, fun _ => .error cause⟩
        match answer? refused input.data.toList arguments with
        | none => reportMisuse
        | some output => report output
