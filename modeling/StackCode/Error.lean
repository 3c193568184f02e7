import StackCode.Builder
import StackCode.Format.Error
import StackCode.Trap
import StackCode.Verify.Report

/-!
# Errors

Everything that can go wrong outside a running program, by cause.

Main definitions: `Error`, with its `kind` and `message`.
-/

namespace StackCode

/-- Why a file cannot be read or written. -/
inductive FileError where
  | notFound
  | notDirectory
  | isDirectory
  | noSpace
  | nameTooLong
  | notUtf8
  | other (text : String)
deriving DecidableEq, Repr

/-- The text of a file error. -/
def FileError.message : FileError → String
  | notFound => "No such file or directory (os error 2)"
  | notDirectory => "Not a directory (os error 20)"
  | isDirectory => "Is a directory (os error 21)"
  | noSpace => "No space left on device (os error 28)"
  | nameTooLong => "File name too long (os error 36)"
  | notUtf8 => "stream did not contain valid UTF-8"
  | other text => text

/-- Why an operation on modules fails. -/
inductive Error where
  | file (cause : FileError)
  | encode (cause : Format.EncodeError)
  | decode (cause : Format.DecodeError)
  | json
  | duplicate (cause : DuplicateId)
  | invalid (report : Verify.Report)
  | build (cause : BuildError)
  | notExecutable (cause : EntryError)
  | trapped (trap : Trap)
deriving DecidableEq, Repr

namespace Error

/-- The name of the kind of an error. -/
def kind : Error → String
  | file _ => "Io"
  | encode _ | decode _ | json => "Serialization"
  | duplicate _ | invalid _ => "Validation"
  | build _ => "Build"
  | notExecutable _ => "NotExecutable"
  | trapped _ => "Trap"

/-- The words in front of an error of a kind. -/
def heading : Error → String
  | file _ => "IO error: "
  | encode _ | decode _ | json => "Serialization error: "
  | duplicate _ | invalid _ => "Validation error: "
  | build _ => "Build error: "
  | notExecutable _ => "Module is not executable: "
  | trapped _ => "Execution trapped: "

/-- The text of the cause of an error. -/
def detail : Error → String
  | file cause => cause.message
  | encode cause => cause.message
  | decode cause => cause.message
  | json => "malformed JSON"
  | duplicate cause => cause.message
  | invalid report => report.summary
  | build cause => cause.message
  | notExecutable cause => cause.message
  | trapped trap => trap.message

/-- The text of an error. -/
def message (error : Error) : String := error.heading ++ error.detail

end Error

end StackCode
