import StackCode.Config
import StackCode.Format.Decode
import StackCode.Host.Stdio
import StackCode.Listing
import StackCode.Samples
import StackCode.Session
import StackCode.Tool.Arguments
import StackCode.Tool.Files
import StackCode.Tool.LogFilter

/-!
# Commands of the tool

What each command prints and writes, and how it ends.  A command succeeds with
status 0, ends with status 1 when a module is refused or cannot be read, and with
status 2 when a program traps or the command line is misused.

Main definitions:

- `Output`: what a command leaves behind.
- `perform`: one command.
- `answer`: one command line.
-/

namespace StackCode.Tool

/-! ## Output -/

/-- What a command leaves behind: its status, what it printed, what it reported, and
the file that it wrote. -/
structure Output where
  status : Nat
  stdout : List UInt8
  stderr : String
  written : Option (String × List UInt8)
deriving DecidableEq, Repr

namespace Output

/-- Success after printing a text. -/
def printed (text : String) : Output := ⟨0, Text.utf8 text, "", none⟩

/-- Failure with an error on a line. -/
def failed (message : String) : Output := ⟨1, [], "error: " ++ message ++ "\n", none⟩

end Output

/-- Texts on lines of their own. -/
def lines (texts : List String) : String := String.join (texts.map fun text => text ++ "\n")

/-- An error with its causes: that of a file is named once more. -/
def chain (error : Error) : String :=
  match error with
  | .file cause => error.message ++ ": " ++ cause.message
  | _ => error.message

/-! ## Commands -/

/-- The module in a file. -/
def load (view : FileView) (path : String) : Except Error Module :=
  match view.contents path with
  | .error cause => .error (.file cause)
  | .ok bytes => (Format.decode bytes).mapError Error.decode

/-- Goes on with the module in a file, or reports why it cannot be read. -/
def withModule (view : FileView) (path : String) (next : Module → Output) : Output :=
  match load view path with
  | .ok module => next module
  | .error error => .failed ("failed to load " ++ path ++ ": " ++ chain error)

/-- Whether a report passes: it has no errors and, if warnings are denied, no
warnings. -/
def accepts (config : ToolConfig) (report : Verify.Report) : Bool :=
  report.isValid && !(config.denyWarnings && !report.warnings.isEmpty)

/-- Runs a module after it was checked, with what was reported before. -/
def execute (config : ToolConfig) (input : List UInt8) (module : Module) (before : String) :
    Output :=
  let session : Session := ⟨config.limits, Host.stdio, false⟩
  let (result, console) := session.execute module (.new input)
  let printed := console.output.toList
  match result with
  | .ok _ => ⟨0, printed, before, none⟩
  | .error (.trapped trap) => ⟨2, printed, before ++ "trap: " ++ trap.message ++ "\n", none⟩
  | .error error => ⟨1, printed, before ++ "error: " ++ chain error ++ "\n", none⟩

/-- Checks a module, unless that is turned off, and runs it. -/
def run (config : ToolConfig) (input : List UInt8) (module : Module) : Output :=
  if config.verifyBeforeRun then
    let report := Verify.verify module
    let before := lines (report.diagnostics.map Verify.Diagnostic.text)
    if accepts config report then execute config input module before
    else ⟨1, [], before, none⟩
  else execute config input module ""

/-- Checks a module and prints what was found. -/
def verify (config : ToolConfig) (module : Module) : Output :=
  let report := Verify.verify module
  let texts := report.diagnostics.map Verify.Diagnostic.text
  if accepts config report then
    ⟨0, Text.utf8 (lines (texts ++ [module.name ++ ": ok"])), "", none⟩
  else ⟨1, Text.utf8 (lines texts), "", none⟩

/-- The module of a sample. -/
def Sample.module : Sample → Module
  | count => Samples.count 5
  | pow => Samples.pow 32 3
  | hello => Samples.hello "Hello, world!"

/-- Writes the module of a sample to a file. -/
def demo (view : FileView) (sample : Sample) (path : String) : Output :=
  let outcome : Except Error (List UInt8) := do
    let bytes ← (Format.encode sample.module).mapError Error.encode
    (view.writable path).mapError Error.file
    return bytes
  match outcome with
  | .ok bytes => ⟨0, [], "", some (path, bytes)⟩
  | .error error => .failed ("failed to write " ++ path ++ ": " ++ chain error)

/-- The settings of a run with its own options. -/
def runConfig (config : ToolConfig) (noVerify : Bool) (fuel stackSize : Option Nat) :
    ToolConfig :=
  { config with
    verifyBeforeRun := config.verifyBeforeRun && !noVerify
    limits :=
      { config.limits with
        fuel := fuel.or config.limits.fuel
        stackSize := stackSize.getD config.limits.stackSize } }

/-- Performs a command. -/
def perform (view : FileView) (input : List UInt8) (config : ToolConfig) : Command → Output
  | .run file noVerify fuel stackSize =>
    withModule view file (run (runConfig config noVerify fuel stackSize) input)
  | .verify file => withModule view file (verify config)
  | .dump file => withModule view file fun module => .printed (Listing.module module)
  | .demo sample path => demo view sample path

/-! ## Command lines -/

/-- The settings of an invocation. -/
def settings (view : FileView) (path? : Option String) : Except String ToolConfig :=
  match path? with
  | none => .ok .default
  | some path =>
    let outcome : Except Error ToolConfig := do
      let bytes ← (view.contents path).mapError Error.file
      ToolConfig.load bytes
    outcome.mapError fun error => "failed to load " ++ path ++ ": " ++ error.message

/-- Checks the log filter of an invocation. -/
def checkLog (filter? : Option String) : Except String Unit :=
  match filter? with
  | none => .ok ()
  | some filter =>
    (LogFilter.check filter).mapError fun problem =>
      "invalid log filter '" ++ filter ++ "': " ++ problem.message

/-- Performs a command with the options of the tool. -/
def invoke (view : FileView) (input : List UInt8) (invocation : Invocation) : Output :=
  match settings view invocation.config with
  | .error message => .failed message
  | .ok config =>
    match checkLog invocation.log with
    | .error message => .failed message
    | .ok _ => perform view input config invocation.command

/-- The name and the version of the tool. -/
def versionText : String := "bridge 0.1.0\n"

/-- How the tool is used. -/
def helpText : String :=
  "Build, check and run Bridge modules\n\n" ++
    "Usage: bridge [--config <file>] [--log <filter>] <command>\n\n" ++
    "Commands:\n" ++
    "  run <file> [--no-verify] [--fuel <n>] [--stack-size <bytes>]\n" ++
    "  verify <file>\n" ++
    "  dump <file>\n" ++
    "  demo <count|pow|hello> --output <file>\n"

/-- Answers a command line; absent when it is misused. -/
def answer? (view : FileView) (input : List UInt8) (arguments : List String) : Option Output :=
  (Request.parse? arguments).map fun request =>
    match request with
    | .version => .printed versionText
    | .help => .printed helpText
    | .invoke invocation => invoke view input invocation

/-- The paths that a command line asks to read. -/
def inputPaths (arguments : List String) : List String :=
  match Request.parse? arguments with
  | some (.invoke invocation) =>
    invocation.config.toList ++
      match invocation.command with
      | .run file .. | .verify file | .dump file => [file]
      | .demo .. => []
  | _ => []

/-- Whether a command line runs a program, which may read its input. -/
def readsInput (arguments : List String) : Bool :=
  match Request.parse? arguments with
  | some (.invoke invocation) =>
    match invocation.command with
    | .run .. => true
    | _ => false
  | _ => false

end StackCode.Tool
