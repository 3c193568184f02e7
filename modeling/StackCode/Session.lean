import StackCode.Error
import StackCode.Machine.Run
import StackCode.Verify.Rules

/-!
# Sessions

Checked execution of modules: a module is run only if it has an entry and, unless
verification is turned off, no verification errors.

Main definitions:

- `Session.prepare`: whether a module may be run.
- `Session.compile`: a machine that can be run repeatedly.
- `Session.invoke`: one run of such a machine.
- `Session.execute`: one run on a new machine.
-/

namespace StackCode

/-- How modules are run: with which limits and host, and whether they are verified. -/
structure Session where
  limits : Limits
  host : Host
  verify : Bool

/-- A module together with a machine for it. -/
structure Compiled where
  setup : Setup
  machine : Machine

namespace Session

/-- What a module runs with. -/
def setup (session : Session) (module : Module) : Setup :=
  ⟨module, session.limits, session.host⟩

/-- Whether a module may be run. -/
def prepare (session : Session) (module : Module) : Except Error Unit :=
  match module.entry with
  | .error cause => .error (.notExecutable cause)
  | .ok _ =>
    let report := Verify.verify module
    if session.verify && !report.isValid then .error (.invalid report) else .ok ()

/-- A machine for a module that may be run. -/
def compile (session : Session) (module : Module) (console : Console) :
    Except Error Compiled := do
  session.prepare module
  return ⟨session.setup module, .new session.limits console⟩

/-- The result of a run, or the error that it ended with; and the machine after it. -/
def invoke (compiled : Compiled) : Except Error (Option Value) × Compiled :=
  match Machine.run compiled.setup compiled.machine with
  | .returned result machine => (.ok result, { compiled with machine })
  | .trapped trap machine => (.error (.trapped trap), { compiled with machine })
  | .running machine => (.ok none, { compiled with machine })

/-- Runs a module on a new machine; with the console after it. -/
def execute (session : Session) (module : Module) (console : Console) :
    Except Error (Option Value) × Console :=
  match session.compile module console with
  | .error error => (.error error, console)
  | .ok compiled =>
    let (result, compiled) := invoke compiled
    (result, compiled.machine.console)

end Session

end StackCode
