import StackCode.Error
import StackCode.Json.Decode
import StackCode.Json.Parser
import StackCode.Limits
import StackCode.Text.Utf8

/-!
# Configuration

The settings of the command-line tool, read from a JSON file.  What the file leaves
out has its default.

Main definitions:

- `ToolConfig`, `SessionConfig`: settings with their defaults.
- `ToolConfig.load`: the settings that a file holds.
-/

namespace StackCode

/-- The settings of the command-line tool. -/
structure ToolConfig where
  limits : Limits
  verifyBeforeRun : Bool
  denyWarnings : Bool
  logFilter : String
  endpoint : Option String
deriving DecidableEq, Repr

/-- The settings of the tool without a configuration file. -/
def ToolConfig.default : ToolConfig :=
  ⟨.default, true, false, "info,bridge_runtime=debug", none⟩

/-- The settings of a session: its limits, and whether modules are verified. -/
structure SessionConfig where
  limits : Limits
  verify : Bool
deriving DecidableEq, Repr

/-- The settings of a plain session. -/
def SessionConfig.default : SessionConfig := ⟨.default, true⟩

namespace Json

/-- A whole number of 64 bits. -/
def word64? : Tree → Option Nat := toNat? 0x10000000000000000

/-- Limits; what is left out has its default. -/
def limits? (tree : Tree) : Option Limits := do
  match ← fields? ["stack_size", "max_call_depth", "fuel"] true tree with
  | [stackSize, maxCallDepth, fuel] =>
    let stackSize ← withDefault? Limits.default.stackSize word64? stackSize
    let maxCallDepth ← withDefault? Limits.default.maxCallDepth word64? maxCallDepth
    let fuel ← withDefault? Limits.default.fuel (toOption? word64?) fuel
    return ⟨stackSize, maxCallDepth, fuel⟩
  | _ => none

/-- Limits as a document. -/
def ofLimits (limits : Limits) : Tree :=
  record [("stack_size", ofNat limits.stackSize), ("max_call_depth", ofNat limits.maxCallDepth),
    ("fuel", ofOption ofNat limits.fuel)]

/-- The settings of the tool; what is left out has its default. -/
def toolConfig? (tree : Tree) : Option ToolConfig := do
  let default := ToolConfig.default
  match ← fields? ["interpreter", "verify_before_run", "deny_warnings", "log_filter",
      "otel_endpoint"] true tree with
  | [limits, verifyBeforeRun, denyWarnings, logFilter, endpoint] =>
    let limits ← withDefault? default.limits limits? limits
    let verifyBeforeRun ← withDefault? default.verifyBeforeRun toBool? verifyBeforeRun
    let denyWarnings ← withDefault? default.denyWarnings toBool? denyWarnings
    let logFilter ← withDefault? default.logFilter toText? logFilter
    let endpoint ← withDefault? default.endpoint (toOption? toText?) endpoint
    return ⟨limits, verifyBeforeRun, denyWarnings, logFilter, endpoint⟩
  | _ => none

/-- The settings of the tool as a document. -/
def ofToolConfig (config : ToolConfig) : Tree :=
  record [("interpreter", ofLimits config.limits),
    ("verify_before_run", .bool config.verifyBeforeRun),
    ("deny_warnings", .bool config.denyWarnings), ("log_filter", ofString config.logFilter),
    ("otel_endpoint", ofOption ofString config.endpoint)]

/-- The settings of a session; what is left out has its default. -/
def sessionConfig? (tree : Tree) : Option SessionConfig := do
  match ← fields? ["limits", "verify"] true tree with
  | [limits, verify] =>
    let limits ← withDefault? SessionConfig.default.limits limits? limits
    let verify ← withDefault? SessionConfig.default.verify toBool? verify
    return ⟨limits, verify⟩
  | _ => none

/-- The settings of a session as a document. -/
def ofSessionConfig (config : SessionConfig) : Tree :=
  record [("limits", ofLimits config.limits), ("verify", .bool config.verify)]

end Json

/-- The settings that the contents of a file hold. -/
def ToolConfig.load (contents : List UInt8) : Except Error ToolConfig :=
  match Text.ofUtf8? contents with
  | none => .error (.file .notUtf8)
  | some text =>
    match (Json.parse? text).bind Json.toolConfig? with
    | some config => .ok config
    | none => .error .json

end StackCode
