import StackCode.Builder
import StackCode.Config
import StackCode.Console
import StackCode.DataType
import StackCode.Definition
import StackCode.Error
import StackCode.Floating.Decimal
import StackCode.Floating.Format
import StackCode.Format.Decode
import StackCode.Format.Encode
import StackCode.Format.Error
import StackCode.Format.Pool
import StackCode.Format.Reader
import StackCode.Host
import StackCode.Host.Probe
import StackCode.Host.Stdio
import StackCode.Instruction
import StackCode.Instruction.Text
import StackCode.Json.Decode
import StackCode.Json.Parser
import StackCode.Json.Program
import StackCode.Json.Tree
import StackCode.Limits
import StackCode.Listing
import StackCode.LittleEndian
import StackCode.Machine.Call
import StackCode.Machine.Run
import StackCode.Machine.State
import StackCode.Machine.Step
import StackCode.Main
import StackCode.Memory
import StackCode.Memory.Arena
import StackCode.Module
import StackCode.Numeric
import StackCode.Numeric.Integer
import StackCode.Opcode
import StackCode.Proofs.Building.Changes
import StackCode.Proofs.Building.Histories
import StackCode.Proofs.Building.Operations
import StackCode.Proofs.Format.Capacity
import StackCode.Proofs.Format.Instructions
import StackCode.Proofs.Format.Layout
import StackCode.Proofs.Format.Normalizing
import StackCode.Proofs.Format.PoolStrings
import StackCode.Proofs.Format.PrefixFree
import StackCode.Proofs.Format.Recognizing
import StackCode.Proofs.Format.RoundTrip
import StackCode.Proofs.Format.Writable
import StackCode.Proofs.Lockstep.Bond
import StackCode.Proofs.Lockstep.Budget
import StackCode.Proofs.Lockstep.Fuel
import StackCode.Proofs.Lockstep.Instructions
import StackCode.Proofs.Lockstep.Metering
import StackCode.Proofs.Lockstep.Reruns
import StackCode.Proofs.Lockstep.Room
import StackCode.Proofs.Lockstep.Runs
import StackCode.Proofs.Lockstep.Storage
import StackCode.Proofs.Machine.CallLayout
import StackCode.Proofs.Machine.CallSpan
import StackCode.Proofs.Machine.Faults
import StackCode.Proofs.Machine.FrameInvariant
import StackCode.Proofs.Machine.FrameLayout
import StackCode.Proofs.Machine.Layers
import StackCode.Proofs.Machine.StepEffects
import StackCode.Proofs.Machine.StepLayout
import StackCode.Proofs.Memory.PackedArena
import StackCode.Proofs.Memory.Regions
import StackCode.Proofs.Memory.Resemblance
import StackCode.Proofs.Memory.StoredBytes
import StackCode.Proofs.Memory.Strings
import StackCode.Proofs.Numeric.Conversions
import StackCode.Proofs.Numeric.Exactness
import StackCode.Proofs.Numeric.Wrapping
import StackCode.Proofs.Samples.Construction
import StackCode.Proofs.Samples.Counting
import StackCode.Proofs.Samples.Greeting
import StackCode.Proofs.Samples.Powers
import StackCode.Proofs.Structured.Execution
import StackCode.Proofs.Structured.Machine
import StackCode.Proofs.Structured.Portrait
import StackCode.Proofs.Structured.Refinement
import StackCode.Proofs.Structured.Scene
import StackCode.Proofs.TailCall.Instructions
import StackCode.Proofs.TailCall.Simulation
import StackCode.Proofs.Verify.ReturnTypes
import StackCode.Proofs.Verify.RuntimeFaults
import StackCode.Proofs.Verify.Violations
import StackCode.Proofs.Verify.Walks
import StackCode.Resource
import StackCode.Samples
import StackCode.Session
import StackCode.Text.Alphanumeric
import StackCode.Text.Escaped
import StackCode.Text.Hex
import StackCode.Text.Printable
import StackCode.Text.Quoted
import StackCode.Text.Ranges
import StackCode.Text.Utf16
import StackCode.Text.Utf8
import StackCode.Tool.Arguments
import StackCode.Tool.Command
import StackCode.Tool.Files
import StackCode.Tool.LogFilter
import StackCode.Tool.Number
import StackCode.Tool.Path
import StackCode.Tool.Workplace
import StackCode.Trap
import StackCode.Value
import StackCode.Verify.Report
import StackCode.Verify.Rules
import StackCode.Verify.Trace
import StackCode.Verify.Walk
import StackCode.Proofs.Memory.Accesses
import StackCode.Proofs.Memory.Buffers
import StackCode.Proofs.Memory.AddressSpace
import StackCode.Proofs.Verify.ResourceOperands
import StackCode.Proofs.TailCall.ConstantDepth
import StackCode.Proofs.Memory.StrictAccess
import StackCode.Proofs.Resources.Additions
import StackCode.Proofs.Resources.Texts
import StackCode.Proofs.Listing.Quoting
import StackCode.Proofs.Format.Interning
import StackCode.Proofs.Machine.Arguments
import StackCode.Proofs.Listing.Lines
import StackCode.Proofs.Listing.Labels
