import StackCode.Host.Stdio

/-!
# Functions that probe the machine

The library `env`, whose functions reach each thing that a host function may do, so
that programs can be tried against every outcome of a host call.

Main definition: `Host.probe`.
-/

namespace StackCode.Host

/-- Goes on with an argument of a function of the library `env`. -/
def probeArgument (arguments : List Value) (index : Nat) (next : Value → HostProgram) :
    HostProgram :=
  .withArgument arguments index ("env argument " ++ toString index) next

/-- Writes all arguments in brackets. -/
def showArguments : HostFunction := fun arguments =>
  .print (Text.utf8 ("[" ++ ",".intercalate (arguments.map Value.structuralText) ++ "]"))
    (.done none)

/-- Returns the 32-bit number at an address. -/
def peek : HostFunction := fun arguments =>
  probeArgument arguments 0 fun address =>
    .read address.raw .u32 <| .orFail fun value => .done (some value)

/-- Stores a value at an address. -/
def poke : HostFunction := fun arguments =>
  probeArgument arguments 0 fun address =>
    probeArgument arguments 1 fun value =>
      .write address.raw value <| .orFail fun _ => .done none

/-- Copies bytes to the first address from the second. -/
def copy : HostFunction := fun arguments =>
  probeArgument arguments 1 fun source =>
    probeArgument arguments 2 fun length =>
      .readBytes source.raw (length.toNat .u32) <| .orFail fun bytes =>
        probeArgument arguments 0 fun target =>
          .writeBytes target.raw bytes <| .orFail fun _ => .done none

/-- Returns the length of the string at an address. -/
def strlen : HostFunction := fun arguments =>
  probeArgument arguments 0 fun address =>
    .readCString address.raw <| .orFail fun text => .done (some (.ofNat .u32 text.length))

/-- Returns the next byte of the input, or minus one at its end. -/
def getChar : HostFunction := fun _ =>
  .readChar fun byte? =>
    match byte? with
    | some byte => .done (some (.ofNat .i16 byte.toNat))
    | none => .done (some (.ofInt .i16 (-1)))

/-- The host with the libraries `c` and `env`. -/
def probe : Host :=
  [("fail", fun _ => .fail "boom"),
    ("nothing", fun _ => .done none),
    ("answer", fun _ => .done (some (.ofNat .i32 42))),
    ("count", fun arguments => .done (some (.ofNat .u32 arguments.length))),
    ("echo", fun arguments => probeArgument arguments 0 fun value => .done (some value)),
    ("show", showArguments),
    ("peek", peek),
    ("poke", poke),
    ("copy", copy),
    ("strlen", strlen),
    ("getc", getChar)].foldl
    (fun (host : Host) (entry : String × HostFunction) =>
      host.register "env" entry.1 entry.2) stdio

end StackCode.Host
