import StackCode.Host

/-!
# Console functions of the host

The library `c` with its two functions: `putchar` writes one byte and returns its
argument, `puts` writes a zero-terminated string and ends the line.

Main definition: `Host.stdio`.
-/

namespace StackCode.Host

/-- Writes the low byte of an integer and returns the integer. -/
def putchar : HostFunction := fun arguments =>
  .withArgument arguments 0 "missing argument 0" fun value =>
    .print [(value.toNat .u8).toUInt8] (.done (some (.ofRaw .i32 value.raw)))

/-- Writes the string at an address and ends the line. -/
def puts : HostFunction := fun arguments =>
  .withArgument arguments 0 "missing argument 0" fun value =>
    .readCString value.raw <| .orFail fun text =>
      .print (text ++ [0x0A]) (.done (some (.zero .i32)))

/-- The host with the library `c`. -/
def stdio : Host := (empty.register "c" "putchar" putchar).register "c" "puts" puts

end StackCode.Host
