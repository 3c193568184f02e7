/-!
# Numbers of a command line

Main definition: `Tool.word64?`.
-/

namespace StackCode.Tool

/-- A whole number of 64 bits in decimal, with an optional plus sign. -/
def word64? (text : String) : Option Nat :=
  let digits :=
    match text.toList with
    | '+' :: rest => rest
    | chars => chars
  if digits.isEmpty || !digits.all Char.isDigit then none
  else
    let n := digits.foldl (fun n c => 10 * n + (c.toNat - '0'.toNat)) 0
    if n < 0x10000000000000000 then some n else none

end StackCode.Tool
