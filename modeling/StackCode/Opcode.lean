import StackCode.DataType

/-!
# Opcodes

The operations of the stack machine.  Every opcode has one `Shape`, the layout of
the operands that an instruction with it must carry.

Main definitions:

- `Opcode`, with its one-byte `tag`, its `mnemonic` and its `shape`.
- `Opcode.isBitwise`: the operations that have no floating-point reading.

Main results:

- Theorem `Opcode.ofTag?_eq_some_iff`: a tag stands for the opcode that has it.
-/

namespace StackCode

/-- The layout of an instruction's operands. -/
inductive Shape where
  | simple
  | typed
  | convert
  | conditional
  | branch
  | stack
  | call
deriving DecidableEq, Repr, Inhabited

/-- The name of a shape in structural text. -/
def Shape.name : Shape → String
  | simple => "Simple"
  | typed => "Typed"
  | convert => "Convert"
  | conditional => "Conditional"
  | branch => "Branch"
  | stack => "Stack"
  | call => "Call"

/-- The operations of the stack machine.  `guard` executes the next instruction
only if its comparison holds. -/
inductive Opcode where
  | nop
  | push
  | pop
  | load
  | store
  | call
  | ret
  | jump
  | guard
  | cast
  | add
  | subtract
  | multiply
  | divide
  | modulo
  | negate
  | increment
  | decrement
  | and
  | or
  | xor
  | not
  | shiftLeft
  | shiftRight
  | compare
  | print
  | printChar
  | readChar
deriving DecidableEq, Repr, Inhabited

namespace Opcode

/-- Every opcode, in the order of their tags. -/
def all : List Opcode :=
  [nop, push, pop, load, store, call, ret, jump, guard, cast, add, subtract, multiply,
    divide, modulo, negate, increment, decrement, and, or, xor, not, shiftLeft, shiftRight,
    compare, print, printChar, readChar]

/-- The tag that stands for the opcode in a binary module. -/
def tag : Opcode → UInt8
  | nop => 0
  | push => 1
  | pop => 2
  | load => 3
  | store => 4
  | call => 5
  | ret => 6
  | jump => 7
  | guard => 8
  | cast => 9
  | add => 10
  | subtract => 11
  | multiply => 12
  | divide => 13
  | modulo => 14
  | negate => 15
  | increment => 16
  | decrement => 17
  | and => 18
  | or => 19
  | xor => 20
  | not => 21
  | shiftLeft => 22
  | shiftRight => 23
  | compare => 24
  | print => 25
  | printChar => 26
  | readChar => 27

/-- The opcode that a tag stands for. -/
def ofTag? (tag : UInt8) : Option Opcode := all[tag.toNat]?

/-- The operand layout that the opcode requires. -/
def shape : Opcode → Shape
  | nop | ret | printChar | readChar => .simple
  | push | pop => .stack
  | call => .call
  | jump => .branch
  | guard | compare => .conditional
  | cast => .convert
  | _ => .typed

/-- The bit operations, which are defined on integers and addresses only. -/
def isBitwise : Opcode → Bool
  | and | or | xor | not | shiftLeft | shiftRight => true
  | _ => false

/-- The name of the opcode in listings and messages. -/
def mnemonic : Opcode → String
  | nop => "nop"
  | push => "push"
  | pop => "pop"
  | load => "load"
  | store => "store"
  | call => "call"
  | ret => "return"
  | jump => "jump"
  | guard => "if"
  | cast => "cast"
  | add => "add"
  | subtract => "subtract"
  | multiply => "multiply"
  | divide => "divide"
  | modulo => "modulo"
  | negate => "negate"
  | increment => "increment"
  | decrement => "decrement"
  | and => "and"
  | or => "or"
  | xor => "xor"
  | not => "not"
  | shiftLeft => "shl"
  | shiftRight => "shr"
  | compare => "compare"
  | print => "print"
  | printChar => "printchar"
  | readChar => "readchar"

/-- The opcode that a mnemonic names. -/
def ofMnemonic? (text : String) : Option Opcode :=
  all.find? fun opcode => opcode.mnemonic == text

/-- The name of the opcode in structural text and in JSON. -/
def name : Opcode → String
  | nop => "Nop"
  | push => "Push"
  | pop => "Pop"
  | load => "Load"
  | store => "Store"
  | call => "Call"
  | ret => "Return"
  | jump => "Jump"
  | guard => "If"
  | cast => "Cast"
  | add => "Add"
  | subtract => "Subtract"
  | multiply => "Multiply"
  | divide => "Divide"
  | modulo => "Modulo"
  | negate => "Negate"
  | increment => "Increment"
  | decrement => "Decrement"
  | and => "And"
  | or => "Or"
  | xor => "Xor"
  | not => "Not"
  | shiftLeft => "ShiftLeft"
  | shiftRight => "ShiftRight"
  | compare => "Compare"
  | print => "Print"
  | printChar => "PrintChar"
  | readChar => "ReadChar"

/-- An opcode is read back from its tag. -/
@[simp]
theorem ofTag?_tag (opcode : Opcode) : ofTag? opcode.tag = some opcode := by
  cases opcode <;> rfl

/-- A tag stands for the opcode that has it. -/
theorem ofTag?_eq_some_iff {tag : UInt8} {opcode : Opcode} :
    ofTag? tag = some opcode ↔ opcode.tag = tag := by
  constructor
  · exact eq_of_getElem?_toNat (by decide)
  · rintro rfl
    exact ofTag?_tag opcode

end Opcode

end StackCode
