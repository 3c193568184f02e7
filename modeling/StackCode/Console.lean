import StackCode.Text.Utf8

/-!
# The console

What a program has written, and the input that it has not read yet.

Main definitions: `Console.write`, `Console.writeText`, `Console.readByte`.

Main results:

- Theorem `Console.toList_write`: what is written stands behind what was written before.
-/

namespace StackCode

/-- A console: the bytes written so far and the input still to be read. -/
structure Console where
  output : Array UInt8
  input : List UInt8
deriving DecidableEq, Repr

namespace Console

/-- A console without output. -/
def new (input : List UInt8) : Console := ⟨#[], input⟩

/-- Writes bytes. -/
def write (console : Console) (bytes : List UInt8) : Console :=
  { console with output := bytes.foldl Array.push console.output }

/-- Writes a text in UTF-8. -/
def writeText (console : Console) (text : String) : Console := console.write (Text.utf8 text)

/-- The next byte of the input, absent at its end. -/
def readByte (console : Console) : Option UInt8 × Console :=
  match console.input with
  | [] => (none, console)
  | byte :: rest => (some byte, { console with input := rest })

/-- Forgets what was written. -/
def clearOutput (console : Console) : Console := { console with output := #[] }

/-- What was written, read as UTF-8 with ill-formed parts replaced. -/
def text (console : Console) : String := Text.ofUtf8Lenient console.output.toList

/-- Writing to the console adds to what was printed. -/
theorem toList_write (console : Console) (bytes : List UInt8) :
    (console.write bytes).output.toList = console.output.toList ++ bytes := by
  rw [write, List.foldl_push_eq_append']
  simp

/-- Reading from the console prints nothing. -/
@[simp]
theorem output_readByte (console : Console) :
    console.readByte.2.output = console.output := by
  unfold readByte
  split <;> rfl

end Console

end StackCode
