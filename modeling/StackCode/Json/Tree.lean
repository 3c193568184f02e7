import StackCode.Text.Hex
import StackCode.Text.Utf16

/-!
# JSON documents

A document as it was written: numbers keep their digits, and strings keep their
escaped 16-bit units, because a document may hold an unpaired surrogate where no text
is asked for.  Objects keep their members in order, repeated names included.

Main definitions:

- `Json.Tree`.
- `Json.ofText`, `Json.text?`: between texts and the parts of a string.
- `Json.Tree.render`: the compact text of a document.
-/

namespace StackCode.Json

/-- A part of a string: a character, or a 16-bit unit given by its number. -/
inductive Part where
  | char (c : Char)
  | unit (unit : Nat)
deriving DecidableEq, Repr

/-- A JSON document. -/
inductive Tree where
  | null
  | bool (value : Bool)
  | number (digits : List Char)
  | string (parts : List Part)
  | array (items : List Tree)
  | object (members : List (List Part × Tree))

/-! ## Strings -/

/-- The parts of a text. -/
def ofText (text : String) : List Part := text.toList.map Part.char

/-- The characters of the parts of a string, absent when a surrogate is unpaired. -/
def chars? : List Part → Option (List Char)
  | [] => some []
  | .char c :: rest => (chars? rest).map (c :: ·)
  | [.unit unit] =>
    if Text.isHighSurrogate unit || Text.isLowSurrogate unit then none
    else some [Char.ofNat unit]
  | .unit unit :: next :: rest =>
    if Text.isHighSurrogate unit then
      match next with
      | .unit low =>
        if Text.isLowSurrogate low then
          (chars? rest).map
            (Char.ofNat (0x10000 + (unit - 0xD800) * 0x400 + (low - 0xDC00)) :: ·)
        else none
      | .char _ => none
    else if Text.isLowSurrogate unit then none
    else (chars? (next :: rest)).map (Char.ofNat unit :: ·)

/-- The text of the parts of a string. -/
def text? (parts : List Part) : Option String := (chars? parts).map String.ofList

/-! ## Rendering -/

/-- The four hexadecimal digits of a 16-bit unit after the mark for a unit. -/
def renderUnit (unit : Nat) : String :=
  "\\u" ++ String.ofList (Text.hexByte (unit / 256).toUInt8 ++ Text.hexByte (unit % 256).toUInt8)

/-- A part of a string between quotes.  Only quotes, backslashes and control
characters are escaped. -/
def renderPart : Part → String
  | .unit unit => renderUnit unit
  | .char c =>
    if c = '"' then "\\\""
    else if c = '\\' then "\\\\"
    else if c = '\n' then "\\n"
    else if c = '\r' then "\\r"
    else if c = '\t' then "\\t"
    else if c = '\x08' then "\\b"
    else if c = '\x0c' then "\\f"
    else if c.toNat < 0x20 then renderUnit c.toNat
    else c.toString

/-- A string between quotes. -/
def renderString (parts : List Part) : String :=
  "\"" ++ String.join (parts.map renderPart) ++ "\""

mutual

/-- The compact text of a document. -/
def Tree.render : Tree → String
  | .null => "null"
  | .bool value => if value then "true" else "false"
  | .number digits => String.ofList digits
  | .string parts => renderString parts
  | .array items => "[" ++ ",".intercalate (renderItems items) ++ "]"
  | .object members => "\x7b" ++ ",".intercalate (renderMembers members) ++ "\x7d"

/-- The compact texts of the items of an array. -/
def renderItems : List Tree → List String
  | [] => []
  | item :: rest => item.render :: renderItems rest

/-- The compact texts of the members of an object. -/
def renderMembers : List (List Part × Tree) → List String
  | [] => []
  | (name, value) :: rest =>
    (renderString name ++ ":" ++ value.render) :: renderMembers rest

end

end StackCode.Json
